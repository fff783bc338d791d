import FieldQuery.Proofs.Words

/-!
# Reading the tokens of a text

What a text is read as does not depend on positions, and a text that is put together from pieces
is read piece by piece as long as each piece is delimited.

* `Scans` — a text and the kinds of its tokens; `Scans.tokens` ties it to the function.
* `Lexes` — a text and its tokens wherever it stands before a delimiter; `Lexes.spaced`,
  `Lexes.parenthesized` and their like put such texts together.
* `scan_spelled` — a word or path before a delimiter is read as it stands.
-/

namespace FieldQuery

open Text Number

/-! ## Kinds of tokens without their positions -/

/-- The text is read as tokens of these kinds. -/
inductive Scans : List Char → List TokenKind → Prop where
  /-- Nothing is left. -/
  | nil : Scans [] []
  /-- White space before a token. -/
  | blank {c cs ks} : isBlank c = true → Scans cs ks → Scans (c :: cs) ks
  /-- One token and those behind it. -/
  | token {c cs k n ks} : isBlank c = false → scan c cs = .found k n →
      Scans ((c :: cs).drop n) ks → Scans (c :: cs) (k :: ks)

/-- Behind the white space at the beginning of a text there is none. -/
theorem head_dropBlanks (cs : List Char) : ∀ c ∈ (dropBlanks cs).head?, isBlank c = false := by
  intro c hc
  have hhead := List.head?_dropWhile_not isBlank cs
  rw [← dropBlanks, hc] at hhead
  simpa using hhead

theorem Input.skipBlanks_rest (input : Input) : input.skipBlanks.rest = dropBlanks input.rest := by
  obtain ⟨front, hfront⟩ : dropBlanks input.rest <:+ input.rest := List.dropWhile_suffix _
  have hlength : input.rest.length - (dropBlanks input.rest).length = front.length := by
    have := congrArg List.length hfront
    rw [List.length_append] at this
    omega
  rw [skipBlanks, drop, hlength]
  dsimp only
  calc input.rest.drop front.length
      = (front ++ dropBlanks input.rest).drop front.length := by rw [hfront]
    _ = dropBlanks input.rest := List.drop_left

/-- Where there is no next token, there is nothing but white space. -/
theorem Input.next_none {input after : Input} (h : input.next = (.ok none, after)) :
    dropBlanks input.rest = [] ∧ after.rest = [] := by
  unfold Input.next at h
  dsimp only at h
  split at h
  · rename_i hrest
    obtain ⟨-, rfl⟩ := Prod.mk.inj h
    exact ⟨by rw [← Input.skipBlanks_rest, hrest], hrest⟩
  · obtain ⟨ho, -⟩ := Prod.mk.inj h
    split at ho <;> cases ho

/-- The next token stands behind any white space, and the input goes on behind it. -/
theorem Input.next_eq_some {input after : Input} {t : Token}
    (h : input.next = (.ok (some t), after)) :
    ∃ c cs n, input.skipBlanks.rest = c :: cs ∧ scan c cs = .found t.kind n ∧
      t.position = input.skipBlanks.position ∧ after = input.skipBlanks.drop n := by
  unfold Input.next at h
  dsimp only at h
  split at h
  · cases (Prod.mk.inj h).1
  · rename_i c cs hrest
    obtain ⟨ho, rfl⟩ := Prod.mk.inj h
    split at ho
    · rename_i k hk
      cases ho
      exact ⟨c, cs, (scan c cs).taken, hrest, by rw [Scan.found, ← hk], rfl, rfl⟩
    · cases ho

/-- The next token is scanned behind any white space. -/
theorem Input.next_some {input after : Input} {t : Token} (h : input.next = (.ok (some t), after)) :
    ∃ c cs n, dropBlanks input.rest = c :: cs ∧ scan c cs = .found t.kind n ∧
      after.rest = (c :: cs).drop n := by
  obtain ⟨c, cs, n, hrest, hscan, -, rfl⟩ := Input.next_eq_some h
  exact ⟨c, cs, n, by rw [← Input.skipBlanks_rest, hrest], hscan, by rw [Input.drop, hrest]⟩

/-- What is read as tokens of some kinds has tokens of these kinds and no fault. -/
theorem Scans.tokens {cs : List Char} {ks : List TokenKind} (h : Scans cs ks) :
    ∀ input : Input, dropBlanks input.rest = dropBlanks cs →
      ∃ ts, input.tokens = (ts, none) ∧ ts.map Token.kind = ks := by
  induction h with
  | nil =>
    intro input hi
    have hnext : input.next = (.ok none, input.skipBlanks) := by
      rw [Input.next]
      dsimp only
      rw [Input.skipBlanks_rest, hi]
      rfl
    exact ⟨[], Input.tokens_of_none hnext, rfl⟩
  | blank hb _ ih =>
    intro input hi
    refine ih input (hi.trans ?_)
    rw [dropBlanks, List.dropWhile_cons_of_pos hb]
    rfl
  | @token c cs k n ks hb hs _ ih =>
    intro input hi
    have hrest : input.skipBlanks.rest = c :: cs := by
      rw [Input.skipBlanks_rest, hi, dropBlanks, List.dropWhile_cons_of_neg (by simp [hb])]
    have hnext : input.next =
        (.ok (some ⟨k, input.skipBlanks.position⟩), input.skipBlanks.drop n) := by
      rw [Input.next]
      dsimp only
      split
      · rename_i heq; rw [hrest] at heq; cases heq
      · rename_i heq
        rw [hrest] at heq
        cases heq
        rw [hs]
        rfl
    obtain ⟨ts, ht, hk⟩ := ih (input.skipBlanks.drop n) (by rw [Input.drop, hrest])
    refine ⟨⟨k, input.skipBlanks.position⟩ :: ts, ?_, by rw [List.map_cons, hk]⟩
    rw [Input.tokens_of_some hnext, ht]

/-! ## Texts before a delimiter -/

/-- Does a text end, or go on with a blank, a closing parenthesis or a comma? -/
def Delimits (after : List Char) : Prop :=
  ∀ c ∈ after.head?, c = ' ' ∨ c = ')' ∨ c = ','

theorem delimits_nil : Delimits [] := by
  simp [Delimits]

theorem delimits_space (cs : List Char) : Delimits (' ' :: cs) := by
  simp [Delimits]

theorem delimits_close (cs : List Char) : Delimits (')' :: cs) := by
  simp [Delimits]

theorem delimits_comma (cs : List Char) : Delimits (',' :: cs) := by
  simp [Delimits]

/-- No word or numeral goes on with a delimiter. -/
theorem Delimits.head {after : List Char} (h : Delimits after) : ∀ c ∈ after.head?,
    isWordChar c = false ∧ Path.isSeparator c = false ∧ isDigit c = false := by
  intro c hc
  rcases h c hc with rfl | rfl | rfl <;> decide

/-- Before a delimiter the text is read as tokens of these kinds, and the rest as before. -/
def Lexes (text : List Char) (kinds : List TokenKind) : Prop :=
  ∀ after ks, Delimits after → Scans after ks → Scans (text ++ after) (kinds ++ ks)

/-- A text that is one token before any delimiter. -/
theorem lexes_single {c : Char} {cs : List Char} {k : TokenKind} (hb : isBlank c = false)
    (hs : ∀ after, Delimits after → scan c (cs ++ after) = .found k (cs.length + 1)) :
    Lexes (c :: cs) [k] := by
  intro after ks hd ha
  refine .token hb (hs after hd) ?_
  simpa using ha

/-- A text on its own. -/
theorem Lexes.scans {text : List Char} {kinds : List TokenKind} (h : Lexes text kinds) :
    Scans text kinds := by
  simpa using h [] [] delimits_nil .nil

/-- Two texts with a blank between them. -/
theorem Lexes.spaced {t u : List Char} {ks ls : List TokenKind} (ht : Lexes t ks)
    (hu : Lexes u ls) : Lexes (t ++ ' ' :: u) (ks ++ ls) := by
  intro after ms hd ha
  rw [List.append_assoc, List.append_assoc, List.cons_append]
  exact ht _ _ (delimits_space _) (.blank (by decide) (hu after ms hd ha))

/-- A text between parentheses. -/
theorem Lexes.parenthesized {t : List Char} {ks : List TokenKind} (ht : Lexes t ks) :
    Lexes ('(' :: t ++ [')']) (.openParen :: ks ++ [.closeParen]) := by
  intro after ms hd ha
  have hclose : Scans (')' :: after) (.closeParen :: ms) :=
    .token (n := 1) (by decide) rfl (by simpa using ha)
  have := ht (')' :: after) (.closeParen :: ms) (delimits_close _) hclose
  simp only [List.cons_append, List.append_assoc, List.nil_append]
  exact .token (n := 1) (by decide) rfl (by simpa using this)

/-- A text that begins with `>` is read as a comparison first, and not as one of words. -/
theorem Scans.head_of_greater {cs : List Char} {ks : List TokenKind} (h : Scans ('>' :: cs) ks) :
    ∃ c tail, ks = .operator (.comparison c) :: tail ∧ c ≠ .notMember := by
  cases h with
  | blank hb _ => exact absurd hb (by decide)
  | token _ hs _ =>
    unfold scan at hs
    split at hs <;> simp_all [Scan.operator, Scan.found]
    · exact ⟨_, hs.1.symm, by decide⟩
    · exact ⟨_, hs.1.symm, by decide⟩

/-- A sign and the text behind it, which must not make it an arrow. -/
theorem Lexes.minus {t : List Char} {ks : List TokenKind} (ht : Lexes t ks)
    (hks : ∀ c tail, ks ≠ .operator (.comparison c) :: tail) :
    Lexes ('-' :: t) (.operator (.sign .minus) :: ks) := by
  intro after ls hd ha
  have hscan : scan '-' (t ++ after) = .found (.operator (.sign .minus)) 1 := by
    rw [scan]
    · rfl
    · intro rest hrest
      cases t with
      | nil =>
        rw [List.nil_append] at hrest
        rcases hd '>' (by rw [hrest]; rfl) with h | h | h <;> cases h
      | cons c cs =>
        cases hrest
        obtain ⟨c, tail, heq, -⟩ := ht.scans.head_of_greater
        exact hks c tail heq
  exact .token (by decide) hscan (by simpa using ht after ls hd ha)

/-! ## Words -/

/-- A word or path is read from its first letter to its last. -/
theorem scan_of_isWordStart {c : Char} (h : isWordStart c = true) (cs : List Char) :
    scan c cs = scanWord (c :: leadingPath cs) (cs.drop (leadingPath cs).length) := by
  unfold scan
  split
  case h_21 => rw [if_neg (by simp [isDigit_eq_false_of_isWordStart h]), if_pos h]; rfl
  all_goals exact absurd h (by decide)

/-- A word or path is read as it stands where nothing follows that it could go on with. -/
theorem scan_path_append {c : Char} {cs after : List Char} (hc : isWordStart c = true)
    (hcs : leadingPath cs = cs)
    (ha : ∀ d ∈ after.head?, isWordChar d = false ∧ Path.isSeparator d = false) :
    scan c (cs ++ after) = scanWord (c :: cs) after := by
  rw [scan_of_isWordStart hc, leadingPath_append ha, hcs, List.drop_left]

/-- A word or path before a delimiter is read as it stands. -/
theorem scan_spelled {c : Char} {cs after : List Char} (hc : isWordStart c = true)
    (hcs : leadingPath cs = cs) (hd : Delimits after) :
    scan c (cs ++ after) = scanWord (c :: cs) after :=
  scan_path_append hc hcs fun d hd' => ⟨(hd.head d hd').1, (hd.head d hd').2.1⟩

end FieldQuery
