import FieldQuery.Proofs.Reparse
import FieldQuery.Proofs.Spans

/-!
# Texts that show one query

Queries that were read from texts are the same if they are printed the same, as long as their
texts are read as the tokens they were printed for.  This says more than that such a text is read
back, for the text of `not` and a path that begins with the word `in` is not: the tokenizer joins
the two words.  But the slash that is left behind `not in` tells what was printed, for an
expression never begins with one.

* `Joins` — what the tokenizer makes of tokens that it may join.
* `Unjoined` — no slash stands behind `not in`; `composes_unjoined` for what is read.
* `Joins.unique` — what was joined can be told from what is left.
* `Lexing.joining` — texts have the tokens that they were printed for.
* `Query.eq_of_text_eq` — queries with the same text are the same.
-/

namespace FieldQuery

open Text Number Grammar

/-! ## Joined tokens -/

/-- What the tokenizer makes of some tokens, in whose text it may join `not` and the first name of
a path. -/
inductive Joins : List TokenKind → List TokenKind → Prop where
  /-- No tokens. -/
  | nil : Joins [] []
  /-- A token that is left as it is. -/
  | cons {k ms ks} : Joins ms ks → Joins (k :: ms) (k :: ks)
  /-- `not` is joined with the name `in`, and the rest of the path stands behind a slash. -/
  | notIn {k ms ks} : IsSpelling ("in/" ++ k.text) → Joins ms ks →
      Joins (.keyword .not :: .identifier ("in/" ++ k.text) :: ms)
        (.operator (.comparison .notMember) :: .operator (.sign .slash) :: k :: ks)

/-- Does no slash stand behind `not in`? -/
inductive Unjoined : List TokenKind → Prop where
  /-- No tokens. -/
  | nil : Unjoined []
  /-- A token other than `not in`. -/
  | cons {k ks} : k ≠ .operator (.comparison .notMember) → Unjoined ks → Unjoined (k :: ks)
  /-- `not in` and a token other than a slash. -/
  | notMember {k ks} : k ≠ .operator (.sign .slash) → Unjoined (k :: ks) →
      Unjoined (.operator (.comparison .notMember) :: k :: ks)

theorem Unjoined.tail {k : TokenKind} {ks : List TokenKind} (h : Unjoined (k :: ks)) :
    Unjoined ks := by
  cases h with
  | cons _ htail => exact htail
  | notMember _ htail => exact htail

theorem not_unjoined {ks : List TokenKind} :
    ¬ Unjoined (.operator (.comparison .notMember) :: .operator (.sign .slash) :: ks) := by
  intro h
  cases h with
  | cons hne _ => exact hne rfl
  | notMember hne _ => exact hne rfl

theorem Unjoined.append {ks ls : List TokenKind} (hk : Unjoined ks) (hl : Unjoined ls) :
    Unjoined (ks ++ ls) := by
  induction hk with
  | nil => exact hl
  | cons hne _ ih => exact .cons hne ih
  | notMember hne _ ih => exact .notMember hne ih

/-- **No expression has a slash behind `not in`**, for none begins with it. -/
theorem composes_unjoined : Composes Unjoined where
  nil := .nil
  append := .append
  single _ _ hne := .cons hne .nil
  notMember hk h := by
    refine .notMember ?_ h
    rintro rfl
    cases hk
  group h := .cons nofun (h.append (.cons nofun .nil))

/-- **What was joined can be told from what is left.** -/
theorem Joins.unique {ms ms' ks : List TokenKind} (h : Joins ms ks) (h' : Joins ms' ks)
    (hms : Unjoined ms) (hms' : Unjoined ms') : ms = ms' := by
  induction h generalizing ms' with
  | nil =>
    cases h'
    rfl
  | cons hrest ih =>
    cases h' with
    | cons hrest' => rw [ih hrest' hms.tail hms'.tail]
    | notIn _ _ =>
      -- the slash is left as it is on the other side
      cases hrest
      exact absurd hms not_unjoined
  | notIn _ _ ih =>
    cases h' with
    | cons hrest' =>
      cases hrest'
      exact absurd hms' not_unjoined
    | notIn _ hrest' => rw [ih hrest' hms.tail.tail hms'.tail.tail]

theorem Joins.append_left (front : List TokenKind) {ms ks : List TokenKind} (h : Joins ms ks) :
    Joins (front ++ ms) (front ++ ks) := by
  induction front with
  | nil => exact h
  | cons k front ih => exact .cons ih

/-- The first token is left as it is, unless it is a `not` that is joined. -/
theorem Joins.head_eq {k : TokenKind} {ms ks : List TokenKind} (h : Joins ms (k :: ks))
    (hk : k ≠ .operator (.comparison .notMember)) : ∃ tail, ms = k :: tail := by
  cases h with
  | cons _ => exact ⟨_, rfl⟩
  | notIn _ _ => exact absurd rfl hk

theorem Joins.isLexical {ms ks : List TokenKind} (h : Joins ms ks)
    (hks : ∀ k ∈ ks, k.IsLexical) : ∀ k ∈ ms, k.IsLexical := by
  induction h with
  | nil => exact hks
  | cons _ ih =>
    rw [List.forall_mem_cons] at hks ⊢
    exact ⟨hks.1, ih hks.2⟩
  | notIn hspelling _ ih =>
    rw [List.forall_mem_cons, List.forall_mem_cons, List.forall_mem_cons] at hks
    rw [List.forall_mem_cons, List.forall_mem_cons]
    exact ⟨trivial, hspelling, ih hks.2.2.2⟩

/-! ## Words that stand alone -/

/-- Does a text or group end here? -/
def Ending (after : List Char) : Prop :=
  ∀ c ∈ after.head?, c = ')'

theorem Ending.delimits {after : List Char} (h : Ending after) : Delimits after :=
  fun c hc => .inr (.inl (h c hc))

/-- No word is joined with what stands behind the end of a group. -/
theorem Ending.wordAhead? {after : List Char} (h : Ending after) {word : String}
    (hne : word.toList ≠ []) : wordAhead? word after = none := by
  have hword : leadingWord (dropBlanks after) = [] := by
    cases after with
    | nil => rfl
    | cons c cs =>
      obtain rfl := h c rfl
      rfl
  rw [FieldQuery.wordAhead?, hword, if_neg (Ne.symm hne)]

theorem Keyword.text_of_ofText? {s : String} {k : Keyword} (h : ofText? s = some k) :
    k.text = s := by
  unfold ofText? at h
  split at h <;> cases h <;> rfl

/-- A word at the end of a group is one token, which has the word for its text. -/
theorem scanWord_of_ending (spelling : List Char) {after : List Char} (h : Ending after) :
    ∃ k, scanWord spelling after = .found k spelling.length ∧
      k.text = String.ofList spelling := by
  have hnot : wordAhead? "not" after = none := h.wordAhead? (by decide)
  have hin : wordAhead? "in" after = none := h.wordAhead? (by decide)
  unfold scanWord
  rw [hnot, hin]
  split
  case h_8 =>
    split
    · rename_i k hk
      exact ⟨_, rfl, Keyword.text_of_ofText? hk⟩
    · exact ⟨_, rfl, rfl⟩
  all_goals
    rename_i heq
    exact ⟨_, rfl, heq.symm⟩

/-! ## Texts of joined tokens -/

/-- The tokenizer reads the text as what it makes of the tokens. -/
def Shows (cs : List Char) (ms : List TokenKind) : Prop :=
  ∃ ks, Scans cs ks ∧ Joins ms ks

theorem Shows.blank {c : Char} {cs : List Char} {ms : List TokenKind} (hb : isBlank c = true)
    (h : Shows cs ms) : Shows (c :: cs) ms := by
  obtain ⟨ks, hs, hj⟩ := h
  exact ⟨ks, .blank hb hs, hj⟩

theorem Shows.token {c : Char} {cs : List Char} {k : TokenKind} {n : Nat} {ms : List TokenKind}
    (hb : isBlank c = false) (hk : scan c cs = .found k n) (h : Shows ((c :: cs).drop n) ms) :
    Shows (c :: cs) (k :: ms) := by
  obtain ⟨ks, hs, hj⟩ := h
  exact ⟨k :: ks, .token hb hk hs, .cons hj⟩

/-- A text has one meaning only. -/
theorem Scans.unique {cs : List Char} {ks ls : List TokenKind} (h : Scans cs ks)
    (h' : Scans cs ls) : ks = ls := by
  obtain ⟨ts, ht, hk⟩ := h.tokens ⟨cs, 0⟩ rfl
  obtain ⟨us, hu, hl⟩ := h'.tokens ⟨cs, 0⟩ rfl
  rw [ht] at hu
  cases hu
  rw [← hk, hl]

theorem Shows.unique {cs : List Char} {ms ms' : List TokenKind} (h : Shows cs ms)
    (h' : Shows cs ms') (hms : Unjoined ms) (hms' : Unjoined ms') : ms = ms' := by
  obtain ⟨ks, hs, hj⟩ := h
  obtain ⟨ls, hs', hj'⟩ := h'
  rw [hs.unique hs'] at hj
  exact hj.unique hj' hms hms'

/-- Before such a text the text is read as these tokens and what is made of the tokens behind. -/
def ShowsBefore (before : List Char → Prop) (text : List Char) (kinds : List TokenKind) : Prop :=
  ∀ after ls, before after → Shows after ls → Shows (text ++ after) (kinds ++ ls)

/-- The text has its tokens even if nothing follows it. -/
theorem ShowsBefore.shows {before : List Char → Prop} {t : List Char} {ks : List TokenKind}
    (h : ShowsBefore before t ks) (hnil : before []) : Shows t ks := by
  simpa using h [] [] hnil ⟨[], .nil, .nil⟩

theorem showsBefore_minus {t : List Char} {ks : List TokenKind}
    (ht : ShowsBefore Delimits t ks) (hks : ∀ c tail, ks ≠ .operator (.comparison c) :: tail) :
    ShowsBefore Delimits ('-' :: t) (.operator (.sign .minus) :: ks) := by
  intro after ls hd ha
  refine .token (n := 1) (by decide) ?_ (by simpa using ht after ls hd ha)
  show scan '-' (t ++ after) = .found (.operator (.sign .minus)) 1
  rw [scan]
  · rfl
  · intro rest hrest
    cases t with
    | nil =>
      rw [List.nil_append] at hrest
      rcases hd '>' (by rw [hrest]; rfl) with h | h | h <;> cases h
    | cons c cs =>
      cases hrest
      obtain ⟨ks', hs, hj⟩ := ht.shows delimits_nil
      obtain ⟨c, tail, rfl, hc⟩ := hs.head_of_greater
      obtain ⟨tail', rfl⟩ := hj.head_eq (by simpa using hc)
      exact hks c tail' rfl

theorem showsBefore_not {t : List Char} {ks : List TokenKind} (ht : ShowsBefore Delimits t ks)
    (hne : ks ≠ []) (hoperator : ∀ c tail, ks ≠ .operator (.comparison c) :: tail)
    (hname : ∀ s tail, ks ≠ .identifier s :: tail) :
    ShowsBefore Ending ("not ".toList ++ t) (.keyword .not :: ks) := by
  intro after ls he ha
  have hafter := ht after ls he.delimits ha
  refine .token (c := 'n') (n := 3) (by decide) ?_ (.blank (by decide) hafter)
  show scan 'n' ('o' :: 't' :: ' ' :: (t ++ after)) = .found (.keyword .not) 3
  rw [scan_of_isWordStart (by decide)]
  have hahead : wordAhead? "in" (' ' :: (t ++ after)) = none := by
    rw [wordAhead?, dropBlanks, List.dropWhile_cons_of_pos (by decide)]
    refine if_neg fun hin => ?_
    obtain ⟨ks', hs, hj⟩ := hafter
    obtain ⟨k, tail, rfl, hk⟩ := hs.head_of_in hin
    have hhead : k ≠ .operator (.comparison .notMember) := by
      rcases hk with rfl | ⟨s, rfl, -⟩ <;> simp
    obtain ⟨tail', hks⟩ := hj.head_eq hhead
    cases ks with
    | nil => exact hne rfl
    | cons k' ks =>
      cases hks
      rcases hk with rfl | ⟨s, rfl, -⟩
      · exact hoperator _ _ rfl
      · exact hname _ _ rfl
  exact scanWord_not_of_none hahead

/-- Texts have the tokens that they were printed for, which the tokenizer may join. -/
def Lexing.joining : Lexing where
  Inner := ShowsBefore Delimits
  Whole := ShowsBefore Ending
  of_lexes ht after ls hd ha := by
    obtain ⟨ks, hs, hj⟩ := ha
    exact ⟨_, ht after ks hd hs, hj.append_left _⟩
  whole ht after ls he ha := ht after ls he.delimits ha
  spaced ht hu after ls hd ha := by
    rw [List.append_assoc, List.append_assoc, List.cons_append]
    exact ht _ _ (delimits_space _) (.blank (by decide) (hu after ls hd ha))
  parenthesized ht after ls hd ha := by
    have hclose : Shows (')' :: after) (.closeParen :: ls) :=
      .token (n := 1) (by decide) rfl (by simpa using ha)
    have := ht (')' :: after) (.closeParen :: ls) (by simp [Ending]) hclose
    simp only [List.cons_append, List.append_assoc, List.nil_append]
    exact .token (n := 1) (by decide) rfl (by simpa using this)
  minus := showsBefore_minus
  not := showsBefore_not
  isLexical ht := by
    obtain ⟨ks, hs, hj⟩ := ht.shows (by simp [Ending])
    exact hj.isLexical hs.isLexical

/-! ## Negated paths -/

theorem wordAhead?_in_slash (rest : List Char) :
    wordAhead? "in" (' ' :: 'i' :: 'n' :: '/' :: rest) = some 3 := by
  have hnext : dropBlanks (' ' :: 'i' :: 'n' :: '/' :: rest) = 'i' :: 'n' :: '/' :: rest := rfl
  have hword : leadingWord ('i' :: 'n' :: '/' :: rest) = "in".toList := rfl
  have hlength : "in".toList.length = 2 := rfl
  rw [wordAhead?, hnext, if_pos hword, hlength]
  simp only [List.length_cons]
  congr 1
  omega

/-- `not` and a path, at the end of a text or group. -/
theorem showsBefore_not_field {p : Path} (hp : p.IsProper) :
    ShowsBefore Ending ("not ".toList ++ p.text.toList) [.keyword .not, .identifier p.text] := by
  by_cases hin : p.segments.head? = some "in"
  case neg =>
    exact Lexing.joining.whole (Lexing.joining.of_lexes (Expr.lexes_not_field hp hin))
  obtain ⟨w, names, hsegments⟩ := List.exists_cons_of_ne_nil hp.ne_nil
  rw [hsegments, List.head?_cons] at hin
  cases hin
  have hne : names ≠ [] := by
    rintro rfl
    exact hp.not_reserved "in" (by decide) hsegments
  obtain ⟨⟨c, cs, hc, hstart, hcs⟩, -⟩ := Path.pieces_intercalate hne fun s hs =>
    hp.isWord s (by rw [hsegments]; exact List.mem_cons_of_mem _ hs)
  have htext : p.text = "in/" ++ String.intercalate "/" names := by
    obtain ⟨u, more, rfl⟩ := List.exists_cons_of_ne_nil hne
    rw [Path.text, Path.isCurrent, if_neg (by simp [hsegments]), hsegments,
      String.intercalate_cons_cons]
    rfl
  intro after ls he ha
  obtain ⟨ks, hs, hj⟩ := ha
  obtain ⟨k, hk, hkt⟩ := scanWord_of_ending (c :: cs) he
  rw [← hc, String.ofList_toList] at hkt
  refine ⟨.operator (.comparison .notMember) :: .operator (.sign .slash) :: k :: ks, ?_, ?_⟩
  · have hlist : "not ".toList ++ p.text.toList ++ after =
        'n' :: 'o' :: 't' :: ' ' :: 'i' :: 'n' :: '/' :: c :: (cs ++ after) := by
      rw [htext, String.toList_append, hc]
      simp
    have hnot : scan 'n' ('o' :: 't' :: ' ' :: 'i' :: 'n' :: '/' :: c :: (cs ++ after)) =
        .operator (.comparison .notMember) 6 := by
      rw [scan_of_isWordStart (by decide)]
      exact scanWord_not_of_ahead (wordAhead?_in_slash _)
    have hword : scan c (cs ++ after) = .found k (cs.length + 1) := by
      rw [scan_spelled hstart hcs he.delimits, hk]
      rfl
    rw [hlist]
    refine .token (by decide) hnot (.token (n := 1) (by decide) rfl ?_)
    exact .token (isBlank_eq_false_of_isWordStart hstart) hword (by simpa using hs)
  · have hspelling := hp.isSpelling_text
    rw [htext, ← hkt] at hspelling ⊢
    exact .notIn hspelling hj

/-! ## Queries -/

namespace Expr

/-- Is there nothing in the expression that is printed like something else? -/
structure IsUnmistakable (e : Expr) : Prop where
  /-- No string holds the quote that it is printed in. -/
  unquoted : ∀ s, .string s ∈ e.constants → '\'' ∉ s.toList
  /-- No float is infinite, which is printed like a name. -/
  finite : ∀ x, .float x ∈ e.constants → x.isInf = false
  /-- No two minus signs stand before a number that has none of its own. -/
  signs : ∀ v, negation (negation (.literal v)) ∈ e.parts → v.isNonNegative = false

theorem IsUnmistakable.isLegible {e : Expr} (h : e.IsUnmistakable) : e.IsLegible .joining where
  literals v hv := ⟨fun s hs => h.unquoted s (mem_constants.2 ⟨v, hv, hs⟩),
    fun x hx => h.finite x (mem_constants.2 ⟨v, hv, hx⟩)⟩
  nots _ _ hp := showsBefore_not_field hp
  signs := h.signs

end Expr

namespace Query

theorem exists_kinds_eq (ks : List TokenKind) : ∃ ps, kinds ps = ks :=
  ⟨ks.map fun k => ⟨⟨k, 0⟩, .error .noParams⟩, by simp [kinds, Function.comp_def]⟩

/-- The text of a query shows tokens that the query is read from, with no slash behind `not in`. -/
theorem shows_text {q : Query} (hw : q.root.Written) (hq : q.root.IsUnmistakable) :
    ∃ ms, Shows q.text.toList ms ∧ Unjoined ms ∧
      ∀ ps, kinds ps = ms → Derives none (.chain .or) ps q.root [] := by
  obtain ⟨ms, hshows, hs⟩ := (Expr.reads q.root hw hq.isLegible).whole
  have hd : ∀ ps, kinds ps = ms → Derives none (.chain .or) ps q.root [] := by
    intro ps hps
    have := hs ps [] hps (loose_nil 0)
    rwa [List.append_nil] at this
  refine ⟨ms, hshows.shows (by simp [Ending]), ?_, hd⟩
  obtain ⟨ps, hps⟩ := exists_kinds_eq ms
  obtain ⟨front, hfront, hunjoined⟩ := (hd ps hps).takes composes_unjoined
  rw [List.append_nil] at hfront
  rwa [← hfront, hps] at hunjoined

/-- **Queries with the same text are the same.**  Of two queries that were read from texts without
parameters, only one can be shown as a text, unless a string in them holds a single quote, a float
is infinite, or two minus signs stand before a number that has none of its own. -/
theorem eq_of_text_eq {source source' : String} {q q' : Query}
    (h : parse source none = .ok q) (h' : parse source' none = .ok q')
    (hq : q.root.IsUnmistakable) (hq' : q'.root.IsUnmistakable) (htext : q.text = q'.text) :
    q = q' ∧ (q == q') = true := by
  have hw := written_of_parse h
  have hw' := written_of_parse h'
  obtain ⟨ms, hshows, hunjoined, hd⟩ := shows_text hw hq
  obtain ⟨ms', hshows', hunjoined', hd'⟩ := shows_text hw' hq'
  rw [← htext] at hshows'
  obtain rfl := hshows.unique hshows' hunjoined hunjoined'
  obtain ⟨ps, hps⟩ := exists_kinds_eq ms
  obtain ⟨hroot, -⟩ := (hd ps hps).unique (hd' ps hps)
  obtain rfl : q = q' := by
    cases q
    cases q'
    cases hroot
    rfl
  exact ⟨rfl, hw.same_self⟩

/-- `not` before a path that begins with `in`, and a comparison in either spelling. -/
theorem eq_of_text_eq_renamed :
    ∃ q q', parse "not (in/x) or -y is 'a'" none = .ok q ∧
      parse "(not (in/x)) or ((-y) == \"a\")" none = .ok q' ∧
      q.text = "(not in/x) or ((-y) == 'a')" ∧ q.text = q'.text ∧ q = q' ∧ (q == q') = true := by
  have hread : parse "not (in/x) or -y is 'a'" none = .ok ⟨.or (.not (.field ⟨["in", "x"]⟩))
      (.compare .equal (.negation (.field ⟨["y"]⟩)) (.literal (.string "a")))⟩ := by
    with_unfolding_all rfl
  have hread' : parse "(not (in/x)) or ((-y) == \"a\")" none =
      .ok ⟨.or (.not (.field ⟨["in", "x"]⟩))
        (.compare .equal (.negation (.field ⟨["y"]⟩)) (.literal (.string "a")))⟩ := by
    with_unfolding_all rfl
  have hq : (Expr.or (.not (.field ⟨["in", "x"]⟩)) (.compare .equal (.negation (.field ⟨["y"]⟩))
      (.literal (.string "a")))).IsUnmistakable := by
    refine ⟨?unquoted, ?finite, ?signs⟩
    all_goals simp [Expr.constants, Expr.parts, Value.parts, Expr.negation]
  refine ⟨_, _, hread, hread', by with_unfolding_all rfl, rfl, ?_⟩
  exact eq_of_text_eq hread hread' hq hq rfl

/-- Two minus signs before a number are printed like one before the negative number, and a string
may hold the quotes between which it is printed. -/
theorem text_not_injective :
    (∃ q q', parse "- -5" none = .ok q ∧ parse "-(-5)" none = .ok q' ∧ q.text = q'.text ∧
      (q == q') = false) ∧
    ∃ q q', parse "\"a' == 'b\"" none = .ok q ∧ parse "'a' == 'b'" none = .ok q' ∧
      q.text = q'.text ∧ (q == q') = false := by
  constructor
  · exact ⟨⟨.negation (.negation (.literal (.integer 5)))⟩, ⟨.negation (.literal (.integer (-5)))⟩,
      by with_unfolding_all rfl, by with_unfolding_all rfl, by with_unfolding_all rfl, rfl⟩
  · exact ⟨⟨.literal (.string "a' == 'b")⟩,
      ⟨.compare .equal (.literal (.string "a")) (.literal (.string "b"))⟩,
      by with_unfolding_all rfl, by with_unfolding_all rfl, by with_unfolding_all rfl, rfl⟩

end Query

end FieldQuery
