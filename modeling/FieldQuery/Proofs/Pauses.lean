import FieldQuery.Proofs.Lookahead
import FieldQuery.Proofs.Unambiguous

/-!
# Tokens before white space

A token that is all of a text is read in the same way where the text goes on with white space.
Strings and placeholders may have white space in them, and two of the words look at the word
behind it.

* `kinds?` — the kinds of the tokens of a text; `kinds?_eq_some_iff` ties it to `Scans`.
* `Stops.scan_append` — a number before anything that is no part of it.
* `Breaks.scan_append` — a token that is no word before what breaks it off, as a pause does.
* `scanWord_of_alone`, `scanWord_of_joint` — a word before a pause, alone and joined.
-/

namespace FieldQuery

open Text Number

/-! ## The kinds of the tokens of a text -/

/-- The kinds of the tokens of a text, unless it is malformed. -/
def kinds? (text : String) : Option (List TokenKind) :=
  (tokenize text).toOption.map (List.map Token.kind)

/-- White space before a text makes no difference to its tokens. -/
theorem Scans.of_dropBlanks {cs : List Char} {ks : List TokenKind} (h : Scans (dropBlanks cs) ks) :
    Scans cs ks := by
  induction cs with
  | nil => exact h
  | cons c cs ih =>
    by_cases hb : isBlank c = true
    · rw [dropBlanks, List.dropWhile_cons_of_pos hb] at h
      exact .blank hb (ih h)
    · rwa [dropBlanks, List.dropWhile_cons_of_neg hb] at h

/-- A text is read as the tokens that it holds. -/
theorem Input.Holds.scans {input : Input} {ts : List Token} (h : input.Holds ts) :
    Scans input.rest (ts.map Token.kind) := by
  induction ts generalizing input with
  | nil =>
    obtain ⟨after, hnext, -⟩ := h.nil
    refine .of_dropBlanks ?_
    rw [(Input.next_none hnext).1]
    exact .nil
  | cons t ts ih =>
    obtain ⟨after, hnext, hafter⟩ := h.cons
    obtain ⟨c, cs, n, hrest, hscan, htail⟩ := Input.next_some hnext
    have hb : isBlank c = false := head_dropBlanks input.rest c (by rw [hrest]; rfl)
    refine .of_dropBlanks ?_
    rw [hrest]
    exact .token hb hscan (htail ▸ ih hafter)

theorem kinds?_eq_some_iff {text : String} {ks : List TokenKind} :
    kinds? text = some ks ↔ Scans text.toList ks := by
  have htokenize : (∃ ts, (Input.ofText text).Holds ts ∧ ts.map Token.kind = ks) ↔
      kinds? text = some ks := by
    rw [kinds?, tokenize]
    rcases htokens : (Input.ofText text).tokens with ⟨ts, fault⟩
    cases fault with
    | none => simp [Input.Holds, htokens, Except.toOption]
    | some e => simp [Input.Holds, htokens, Except.toOption]
  rw [← htokenize]
  constructor
  · rintro ⟨ts, hholds, rfl⟩
    exact hholds.scans
  · intro h
    exact h.tokens (Input.ofText text) rfl

/-- White space is read as nothing. -/
theorem kinds?_of_blanks {s : String} (h : ∀ c ∈ s.toList, isBlank c = true) :
    kinds? s = some [] := by
  rw [kinds?_eq_some_iff]
  refine .of_dropBlanks ?_
  rw [dropBlanks, List.dropWhile_eq_nil_iff.2 h]
  exact .nil

theorem scans_blanks_append {blanks cs : List Char} {ks : List TokenKind}
    (h : ∀ c ∈ blanks, isBlank c = true) : Scans (blanks ++ cs) ks ↔ Scans cs ks := by
  induction blanks with
  | nil => rfl
  | cons c blanks ih =>
    have hb := h c (List.mem_cons_self ..)
    have ih := ih fun d hd => h d (List.mem_cons_of_mem _ hd)
    constructor
    · intro hs
      cases hs with
      | blank _ hs => exact ih.1 hs
      | token hb' _ _ => rw [hb] at hb'; cases hb'
    · intro hs
      exact .blank hb (ih.2 hs)

/-- White space before a text is passed over. -/
theorem kinds?_blanks_append {blanks s : String} (h : ∀ c ∈ blanks.toList, isBlank c = true) :
    kinds? (blanks ++ s) = kinds? s := by
  refine Option.ext fun ks => ?_
  rw [kinds?_eq_some_iff, kinds?_eq_some_iff, String.toList_append, scans_blanks_append h]

/-- A text has the token that is read first and those behind it. -/
theorem kinds?_of_scan {s t : String} {c : Char} {cs : List Char} {k : TokenKind} {n : Nat}
    (hs : s.toList = c :: cs) (hb : isBlank c = false) (hscan : scan c cs = .found k n)
    (ht : (c :: cs).drop n = t.toList) : kinds? s = (kinds? t).map (k :: ·) := by
  refine Option.ext fun ks => ?_
  rw [Option.map_eq_some_iff, kinds?_eq_some_iff, hs]
  simp only [kinds?_eq_some_iff, ← ht]
  constructor
  · intro h
    cases h with
    | blank hb' _ => rw [hb] at hb'; cases hb'
    | token _ hscan' htail =>
      rw [hscan] at hscan'
      cases hscan'
      exact ⟨_, htail, rfl⟩
  · rintro ⟨ks, htail, rfl⟩
    exact .token hb hscan htail

/-! ## Pauses -/

/-- Does a text end, or go on with white space? -/
def Pauses (after : List Char) : Prop :=
  ∀ c ∈ after.head?, isBlank c = true

theorem Pauses.head_ne {after : List Char} (ha : Pauses after) {d : Char}
    (hd : isBlank d = false) : ∀ c ∈ after.head?, c ≠ d := by
  rintro c hc rfl
  rw [ha c hc] at hd
  cases hd

/-- No path goes on behind a pause. -/
theorem Pauses.head_path {after : List Char} (ha : Pauses after) : ∀ c ∈ after.head?,
    isWordChar c = false ∧ Path.isSeparator c = false := by
  intro c hc
  refine ⟨isWordChar_eq_false_of_isBlank (ha c hc), ?_⟩
  rw [Path.isSeparator, Bool.or_eq_false_iff, beq_eq_false_iff_ne, beq_eq_false_iff_ne]
  exact ⟨ha.head_ne (by decide) c hc, ha.head_ne (by decide) c hc⟩

/-! ## Numbers -/

/-- Does a text end, or go on with what is no part of a number? -/
def Stops (after : List Char) : Prop :=
  ∀ c ∈ after.head?, isWordChar c = false ∧ c ≠ '.'

theorem Pauses.stops {after : List Char} (ha : Pauses after) : Stops after :=
  fun c hc => ⟨isWordChar_eq_false_of_isBlank (ha c hc), ha.head_ne (by decide) c hc⟩

theorem leadingFraction_of_ne {cs : List Char} (h : ∀ c ∈ cs.head?, c ≠ '.') :
    leadingFraction cs = [] := by
  unfold leadingFraction
  split
  · exact absurd rfl (h '.' rfl)
  · rfl

namespace Stops

variable {after : List Char}

theorem head_ne (ha : Stops after) {d : Char} (hd : isWordChar d = true) :
    ∀ c ∈ after.head?, c ≠ d := by
  rintro c hc rfl
  rw [(ha c hc).1] at hd
  cases hd

theorem takeWhile_append (ha : Stops after) {p : Char → Bool}
    (hp : ∀ c, p c = true → isWordChar c = true) (cs : List Char) :
    (cs ++ after).takeWhile p = cs.takeWhile p := by
  have hnil : after.takeWhile p = [] := by
    cases after with
    | nil => rfl
    | cons c tail =>
      refine List.takeWhile_cons_of_neg fun hpc => ?_
      exact ha.head_ne (hp c hpc) c rfl rfl
  rw [List.takeWhile_append]
  split
  · rename_i hall
    rw [hnil, List.append_nil, (List.takeWhile_prefix p).eq_of_length hall]
  · rfl

theorem digits_append (ha : Stops after) (cs : List Char) :
    (cs ++ after).takeWhile isDigit = cs.takeWhile isDigit :=
  ha.takeWhile_append (fun _ => isWordChar_of_isDigit) cs

/-- A number is malformed where a word or point is right behind it. -/
theorem scanNumber_append (ha : Stops after) (value : Except LexCause Value) (taken : Nat)
    (cs : List Char) : scanNumber value taken (cs ++ after) = scanNumber value taken cs := by
  cases cs with
  | cons c cs => rfl
  | nil =>
    have hhead : after.head?.filter (fun c => isWordChar c || c == '.') = none := by
      rw [Option.filter_eq_none_iff]
      intro c hc
      simp [ha c hc]
    unfold scanNumber
    rw [List.nil_append, hhead]
    rfl

theorem leadingFraction_append (ha : Stops after) (cs : List Char) :
    leadingFraction (cs ++ after) = leadingFraction cs := by
  cases cs with
  | nil => exact leadingFraction_of_ne fun c hc => (ha c hc).2
  | cons c cs =>
    by_cases hc : c = '.'
    · subst hc
      exact ha.digits_append cs
    · rw [leadingFraction_of_ne (by simpa using hc), leadingFraction_of_ne (by simpa using hc)]

theorem scanHex_append (ha : Stops after) (cs : List Char) :
    scanHex (cs ++ after) = scanHex cs := by
  have hle : (cs.takeWhile isHexDigit).length ≤ cs.length :=
    (List.takeWhile_prefix isHexDigit).length_le
  rw [scanHex, scanHex, ha.takeWhile_append fun _ => isWordChar_of_isHexDigit,
    List.drop_append_of_le_length hle, ha.scanNumber_append]

end Stops

/-- The digits behind a point are fewer characters than these digits and the point. -/
theorem length_leadingFraction {cs : List Char} (h : leadingFraction cs ≠ []) :
    1 + (leadingFraction cs).length ≤ cs.length := by
  cases cs with
  | nil => exact absurd rfl h
  | cons c cs =>
    by_cases hc : c = '.'
    · subst hc
      have hle : (cs.takeWhile isDigit).length ≤ cs.length :=
        (List.takeWhile_prefix isDigit).length_le
      rw [Nat.add_comm]
      exact Nat.succ_le_succ hle
    · exact absurd (leadingFraction_of_ne (by simpa using hc)) h

theorem Stops.scanDecimal_append {after : List Char} (ha : Stops after) (cs : List Char) :
    scanDecimal (cs ++ after) = scanDecimal cs := by
  have hle : (cs.takeWhile isDigit).length ≤ cs.length :=
    (List.takeWhile_prefix isDigit).length_le
  rw [scanDecimal, scanDecimal, ha.digits_append]
  dsimp only
  rw [List.drop_append_of_le_length hle, ha.leadingFraction_append, ha.scanNumber_append]
  split
  · rfl
  · rename_i hfraction
    rw [List.drop_append_of_le_length (length_leadingFraction (by simpa using hfraction)),
      ha.scanNumber_append]

/-- A numeral in base sixteen begins with `0x` or `0X`. -/
theorem scan_of_hex {x : Char} (hx : x = 'x' ∨ x = 'X') (cs : List Char) :
    scan '0' (x :: cs) = scanHex cs := by
  rcases hx with rfl | rfl <;> rfl

/-- A numeral is in base sixteen or in base ten. -/
theorem hex_or_decimal (c : Char) (cs : List Char) :
    (∃ x rest, (x = 'x' ∨ x = 'X') ∧ c = '0' ∧ cs = x :: rest) ∨
      (c = '0' → ∀ d ∈ cs.head?, d ≠ 'x' ∧ d ≠ 'X') := by
  cases cs with
  | nil => exact .inr fun _ => nofun
  | cons d ds =>
    by_cases h : c = '0' ∧ (d = 'x' ∨ d = 'X')
    · exact .inl ⟨d, ds, h.2, h.1, rfl⟩
    · right
      rintro rfl _ ⟨⟩
      exact not_or.1 fun hd => h ⟨rfl, hd⟩

/-- **A number is read in the same way** where the text goes on with what is no part of it. -/
theorem Stops.scan_append {c : Char} {after : List Char} (ha : Stops after)
    (hc : isDigit c = true) (cs : List Char) : scan c (cs ++ after) = scan c cs := by
  rcases hex_or_decimal c cs with ⟨x, rest, hx, rfl, rfl⟩ | hten
  · rw [List.cons_append, scan_of_hex hx, scan_of_hex hx, ha.scanHex_append]
  · rw [scan_of_isDigit hc hten, scan_of_isDigit hc, ← List.cons_append, ha.scanDecimal_append]
    intro hzero d hd
    cases cs with
    | nil => exact ⟨ha.head_ne (by decide) d hd, ha.head_ne (by decide) d hd⟩
    | cons e es => exact hten hzero d hd

theorem scanHex_taken_le (cs : List Char) : (scanHex cs).taken ≤ cs.length + 2 := by
  have hle : (cs.takeWhile isHexDigit).length ≤ cs.length :=
    (List.takeWhile_prefix isHexDigit).length_le
  rw [scanHex]
  split
  · exact Nat.le_add_left 2 _
  · rw [scanNumber_taken]
    omega

theorem scanDecimal_taken_le (cs : List Char) : (scanDecimal cs).taken ≤ cs.length := by
  have hle : (cs.takeWhile isDigit).length ≤ cs.length :=
    (List.takeWhile_prefix isDigit).length_le
  rw [scanDecimal]
  dsimp only
  split
  · rwa [scanNumber_taken]
  · rename_i hfraction
    have hfit := length_leadingFraction (by simpa using hfraction)
    rw [List.length_drop] at hfit
    rw [scanNumber_taken]
    omega

/-! ## Strings and placeholders -/

section

variable {cs after : List Char} {k : TokenKind} {n : Nat}

/-- Where a string ends is up to its quotes. -/
theorem scanString_append {quote : Char} (h : scanString quote cs = .found k n) :
    scanString quote (cs ++ after) = .found k n := by
  rw [scanString] at h ⊢
  split at h
  · rename_i hlt
    have hbody : (cs ++ after).takeWhile (· ≠ quote) = cs.takeWhile (· ≠ quote) := by
      rw [List.takeWhile_append, if_neg (Nat.ne_of_lt hlt)]
    rw [hbody, if_pos (by rw [List.length_append]; exact Nat.lt_add_right _ hlt)]
    exact h
  · cases h

theorem dropBlanks_append (h : dropBlanks cs ≠ []) :
    dropBlanks (cs ++ after) = dropBlanks cs ++ after := by
  rw [dropBlanks, List.dropWhile_append, if_neg (by simpa [dropBlanks] using h)]
  rfl

/-- Where a placeholder ends is up to its brace. -/
theorem scanPlaceholder_append (h : scanPlaceholder cs = .found k n) :
    scanPlaceholder (cs ++ after) = .found k n := by
  rw [scanPlaceholder] at h ⊢
  split at h
  · rename_i closing hclosing
    -- something is left behind every part but the last, so no part reaches into what follows
    have hname : (dropBlanks cs).drop (leadingWord (dropBlanks cs)).length ≠ [] := by
      intro hnil
      rw [hnil] at hclosing
      cases hclosing
    have hcs : dropBlanks cs ≠ [] := by
      intro hnil
      rw [hnil, List.drop_nil] at hname
      exact hname rfl
    have hword : leadingWord (dropBlanks cs ++ after) = leadingWord (dropBlanks cs) := by
      rw [leadingWord, List.takeWhile_append, if_neg]
      · rfl
      · intro hlength
        refine hname ?_
        rw [leadingWord, hlength, List.drop_length]
    have hshort : (leadingWord (dropBlanks cs)).length ≤ (dropBlanks cs).length :=
      (List.takeWhile_prefix isWordChar).length_le
    have happend : dropBlanks ((dropBlanks cs ++ after).drop (leadingWord (dropBlanks cs)).length) =
        '\x7d' :: closing ++ after := by
      rw [List.drop_append_of_le_length hshort,
        dropBlanks_append (by rw [hclosing]; exact List.cons_ne_nil _ _), hclosing]
    rw [hclosing] at h
    rw [dropBlanks_append hcs, hword, happend, ← h, List.cons_append]
    simp only [List.length_cons, List.length_append]
    congr 2
    omega
  · cases h
  · cases h

end

/-! ## The length of a token -/

theorem scanString_taken_le (quote : Char) (cs : List Char) :
    (scanString quote cs).taken ≤ cs.length + 1 := by
  have hle : (cs.takeWhile (· ≠ quote)).length ≤ cs.length :=
    (List.takeWhile_prefix _).length_le
  rw [scanString]
  split
  · exact Nat.succ_le_succ ‹_›
  · exact Nat.succ_le_succ hle

theorem scanPlaceholder_taken_le (cs : List Char) : (scanPlaceholder cs).taken ≤ cs.length + 1 := by
  rw [scanPlaceholder]
  split
  · rename_i closing hclosing
    have hle : ('\x7d' :: closing).length ≤ cs.length := by
      rw [← hclosing]
      exact ((List.dropWhile_suffix _).trans ((List.drop_suffix _ _).trans
        (List.dropWhile_suffix _))).length_le
    rw [List.length_cons] at hle
    rw [hclosing]
    show cs.length - (closing.length + 1) + 1 + 1 ≤ _
    omega
  · exact Nat.succ_le_succ (Nat.sub_le _ _)
  · exact Nat.succ_le_succ (Nat.sub_le _ _)

theorem leadingPath_isPrefix (cs : List Char) : leadingPath cs <+: cs := by
  induction cs with
  | nil => exact List.prefix_rfl
  | cons c cs ih =>
    rw [leadingPath]
    split
    · exact (List.prefix_cons_inj c).2 ih
    · exact List.nil_prefix

/-- A word ahead is among the characters that there are. -/
theorem wordAhead?_le {w : String} {cs : List Char} {n : Nat} (h : wordAhead? w cs = some n) :
    n ≤ cs.length := by
  rw [wordAhead?] at h
  split at h
  · rename_i hword
    obtain ⟨⟩ := h
    have hnext : (dropBlanks cs).length ≤ cs.length := (List.dropWhile_suffix _).length_le
    have hle : w.toList.length ≤ (dropBlanks cs).length :=
      hword ▸ (List.takeWhile_prefix isWordChar).length_le
    omega
  · cases h

theorem scanWord_taken_le (spelling after : List Char) :
    (scanWord spelling after).taken ≤ spelling.length + after.length := by
  have hjoined : ∀ w n, wordAhead? w after = some n →
      spelling.length + n ≤ spelling.length + after.length :=
    fun _ _ h => Nat.add_le_add_left (wordAhead?_le h) _
  unfold scanWord
  split
  case h_1 | h_2 =>
    split
    · exact hjoined _ _ ‹_›
    · exact Nat.le_add_right _ _
  case h_8 => split <;> exact Nat.le_add_right _ _
  all_goals exact Nat.le_add_right _ _

/-- A token takes no more characters than there are. -/
theorem scan_taken_le (c : Char) (cs : List Char) : (scan c cs).taken ≤ cs.length + 1 := by
  by_cases hdigit : isDigit c = true
  · rcases hex_or_decimal c cs with ⟨x, rest, hx, rfl, rfl⟩ | hten
    · rw [scan_of_hex hx]
      exact scanHex_taken_le rest
    · rw [scan_of_isDigit hdigit hten]
      exact scanDecimal_taken_le (c :: cs)
  by_cases hc : isWordStart c = true
  · rw [scan_of_isWordStart hc]
    have hword := scanWord_taken_le (c :: leadingPath cs) (cs.drop (leadingPath cs).length)
    have hpath : (leadingPath cs).length ≤ cs.length := (leadingPath_isPrefix cs).length_le
    rw [List.length_cons, List.length_drop] at hword
    omega
  unfold scan
  split
  case h_18 => exact scanPlaceholder_taken_le _
  case h_19 | h_20 => exact scanString_taken_le _ _
  case h_21 =>
    rw [if_neg hdigit, if_neg hc]
    exact Nat.zero_le _
  all_goals simp [Scan.found, Scan.operator, Scan.fault]

/-! ## Any token but a word -/

/-- Does a text end, or go on with what no token but a word or string can go on with? -/
def Breaks (after : List Char) : Prop :=
  ∀ c ∈ after.head?, isWordChar c = false ∧ c ∉ ['.', '=', '>']

namespace Breaks

variable {after : List Char}

theorem stops (ha : Breaks after) : Stops after :=
  fun c hc => ⟨(ha c hc).1, fun h => (ha c hc).2 (by simp [h])⟩

/-- What begins with the second character of a sign did so before. -/
theorem exists_tail (ha : Breaks after) {d : Char} (hd : d ∈ ['.', '=', '>'])
    {cs rest : List Char} (h : cs ++ after = d :: rest) : ∃ tail, cs = d :: tail := by
  cases cs with
  | nil =>
    rw [List.nil_append] at h
    subst h
    exact absurd hd (ha d rfl).2
  | cons e es =>
    cases h
    exact ⟨es, rfl⟩

/-- **A token that is no word is read in the same way** where the text goes on with what breaks
it off. -/
theorem scan_append (ha : Breaks after) {c : Char} {cs : List Char} {k : TokenKind} {n : Nat}
    (hc : isWordStart c = false) (h : scan c cs = .found k n) :
    scan c (cs ++ after) = .found k n := by
  by_cases hdigit : isDigit c = true
  · rw [ha.stops.scan_append hdigit, h]
  unfold scan at h
  split at h
  case h_6 | h_15 | h_17 =>
    -- another sign begins with this one
    rename_i hne
    rw [← h, scan]
    intro rest heq
    obtain ⟨tail, rfl⟩ := ha.exists_tail (by decide) heq
    exact hne _ rfl
  case h_11 | h_13 => cases h
  case h_18 => exact scanPlaceholder_append h
  case h_19 | h_20 => exact scanString_append h
  case h_21 =>
    rw [if_neg hdigit, if_neg (by simp [hc])] at h
    cases h
  all_goals exact h

end Breaks

theorem Pauses.breaks {after : List Char} (ha : Pauses after) : Breaks after := by
  intro c hc
  refine ⟨isWordChar_eq_false_of_isBlank (ha c hc), fun hmem => ?_⟩
  simp only [List.mem_cons, List.not_mem_nil, or_false] at hmem
  rcases hmem with rfl | rfl | rfl <;> exact ha.head_ne (by decide) _ hc rfl

/-! ## Words -/

/-- A word that is joined with the next one, and what the two are. -/
inductive Joint : String → String → TokenKind → Prop where
  /-- `is not` -/
  | isNot : Joint "is" "not" (.operator (.comparison .isNot))
  /-- `not in` -/
  | notIn : Joint "not" "in" (.operator (.comparison .notMember))

/-- Words that are joined are read as words. -/
theorem Joint.isPath {s w : String} {k : TokenKind} (h : Joint s w k) :
    ∃ c cs, s.toList = c :: cs ∧ isWordStart c = true ∧ leadingPath cs = cs := by
  cases h with
  | isNot => exact ⟨'i', ['s'], rfl, by decide, by decide⟩
  | notIn => exact ⟨'n', ['o', 't'], rfl, by decide, by decide⟩

/-- What is joined with a word is a word. -/
theorem Joint.isWord {s w : String} {k : TokenKind} (h : Joint s w k) : IsWord w := by
  cases h with
  | isNot => exact ⟨'n', ['o', 't'], rfl, by decide, List.all_eq_true.1 (by decide)⟩
  | notIn => exact ⟨'i', ['n'], rfl, by decide, List.all_eq_true.1 (by decide)⟩

/-- A word that is not joined is read as if nothing followed it. -/
theorem scanWord_of_alone {spelling after : List Char}
    (h : ∀ w k, Joint (String.ofList spelling) w k → wordAhead? w after = none) :
    scanWord spelling after = scanWord spelling [] := by
  have hnil : ∀ s w k, Joint s w k → wordAhead? w [] = none := by
    rintro _ _ _ (_ | _) <;> rfl
  unfold scanWord
  split
  case h_1 heq =>
    rw [heq] at h
    rw [h _ _ .isNot, hnil _ _ _ .isNot]
  case h_2 heq =>
    rw [heq] at h
    rw [h _ _ .notIn, hnil _ _ _ .notIn]
  all_goals rfl

/-- A word is joined with the next one. -/
theorem scanWord_of_joint {s w : String} {k : TokenKind} {after : List Char} {n : Nat}
    (hj : Joint s w k) (hw : wordAhead? w after = some n) :
    scanWord s.toList after = .found k (s.toList.length + n) := by
  cases hj with
  | isNot => exact scanWord_is_of_ahead hw
  | notIn => exact scanWord_not_of_ahead hw

/-- A word that is not joined takes as many characters as it has. -/
theorem length_of_scanWord {spelling after : List Char} {k : TokenKind} {n : Nat}
    (h : scanWord spelling after = .found k n) (hjoint : ∀ s w, ¬ Joint s w k) :
    n = spelling.length := by
  unfold scanWord at h
  split at h
  case h_1 =>
    split at h
    · cases h
      exact absurd .isNot (hjoint _ _)
    · cases h
      rfl
  case h_2 =>
    split at h
    · cases h
      exact absurd .notIn (hjoint _ _)
    · cases h
      rfl
  case h_8 => split at h <;> (cases h; rfl)
  all_goals
    cases h
    rfl

/-- Nothing but white space holds no word. -/
theorem wordAhead?_of_blanks {word : String} {blanks : List Char} (hw : IsWord word)
    (hb : ∀ c ∈ blanks, isBlank c = true) : wordAhead? word blanks = none := by
  obtain ⟨c, cs, hword, -⟩ := hw
  rw [wordAhead?, dropBlanks, List.dropWhile_eq_nil_iff.2 hb, hword]
  rfl

/-- What the next word behind white space is, is up to the text between the gaps. -/
theorem wordAhead?_blanks_append {word : String} {blanks cs after : List Char}
    (hb : ∀ c ∈ blanks, isBlank c = true) (hcs : dropBlanks cs = cs) (hne : cs ≠ [])
    (ha : Pauses after) : wordAhead? word (blanks ++ (cs ++ after)) =
      if leadingWord cs = word.toList then some (blanks.length + word.toList.length) else none := by
  have hnext : dropBlanks (blanks ++ (cs ++ after)) = cs ++ after := by
    rw [dropBlanks, List.dropWhile_append_of_pos hb]
    show dropBlanks (cs ++ after) = cs ++ after
    rw [dropBlanks_append (by rwa [hcs]), hcs]
  have hword : leadingWord (cs ++ after) = leadingWord cs :=
    ha.stops.takeWhile_append (fun _ => id) cs
  have hlength : (blanks ++ (cs ++ after)).length - (cs ++ after).length = blanks.length := by
    rw [List.length_append, Nat.add_sub_cancel]
  rw [wordAhead?, hnext, hword, hlength]

end FieldQuery
