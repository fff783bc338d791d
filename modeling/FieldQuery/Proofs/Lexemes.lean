import FieldQuery.Proofs.Numerals
import FieldQuery.Proofs.Scanning

/-!
# Texts that are one token

Names, words of the language, strings and numbers are each read as one token before any
delimiter, and so are the signs of the language.

* `lexes_identifier` — a spelling is a name.
* `Lexes.not` — `not` stands on its own where no `in` follows it.
* `lexes_string` — a string must not hold the quote that ends it.
* `lexes_natural`, `lexes_decimal` — numbers.
-/

namespace FieldQuery

open Text Number

/-! ## Words -/

/-- A word of the language that is one token on its own. -/
theorem lexes_word {c : Char} {cs : List Char} {k : TokenKind} (hc : isWordStart c = true)
    (hcs : leadingPath cs = cs) (hk : ∀ after, Delimits after →
      scanWord (c :: cs) after = .found k (cs.length + 1)) : Lexes (c :: cs) [k] :=
  lexes_single (isBlank_eq_false_of_isWordStart hc) fun after hd => by
    rw [scan_spelled hc hcs hd, hk after hd]

/-- A spelling is read as a name, whatever follows it. -/
theorem scanWord_of_isSpelling {s : String} (h : IsSpelling s) (after : List Char) :
    scanWord s.toList after = .found (.identifier s) s.toList.length := by
  obtain ⟨-, hr⟩ := h
  rw [scanWord, String.ofList_toList]
  split
  case h_8 =>
    have hkey : Keyword.ofText? s = none := by
      cases hk : Keyword.ofText? s with
      | none => rfl
      | some k =>
        refine absurd ?_ hr
        revert hk
        unfold Keyword.ofText?
        split <;> simp [reservedWords]
    rw [hkey]
  all_goals exact absurd (by decide) hr

/-- A name is one token. -/
theorem lexes_identifier {s : String} (h : IsSpelling s) : Lexes s.toList [.identifier s] := by
  have hscan := scanWord_of_isSpelling h
  obtain ⟨⟨c, cs, hs, hc, hcs⟩, -⟩ := h
  rw [hs] at hscan ⊢
  exact lexes_word hc hcs fun after _ => hscan after

/-- A word behind a blank is found. -/
theorem wordAhead?_word {word : String} {after : List Char}
    (hall : word.toList.all isWordChar = true) (hne : word.toList ≠ []) (hd : Delimits after) :
    wordAhead? word (' ' :: word.toList ++ after) = some (word.toList.length + 1) := by
  have hw : ∀ c ∈ word.toList, isWordChar c = true := List.all_eq_true.1 hall
  have hnext : dropBlanks (' ' :: word.toList ++ after) = word.toList ++ after := by
    rw [dropBlanks, List.cons_append, List.dropWhile_cons_of_pos (by decide)]
    cases hs : word.toList with
    | nil => exact absurd hs hne
    | cons c cs =>
      rw [List.cons_append, List.dropWhile_cons_of_neg]
      rw [isBlank_eq_false_of_isWordChar (hw c (by rw [hs]; exact List.mem_cons_self ..))]
      simp
  rw [wordAhead?, hnext, if_pos (leadingWord_append hw fun c hc => (hd.head c hc).1)]
  simp only [List.cons_append, List.length_cons, List.length_append]
  congr 1
  omega

theorem scanWord_is_of_ahead {after : List Char} {n : Nat} (h : wordAhead? "not" after = some n) :
    scanWord "is".toList after = .operator (.comparison .isNot) (2 + n) := by
  show scanWord ['i', 's'] after = _
  simp only [scanWord, h]
  rfl

theorem scanWord_not_of_ahead {after : List Char} {n : Nat} (h : wordAhead? "in" after = some n) :
    scanWord "not".toList after = .operator (.comparison .notMember) (3 + n) := by
  show scanWord ['n', 'o', 't'] after = _
  simp only [scanWord, h]
  rfl

theorem scanWord_not_of_none {after : List Char} (h : wordAhead? "in" after = none) :
    scanWord "not".toList after = .found (.keyword .not) 3 := by
  show scanWord ['n', 'o', 't'] after = _
  simp only [scanWord, h]
  rfl

/-- `is not` is one token. -/
theorem lexes_isNot : Lexes "is not".toList [.operator (.comparison .isNot)] := by
  refine lexes_single (c := 'i') (by decide) fun after hd => ?_
  show scan 'i' ('s' :: ' ' :: 'n' :: 'o' :: 't' :: after) = _
  rw [scan_of_isWordStart (by decide)]
  exact scanWord_is_of_ahead (wordAhead?_word (by decide) (by decide) hd)

/-- `not in` is one token. -/
theorem lexes_notIn : Lexes "not in".toList [.operator (.comparison .notMember)] := by
  refine lexes_single (c := 'n') (by decide) fun after hd => ?_
  show scan 'n' ('o' :: 't' :: ' ' :: 'i' :: 'n' :: after) = _
  rw [scan_of_isWordStart (by decide)]
  exact scanWord_not_of_ahead (wordAhead?_word (by decide) (by decide) hd)

/-- The first name of a path is the word that the path begins with. -/
theorem leadingWord_leadingPath (cs : List Char) : leadingWord (leadingPath cs) = leadingWord cs := by
  induction cs with
  | nil => rfl
  | cons c cs ih =>
    rw [leadingPath]
    by_cases hw : isWordChar c = true
    · rw [if_pos (by simp [hw]), leadingWord, leadingWord, List.takeWhile_cons_of_pos hw,
        List.takeWhile_cons_of_pos hw]
      exact congrArg (c :: ·) ih
    · rw [leadingWord, leadingWord, List.takeWhile_cons_of_neg hw]
      split
      · exact List.takeWhile_cons_of_neg hw
      · rfl

/-- A text that begins with the word `in` is read as the operator or as a path first. -/
theorem Scans.head_of_in {cs : List Char} {ks : List TokenKind} (h : Scans cs ks)
    (hin : leadingWord (dropBlanks cs) = ['i', 'n']) :
    ∃ k tail, ks = k :: tail ∧ (k = .operator (.comparison .member) ∨
      ∃ s, k = .identifier s ∧ leadingWord s.toList = ['i', 'n']) := by
  induction h with
  | nil => cases hin
  | blank hb _ ih =>
    rw [dropBlanks, List.dropWhile_cons_of_pos hb] at hin
    exact ih hin
  | @token c cs k n ks hb hs _ _ =>
    refine ⟨k, ks, rfl, ?_⟩
    rw [dropBlanks, List.dropWhile_cons_of_neg (by simp [hb])] at hin
    have hc : c = 'i' := by
      rw [leadingWord, List.takeWhile_cons] at hin
      split at hin
      · exact (List.cons.inj hin).1
      · cases hin
    subst hc
    have hword : leadingWord ('i' :: leadingPath cs) = ['i', 'n'] := by
      rw [← hin]
      have := leadingWord_leadingPath ('i' :: cs)
      rwa [leadingPath, if_pos (by simp [show isWordChar 'i' = true by decide])] at this
    rw [scan_of_isWordStart (by decide)] at hs
    have hspelling : (String.ofList ('i' :: leadingPath cs)).toList = 'i' :: leadingPath cs :=
      String.toList_ofList
    rw [← hspelling] at hword
    revert hs
    unfold scanWord
    split
    case h_3 =>
      rintro ⟨⟩
      exact .inl rfl
    case h_8 =>
      split
      · rename_i hkey
        intro _
        revert hkey
        unfold Keyword.ofText?
        split
        case h_7 => rintro ⟨⟩
        all_goals
          rename_i heq
          rw [heq] at hword
          exact absurd hword (by decide)
      · rintro ⟨⟩
        exact .inr ⟨_, rfl, hword⟩
    all_goals
      rename_i heq
      rw [heq] at hword
      exact absurd hword (by decide)

/-- `not` is a token of its own where no `in` follows. -/
theorem Lexes.not {t : List Char} {ks : List TokenKind} (ht : Lexes t ks) (hne : ks ≠ [])
    (hoperator : ∀ c tail, ks ≠ .operator (.comparison c) :: tail)
    (hname : ∀ s tail, ks = .identifier s :: tail → leadingWord s.toList ≠ ['i', 'n']) :
    Lexes ("not ".toList ++ t) (.keyword .not :: ks) := by
  intro after ls hd ha
  have hafter := ht after ls hd ha
  have hscan : scan 'n' ('o' :: 't' :: ' ' :: (t ++ after)) = .found (.keyword .not) 3 := by
    rw [scan_of_isWordStart (by decide)]
    have hahead : wordAhead? "in" (' ' :: (t ++ after)) = none := by
      rw [wordAhead?, dropBlanks, List.dropWhile_cons_of_pos (by decide)]
      refine if_neg fun hin => ?_
      obtain ⟨k, tail, hks, hk⟩ := hafter.head_of_in hin
      cases ks with
      | nil => exact hne rfl
      | cons k' tail' =>
        cases hks
        rcases hk with rfl | ⟨s, rfl, hs⟩
        · exact hoperator _ _ rfl
        · exact hname _ _ rfl hs
    exact scanWord_not_of_none hahead
  exact .token (c := 'n') (by decide) hscan (.blank (by decide) hafter)

/-! ## Signs -/

/-- A sign is one token. -/
theorem lexes_sign (sign : Sign) : Lexes sign.text.toList [.operator (.sign sign)] := by
  cases sign with
  | minus =>
    have hnil : Lexes [] [] := fun _ _ _ ha => ha
    exact hnil.minus (by simp)
  | _ => exact lexes_single (by decide) fun _ _ => rfl

/-! ## Literals -/

/-- A string is one token if the quote that ends it is not in it. -/
theorem lexes_string {s : String} (h : '\'' ∉ s.toList) :
    Lexes ('\'' :: s.toList ++ ['\'']) [.literal (.string s)] := by
  refine lexes_single (by decide) fun after _ => ?_
  have hbody : (s.toList ++ ['\''] ++ after).takeWhile (· ≠ '\'') = s.toList := by
    have hclear : ∀ c ∈ s.toList, decide (c ≠ '\'') = true := by
      intro c hc
      rw [decide_eq_true_eq]
      rintro rfl
      exact h hc
    rw [List.append_assoc, List.takeWhile_append_of_pos hclear]
    simp
  show scanString '\'' (s.toList ++ ['\''] ++ after) = _
  rw [scanString, hbody, if_pos (by simp), String.ofList_toList]
  simp

/-- A numeral in base ten begins with a digit; if it is a zero, no letter for another base
follows. -/
theorem scan_of_isDigit {c : Char} {cs : List Char} (h : isDigit c = true)
    (hx : c = '0' → ∀ d ∈ cs.head?, d ≠ 'x' ∧ d ≠ 'X') : scan c cs = scanDecimal (c :: cs) := by
  unfold scan
  split
  case h_21 =>
    rw [if_pos h]
    split
    · exact absurd rfl (hx rfl 'x' rfl).1
    · exact absurd rfl (hx rfl 'X' rfl).2
    · rfl
  all_goals exact absurd h (by decide)

theorem takeWhile_digits {p : Char → Bool} {digits after : List Char}
    (h : ∀ c ∈ digits, p c = true) (ha : ∀ c ∈ after.head?, p c = false) :
    (digits ++ after).takeWhile p = digits := by
  rw [List.takeWhile_append_of_pos h]
  cases after with
  | nil => simp
  | cons c cs => simp [ha c rfl]

/-- A number is read before a delimiter. -/
theorem scanNumber_of_delimits {v : Value} {taken : Nat} {after : List Char}
    (hd : Delimits after) : scanNumber (.ok v) taken after = .found (.literal v) taken := by
  have hhead : after.head?.filter (fun c => isWordChar c || c == '.') = none := by
    rw [Option.filter_eq_none_iff]
    intro c hc
    rcases hd c hc with rfl | rfl | rfl <;> decide
  unfold scanNumber
  rw [hhead]

theorem integerLiteral_of_lt {n : Nat} (h : n < 2 ^ 63) (hex : Bool) :
    integerLiteral hex n = .ok (.integer (Int64.ofNat n)) :=
  if_pos h

/-- A natural number with 63 bits of room is one token. -/
theorem lexes_natural {n : Nat} (h : n < 2 ^ 63) :
    Lexes (toDigits n) [.literal (.integer (Int64.ofNat n))] := by
  cases hdigits : toDigits n with
  | nil => exact absurd hdigits (toDigits_ne_nil n)
  | cons c cs =>
    have hall : ∀ d ∈ c :: cs, isDigit d = true := fun d hd =>
      isDigit_of_mem_toDigits (hdigits ▸ hd)
    have hc := hall c (List.mem_cons_self ..)
    refine lexes_single (isBlank_eq_false_of_isDigit hc) fun after hd => ?_
    rw [scan_of_isDigit hc, scanDecimal, ← List.cons_append,
      takeWhile_digits hall fun d hd' => (hd.head d hd').2.2, List.drop_left]
    · have hfraction : leadingFraction after = [] := by
        unfold leadingFraction
        split
        · rcases hd '.' rfl with h | h | h <;> cases h
        · rfl
      rw [hfraction, if_pos (by rfl), ← hdigits, ofDigits_toDigits,
        integerLiteral_of_lt h, scanNumber_of_delimits hd, hdigits]
      rfl
    · intro _ d hd'
      cases cs with
      | nil => rcases hd d hd' with rfl | rfl | rfl <;> decide
      | cons e es =>
        cases hd'
        have := hall d (by simp)
        constructor <;> (rintro rfl; exact absurd this (by decide))

/-- Digits around a point are one token. -/
theorem lexes_decimal {whole fraction : List Char} (hne : whole ≠ [])
    (hw : ∀ c ∈ whole, isDigit c = true) (hne' : fraction ≠ [])
    (hf : ∀ c ∈ fraction, isDigit c = true) :
    Lexes (whole ++ '.' :: fraction) [.literal (.float
      (Float.ofScientific (ofDigits 10 (whole ++ fraction)) true fraction.length))] := by
  cases whole with
  | nil => exact absurd rfl hne
  | cons c cs =>
    have hc := hw c (List.mem_cons_self ..)
    rw [List.cons_append]
    refine lexes_single (isBlank_eq_false_of_isDigit hc) fun after hd => ?_
    have hpoint : ∀ d ∈ ('.' :: fraction ++ after).head?, isDigit d = false := by
      intro d hd'
      cases hd'
      decide
    have htext : c :: (cs ++ '.' :: fraction ++ after) =
        (c :: cs) ++ ('.' :: fraction ++ after) := by simp
    rw [scan_of_isDigit hc, scanDecimal, htext, takeWhile_digits hw hpoint, List.drop_left]
    · have hfraction : leadingFraction ('.' :: fraction ++ after) = fraction :=
        takeWhile_digits hf fun d hd' => (hd.head d hd').2.2
      have hdrop : ('.' :: fraction ++ after).drop (1 + fraction.length) = after := by
        rw [Nat.add_comm, List.cons_append, List.drop_succ_cons, List.drop_left]
      rw [hfraction, if_neg (by simpa using hne'), hdrop]
      dsimp only
      rw [scanNumber_of_delimits hd]
      congr 1
      simp only [List.length_cons, List.length_append]
      omega
    · intro _ d hd'
      cases cs with
      | nil => cases hd'; decide
      | cons e es =>
        cases hd'
        have := hw d (by simp)
        constructor <;> (rintro rfl; exact absurd this (by decide))

end FieldQuery
