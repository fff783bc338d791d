import FieldQuery.Proofs.Pauses

/-!
# Integer literals

A natural number is spelled in base ten, or behind `0x` or `0X` in base sixteen, with any number of
zeros in front and with digits in either case.  However it is spelled, a text that is one of these
spellings is read as that number if the number has 63 bits of room, and is refused at its first
character if it has not.  A spelling never breaks off into another token: where a letter, a digit
of another script or a point is right behind it, the whole is refused.

* `Spells` — the spellings of a number.
* `Ends` — a text that a spelling does not go on with.
* `Spells.scan_append` — a spelling is scanned up to its end.
* `tokenize_spelling` — what becomes of a text that begins with a spelling.
-/

namespace FieldQuery

open Text Number

/-! ## Digits in either case -/

namespace Number

set_option maxRecDepth 10000 in
theorem lowerCase_table : ∀ n ∈ List.range 128,
    isHexDigit (Char.ofNat n).toLower = isHexDigit (Char.ofNat n) ∧
      digitValue (Char.ofNat n).toLower = digitValue (Char.ofNat n) := by
  decide

theorem toLower_of_le {c : Char} (h : 128 ≤ c.toNat) : c.toLower = c := by
  unfold Char.toLower
  refine dif_neg fun hcase => ?_
  have hle : c.toNat ≤ 'Z'.toNat := hcase.2
  simp only [Char.reduceToNat] at hle
  omega

/-- The case of a digit does not matter, neither for being one nor for its value. -/
theorem digit_toLower (c : Char) :
    isHexDigit c.toLower = isHexDigit c ∧ digitValue c.toLower = digitValue c := by
  rcases Nat.lt_or_ge c.toNat 128 with hlt | hge
  · have h := lowerCase_table c.toNat (List.mem_range.2 hlt)
    rwa [Char.ofNat_toNat] at h
  · rw [toLower_of_le hge]
    exact ⟨rfl, rfl⟩

theorem ofDigits_map_toLower (base : Nat) (digits : List Char) :
    ofDigits base (digits.map Char.toLower) = ofDigits base digits := by
  simp only [ofDigits, List.foldl_map, digit_toLower]

theorem isHexDigit_table : ∀ d ∈ List.range 16, isHexDigit (Nat.digitChar d) = true := by
  decide

/-- The digits of a number in base sixteen are digits of that base. -/
theorem isHexDigit_of_mem_toDigits {n : Nat} {c : Char} (h : c ∈ Nat.toDigits 16 n) :
    isHexDigit c = true := by
  induction n using Nat.base_induction 16 (by decide) with
  | single m hm =>
    rw [Nat.toDigits_of_lt_base hm, List.mem_singleton] at h
    exact h ▸ isHexDigit_table m (List.mem_range.2 hm)
  | digit m k hk hm ih =>
    rw [← Nat.toDigits_append_toDigits (by decide) hm hk, Nat.toDigits_of_lt_base hk,
      List.mem_append, List.mem_singleton] at h
    rcases h with h | rfl
    · exact ih h
    · exact isHexDigit_table k (List.mem_range.2 hk)

end Number

/-! ## Spellings -/

/-- The spellings of a natural number: its digits in base ten, or behind `0x` or `0X` its digits
in base sixteen, each in either case, with any number of zeros in front. -/
inductive Spells (n : Nat) : Bool → List Char → Prop where
  /-- In base ten. -/
  | decimal (zeros : Nat) : Spells n false (List.replicate zeros '0' ++ Nat.toDigits 10 n)
  /-- In base sixteen. -/
  | hex (zeros : Nat) {x : Char} {digits : List Char} (hx : x = 'x' ∨ x = 'X')
    (hdigits : digits.map Char.toLower = List.replicate zeros '0' ++ Nat.toDigits 16 n) :
    Spells n true ('0' :: x :: digits)

/-- Is the character a digit of base ten, or of base sixteen? -/
def isDigitOf (hex : Bool) (c : Char) : Bool :=
  if hex then isHexDigit c else isDigit c

/-- A spelling does not go on with what is behind it: no digit of its base, no point before a digit
where the base is ten, and no `x` that would turn a lone zero into another base. -/
structure Ends (hex : Bool) (spelling after : List Char) : Prop where
  /-- No digit follows. -/
  digit : ∀ c ∈ after.head?, isDigitOf hex c = false
  /-- In base ten no fraction follows. -/
  fraction : hex = false → leadingFraction after = []
  /-- No `x` follows a lone zero. -/
  base : spelling = ['0'] → ∀ c ∈ after.head?, c ≠ 'x' ∧ c ≠ 'X'

theorem ends_nil (hex : Bool) (spelling : List Char) : Ends hex spelling [] :=
  ⟨nofun, fun _ => rfl, fun _ => nofun⟩

namespace Spells

variable {n : Nat} {hex : Bool} {spelling after : List Char}

theorem forall_zeros_append {p : Char → Bool} {digits : List Char} (hzero : p '0' = true)
    (hdigits : ∀ c ∈ digits, p c = true) (zeros : Nat) :
    ∀ c ∈ List.replicate zeros '0' ++ digits, p c = true :=
  List.forall_mem_append.2 ⟨fun _ hc => List.eq_of_mem_replicate hc ▸ hzero, hdigits⟩

/-- **A spelling is scanned up to its end, and for its number.** -/
theorem scan_append (h : Spells n hex spelling) (hends : Ends hex spelling after) :
    ∃ c cs, spelling = c :: cs ∧ isDigit c = true ∧
      scan c (cs ++ after) = scanNumber (integerLiteral hex n) spelling.length after := by
  cases h with
  | @hex zeros x digits hx hdigits =>
    refine ⟨'0', x :: digits, rfl, rfl, ?_⟩
    have hlower : ∀ c ∈ List.replicate zeros '0' ++ Nat.toDigits 16 n, isHexDigit c = true :=
      forall_zeros_append rfl (fun _ => isHexDigit_of_mem_toDigits) zeros
    have hall : ∀ c ∈ digits, isHexDigit c = true := by
      rw [← hdigits, List.forall_mem_map] at hlower
      exact fun c hc => (digit_toLower c).1.symm.trans (hlower c hc)
    have hvalue : ofDigits 16 digits = n := by
      rw [← ofDigits_map_toLower, hdigits, ofDigits_zeros, ofDigits_base (by decide) (by decide)]
    have hne : digits ≠ [] := by
      rintro rfl
      exact absurd hdigits.symm (by simp)
    rw [List.cons_append, scan_of_hex hx, scanHex, takeWhile_digits hall hends.digit,
      if_neg (by simpa using hne), hvalue, List.drop_left, Nat.add_comm]
    rfl
  | decimal zeros =>
    obtain ⟨c, cs, hspelling⟩ : ∃ c cs, List.replicate zeros '0' ++ toDigits n = c :: cs :=
      List.exists_cons_of_ne_nil (List.append_ne_nil_of_right_ne_nil _ (toDigits_ne_nil n))
    have hall : ∀ d ∈ c :: cs, isDigit d = true :=
      hspelling ▸ forall_zeros_append rfl (fun _ => isDigit_of_mem_toDigits) zeros
    have hvalue : ofDigits 10 (c :: cs) = n := by
      rw [← hspelling, ofDigits_zeros, ofDigits_toDigits]
    change Ends false (List.replicate zeros '0' ++ toDigits n) after at hends
    change ∃ d ds, List.replicate zeros '0' ++ toDigits n = d :: ds ∧ isDigit d = true ∧
      scan d (ds ++ after) =
        scanNumber (integerLiteral false n) (List.replicate zeros '0' ++ toDigits n).length after
    rw [hspelling] at hends ⊢
    have hc := hall c (List.mem_cons_self ..)
    refine ⟨c, cs, rfl, hc, ?_⟩
    rw [scan_of_isDigit hc, scanDecimal, ← List.cons_append, takeWhile_digits hall hends.digit,
      List.drop_left, hends.fraction rfl, hvalue]
    · rfl
    · rintro rfl d hd
      cases cs with
      | nil => exact hends.base rfl d hd
      | cons e es =>
        cases hd
        have hdigit := hall d (by simp)
        constructor <;> (rintro rfl; exact absurd hdigit (by decide))

end Spells

/-! ## Texts that begin with a spelling -/

/-- The text is malformed at its first character, before any token of it was read. -/
structure Refused (text : String) (cause : LexCause) : Prop where
  /-- The text has no tokens. -/
  error : tokenize text = .error ⟨cause, 0⟩
  /-- None was read before the fault was met. -/
  unread : (Input.ofText text).tokens.1 = []

section

variable {c : Char} {cs : List Char} {taken : Nat}

theorem Input.skipBlanks_ofText (hb : isBlank c = false) :
    (ofText (String.ofList (c :: cs))).skipBlanks = ⟨c :: cs, 0⟩ := by
  rw [skipBlanks, ofText, String.toList_ofList, dropBlanks, List.dropWhile_cons_of_neg (by simp [hb]),
    Nat.sub_self]
  rfl

/-- A text that is scanned as one token has that token, and no other. -/
theorem tokenize_of_found {kind : TokenKind} (hb : isBlank c = false)
    (h : scan c cs = .found kind (cs.length + 1)) :
    tokenize (String.ofList (c :: cs)) = .ok [⟨kind, 0⟩] := by
  have hnext : (Input.ofText (String.ofList (c :: cs))).next =
      (.ok (some ⟨kind, 0⟩), Input.drop ⟨c :: cs, 0⟩ (cs.length + 1)) := by
    rw [Input.next, Input.skipBlanks_ofText hb]
    simp only [h]
    rfl
  have hend : (Input.drop ⟨c :: cs, 0⟩ (cs.length + 1)).next =
      (.ok none, ⟨[], cs.length + 1⟩) := by
    simp [Input.next, Input.skipBlanks, Input.drop, dropBlanks]
  rw [tokenize, Input.tokens_of_some hnext, Input.tokens_of_none hend]

/-- A text that is malformed at its first character has no tokens. -/
theorem refused_of_fault {cause : LexCause} (hb : isBlank c = false)
    (h : scan c cs = .fault cause taken) : Refused (String.ofList (c :: cs)) cause := by
  have hnext : (Input.ofText (String.ofList (c :: cs))).next =
      (.error ⟨cause, 0⟩, Input.drop ⟨c :: cs, 0⟩ taken) := by
    rw [Input.next, Input.skipBlanks_ofText hb]
    simp only [h]
    rfl
  have htokens := Input.tokens_of_error hnext
  exact ⟨by rw [tokenize, htokens], by rw [htokens]⟩

end

theorem integerLiteral_of_le (hex : Bool) {n : Nat} (h : 2 ^ 63 ≤ n) :
    integerLiteral hex n = .error (.tooLarge hex) :=
  if_neg (Nat.not_lt.2 h)

/-- A number is malformed where a word or a point is right behind it, whatever its value. -/
theorem scanNumber_of_word {value : Except LexCause Value} {taken : Nat} {c : Char}
    {rest : List Char} (hc : isWordChar c = true ∨ c = '.') :
    scanNumber value taken (c :: rest) = .fault (.malformedNumber c) taken := by
  have hhead : (c :: rest).head?.filter (fun d => isWordChar d || d == '.') = some c := by
    rw [List.head?_cons, Option.filter_some, if_pos (by simpa using hc)]
  unfold scanNumber
  rw [hhead]

namespace Spells

variable {n : Nat} {hex : Bool} {spelling : List Char}

/-- What is wrong behind a spelling makes the whole of it malformed. -/
theorem refused_of_word (h : Spells n hex spelling) {c : Char} {rest : List Char}
    (hends : Ends hex spelling (c :: rest)) (hc : isWordChar c = true ∨ c = '.') :
    Refused (String.ofList (spelling ++ c :: rest)) (.malformedNumber c) := by
  obtain ⟨d, ds, rfl, hd, hscan⟩ := h.scan_append hends
  exact refused_of_fault (isBlank_eq_false_of_isDigit hd) (hscan.trans (scanNumber_of_word hc))

end Spells

/-- **Every spelling of a number is read as it, up to the greatest integer.**  It is one token at
the beginning of the text; a greater number is refused there, and so is every number with a
character right behind it that a word goes on with, or with a point that begins no fraction. -/
theorem tokenize_spelling {n : Nat} {hex : Bool} {spelling : List Char}
    (h : Spells n hex spelling) :
    (n < 2 ^ 63 →
      tokenize (String.ofList spelling) = .ok [⟨.literal (.integer (Int64.ofNat n)), 0⟩] ∧
        (Int64.ofNat n).toInt = n) ∧
    (2 ^ 63 ≤ n → Refused (String.ofList spelling) (.tooLarge hex)) ∧
    (∀ c rest, isWordChar c = true → isDigitOf hex c = false →
      ¬(spelling = ['0'] ∧ (c = 'x' ∨ c = 'X')) →
        Refused (String.ofList (spelling ++ c :: rest)) (.malformedNumber c)) ∧
    (∀ rest, (hex = true ∨ ∀ d ∈ rest.head?, isDigit d = false) →
      Refused (String.ofList (spelling ++ '.' :: rest)) (.malformedNumber '.')) := by
  have halone : ∃ c cs, spelling = c :: cs ∧ isBlank c = false ∧
      scan c cs = scanNumber (integerLiteral hex n) spelling.length [] := by
    obtain ⟨c, cs, hspelling, hc, hscan⟩ := h.scan_append (ends_nil hex spelling)
    exact ⟨c, cs, hspelling, isBlank_eq_false_of_isDigit hc, by rwa [List.append_nil] at hscan⟩
  obtain ⟨c, cs, hspelling, hb, hscan⟩ := halone
  refine ⟨fun hn => ?_, fun hn => ?_, fun d rest hword hdigit hbase => ?_, fun rest hrest => ?_⟩
  · rw [integerLiteral_of_lt hn hex, hspelling] at hscan
    rw [hspelling]
    exact ⟨tokenize_of_found hb hscan, Int64.toInt_ofNat_of_lt hn⟩
  · rw [integerLiteral_of_le hex hn] at hscan
    rw [hspelling]
    exact refused_of_fault hb hscan
  · refine h.refused_of_word ⟨?_, fun _ => ?_, fun hzero e he => ?_⟩ (.inl hword)
    · rintro e ⟨⟩
      exact hdigit
    · refine leadingFraction_of_ne ?_
      rintro e ⟨⟩ rfl
      exact absurd hword (by decide)
    · obtain ⟨⟩ := he
      exact not_or.1 fun hx => hbase ⟨hzero, hx⟩
  · refine h.refused_of_word ⟨?_, fun hten => ?_, fun _ => ?_⟩ (.inr rfl)
    · rintro e ⟨⟩
      cases hex <;> decide
    · obtain hhex | hrest := hrest
      · rw [hten] at hhex
        cases hhex
      · cases rest with
        | nil => rfl
        | cons e es => exact List.takeWhile_cons_of_neg (by simp [hrest e rfl])
    · rintro e ⟨⟩
      decide

/-- The greatest integer with digits in both cases, and the number after it. -/
theorem tokenize_spelling_greatest :
    tokenize "0X07fFFfffFFFfffFFF" = .ok [⟨.literal (.integer Int64.maxValue), 0⟩] ∧
      Refused "0X07fFFfffFFFfffFFFg" (.malformedNumber 'g') ∧
      Refused "0009223372036854775808" (.tooLarge false) := by
  have hgreatest : Spells (2 ^ 63 - 1) true "0X07fFFfffFFFfffFFF".toList :=
    .hex 1 (.inr rfl) (by decide)
  have hgreater : Spells (2 ^ 63) false "0009223372036854775808".toList := .decimal 3
  obtain ⟨hread, -, hword, -⟩ := tokenize_spelling hgreatest
  obtain ⟨-, hlarge, -⟩ := tokenize_spelling hgreater
  exact ⟨(hread (by decide)).1, hword 'g' [] (by decide) (by decide) (by decide),
    hlarge (by decide)⟩

end FieldQuery
