import FieldQuery.Proofs.Floats
import FieldQuery.Proofs.Lexemes

/-!
# What tokens are read

Every token has a spelling behind it: a name is no word of the language, and a number is neither
negative nor NaN, for a sign is a token of its own.

* `TokenKind.IsLexical` — the kinds that a text can have.
* `scan_isLexical` — one token.
* `Scans.isLexical`, `tokens_isLexical` — all tokens of a text.
-/

namespace FieldQuery

open Text Number

/-! ## Literals and names -/

/-- Is the value one that a literal token can have? -/
def Value.IsLexical : Value → Prop
  | .string _ => True
  | .integer n => 0 ≤ n
  | .float x => isNegative x = false ∧ x.isNaN = false
  | _ => False

/-- Is the token one that a text can have? -/
def TokenKind.IsLexical : TokenKind → Prop
  | .literal v => v.IsLexical
  | .identifier spelling => IsSpelling spelling
  | _ => True

/-- What is taken for a path is one. -/
theorem leadingPath_leadingPath (cs : List Char) : leadingPath (leadingPath cs) = leadingPath cs := by
  induction cs with
  | nil => rfl
  | cons c cs ih =>
    rw [leadingPath]
    split
    · rename_i hc
      rw [leadingPath, if_pos, ih]
      rcases Bool.or_eq_true _ _ ▸ hc with hword | hsep
      · simp [hword]
      · -- the word behind a separator is part of the path
        cases cs with
        | nil => simp at hsep
        | cons d ds =>
          obtain ⟨hs, hd⟩ : Path.isSeparator c = true ∧ isWordStart d = true := by
            simpa using hsep
          simp [leadingPath, isWordChar_of_isWordStart hd, hs, hd]
    · rfl

theorem scanWord_isLexical {c : Char} {cs after : List Char} {k : TokenKind}
    (hc : isWordStart c = true) (hcs : leadingPath cs = cs)
    (h : (scanWord (c :: cs) after).outcome = .ok k) : k.IsLexical := by
  revert h
  unfold scanWord
  split
  case h_8 =>
    rename_i hr
    split
    · rintro ⟨⟩; trivial
    · rename_i hkey
      rintro ⟨⟩
      refine ⟨⟨c, cs, String.toList_ofList, hc, hcs⟩, fun hmem => ?_⟩
      simp only [reservedWords, List.mem_cons, List.not_mem_nil, or_false] at hmem
      rcases hmem with h | h | h | h | h | h | h | h | h | h | h | h <;>
        simp_all [Keyword.ofText?]
  all_goals first
    | (rintro ⟨⟩; trivial)
    | (split <;> (rintro ⟨⟩; trivial))

theorem integerLiteral_isLexical {hex : Bool} {n : Nat} {v : Value}
    (h : integerLiteral hex n = .ok v) : v.IsLexical := by
  rw [integerLiteral] at h
  split at h
  · rename_i hn
    cases h
    rw [Value.IsLexical, Int64.le_iff_toInt_le, Int64.toInt_ofNat_of_lt hn]
    simp
  · cases h

theorem scanNumber_isLexical {value : Except LexCause Value} {taken : Nat} {after : List Char}
    {k : TokenKind} (hv : ∀ v, value = .ok v → v.IsLexical)
    (h : (scanNumber value taken after).outcome = .ok k) : k.IsLexical := by
  revert h
  unfold scanNumber
  split
  · rintro ⟨⟩
  · rintro ⟨⟩
  · rintro ⟨⟩
    exact hv _ rfl

/-- Every token that is read is one that a text can have. -/
theorem scan_isLexical {c : Char} {cs : List Char} {k : TokenKind}
    (h : (scan c cs).outcome = .ok k) : k.IsLexical := by
  revert h
  unfold scan
  split
  case h_18 =>
    unfold scanPlaceholder
    dsimp only
    split <;> (rintro ⟨⟩; try trivial)
  case h_19 | h_20 =>
    unfold scanString
    dsimp only
    split <;> (rintro ⟨⟩; try trivial)
  case h_21 =>
    have hdecimal : ∀ digits : List Char, (scanDecimal digits).outcome = .ok k → k.IsLexical := by
      intro digits
      unfold scanDecimal
      dsimp only
      split
      · exact scanNumber_isLexical fun v => integerLiteral_isLexical
      · refine scanNumber_isLexical fun v hv => ?_
        cases hv
        exact ⟨isNegative_ofScientific _ _ _, isNaN_ofScientific _ _ _⟩
    have hhex : ∀ digits : List Char, (scanHex digits).outcome = .ok k → k.IsLexical := by
      intro digits
      unfold scanHex
      dsimp only
      split
      · rintro ⟨⟩
      · exact scanNumber_isLexical fun v => integerLiteral_isLexical
    split
    · split
      · exact hhex _
      · exact hhex _
      · exact hdecimal _
    · split
      · rename_i hc
        exact scanWord_isLexical hc (leadingPath_leadingPath _)
      · rintro ⟨⟩
  all_goals (rintro ⟨⟩; try trivial)

/-! ## Whole texts -/

/-- Every token of a text is one that a text can have. -/
theorem Scans.isLexical {cs : List Char} {ks : List TokenKind} (h : Scans cs ks) :
    ∀ k ∈ ks, k.IsLexical := by
  induction h with
  | nil => simp
  | blank _ _ ih => exact ih
  | token _ hs _ ih =>
    intro k hk
    rcases List.mem_cons.1 hk with rfl | hk
    · exact scan_isLexical (by rw [hs]; rfl)
    · exact ih k hk

/-- The same for the function that reads them, also before a fault. -/
theorem tokens_isLexical (input : Input) : ∀ t ∈ input.tokens.1, t.kind.IsLexical := by
  induction input using Input.tokens.induct with
  | case1 input t after hnext _ _ _ _ ih =>
    have hkind : t.kind.IsLexical := by
      obtain ⟨c, cs, n, -, hs, -⟩ := Input.next_some hnext
      exact scan_isLexical (by rw [hs]; rfl)
    intro u hu
    rw [Input.tokens_of_some hnext] at hu
    rcases List.mem_cons.1 hu with rfl | hu
    · exact hkind
    · exact ih u hu
  | case2 input after hnext =>
    rw [Input.tokens_of_none hnext]
    exact List.forall_mem_nil _
  | case3 input e after hnext =>
    rw [Input.tokens_of_error hnext]
    exact List.forall_mem_nil _

end FieldQuery
