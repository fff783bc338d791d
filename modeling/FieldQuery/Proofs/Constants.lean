import FieldQuery.Proofs.Precedence
import FieldQuery.Proofs.Written

/-!
# Constants are read back

The text of a constant is read as the constant: a number with a sign as the negated number, which
an element of a list may be and a literal in parentheses too.

* `Value.IsClean` — no string holds the quote that would end it, and all floats are finite.
* `Value.Constant.lexes_number` — numbers, with or without a sign.
* `Value.Constant.spellsItem` — any constant as an element of a list.
* `Value.Constant.isOperand` — any constant as a literal.
-/

namespace FieldQuery

open Text Number Grammar

namespace Value

/-- Does no string in the value hold a single quote, and is no float in it infinite? -/
structure IsClean (v : Value) : Prop where
  /-- Strings are without the quote that ends them. -/
  unquoted : ∀ s, .string s ∈ v.parts → '\'' ∉ s.toList
  /-- Floats are finite. -/
  finite : ∀ x, .float x ∈ v.parts → x.isInf = false

theorem IsClean.item {items : List Value} (h : (Value.array items).IsClean) {v : Value}
    (hv : v ∈ items) : v.IsClean := by
  have hmem : ∀ w ∈ v.parts, w ∈ (Value.array items).parts := by
    intro w hw
    rw [parts, List.mem_cons, mem_itemParts]
    exact .inr ⟨v, hv, hw⟩
  exact ⟨fun s hs => h.unquoted s (hmem _ hs), fun x hx => h.finite x (hmem _ hx)⟩

/-! ## Numbers -/

/-- An integer with room for its counterpart has fewer than 64 bits. -/
theorem natAbs_lt {n : Int64} (h : n ≠ Int64.minValue) : n.toInt.natAbs < 2 ^ 63 := by
  have hlow := n.le_toInt
  have hhigh := n.toInt_lt
  have hne : n.toInt ≠ -2 ^ 63 := by
    intro heq
    refine h ?_
    rw [← Int64.toInt_inj, heq]
    rfl
  omega

theorem ofNat_natAbs_of_nonneg {n : Int64} (h : 0 ≤ n) : Int64.ofNat n.toInt.natAbs = n := by
  rw [Int64.le_iff_toInt_le] at h
  have habs : (n.toInt.natAbs : Int) = n.toInt := Int.natAbs_of_nonneg (by simpa using h)
  rw [← Int64.ofInt_eq_ofNat, habs, Int64.ofInt_toInt]

theorem ofNat_natAbs_of_neg {n : Int64} (h : n < 0) : Int64.ofNat n.toInt.natAbs = -n := by
  rw [Int64.lt_iff_toInt_lt] at h
  have habs : (n.toInt.natAbs : Int) = -n.toInt :=
    Int.ofNat_natAbs_of_nonpos (by simp at h; omega)
  rw [← Int64.ofInt_eq_ofNat, habs, Int64.ofInt_neg, Int64.ofInt_toInt]

/-- **A number is read back**, from behind its sign if it has one. -/
theorem Constant.lexes_number {v : Value} (h : v.Constant) (hc : v.IsClean)
    (hv : negate? v ≠ none) :
    (v.isNonNegative = true ∧ Lexes v.text.toList [.literal v]) ∨
      (v.isNonNegative = false ∧ ∃ w, negate? w = some v ∧
        Lexes v.text.toList [.operator (.sign .minus), .literal w]) := by
  cases h with
  | string => exact absurd rfl hv
  | array => exact absurd rfl hv
  | @integer n hn =>
    have hlt := natAbs_lt hn
    rw [text, intText]
    by_cases hneg : n < 0
    · refine .inr ⟨by simpa [isNonNegative] using hneg, .integer (-n), ?_, ?_⟩
      · simp [negate?]
      · have hint : n.toInt < 0 := by simpa [Int64.lt_iff_toInt_lt] using hneg
        have htext : ("-" ++ natText n.toInt.natAbs).toList = '-' :: toDigits n.toInt.natAbs := by
          simp [natText]
        rw [if_pos hint, ← ofNat_natAbs_of_neg hneg, htext]
        exact (lexes_natural hlt).minus (by simp)
    · have hle : 0 ≤ n := Int64.not_lt.1 hneg
      refine .inl ⟨by simpa [isNonNegative] using hle, ?_⟩
      have hint : ¬ n.toInt < 0 := by simpa [Int64.lt_iff_toInt_lt] using hneg
      rw [if_neg hint, natText, String.toList_ofList]
      have := lexes_natural hlt
      rwa [ofNat_natAbs_of_nonneg hle] at this
  | @float x hx =>
    have hinf := hc.finite x (mem_parts_self _)
    rw [text]
    cases hneg : isNegative x with
    | true =>
      refine .inr ⟨by simp [isNonNegative, hneg], .float (-x), ?_, ?_⟩
      · simp [negate?, Number.neg_neg]
      · obtain ⟨whole, fraction, htext, hne, hne', hw, hf, hread⟩ :=
          floatLiteral_reads (x := -x) (by rw [isNegative_neg hx, hneg]; rfl)
            (by rw [isNaN_neg, hx]) (by rw [isInf_neg, hinf])
        have hlex := lexes_decimal hne hw hne' hf
        rw [hread] at hlex
        rw [floatLiteral_negative hneg hx hinf, String.toList_append, htext]
        exact hlex.minus (by simp)
    | false =>
      obtain ⟨whole, fraction, htext, hne, hne', hw, hf, hread⟩ := floatLiteral_reads hneg hx hinf
      refine .inl ⟨by simp [isNonNegative, hneg], ?_⟩
      have hlex := lexes_decimal hne hw hne' hf
      rw [hread] at hlex
      rwa [htext]

/-! ## Elements of lists -/

/-- The text of the rest of a list, from behind its first element. -/
def restText : List Value → List Char
  | [] => [')']
  | v :: vs => ',' :: ' ' :: (v.text.toList ++ restText vs)

theorem toList_text_array (v : Value) (vs : List Value) :
    (Value.array (v :: vs)).text.toList = '(' :: (v.text.toList ++ restText vs) := by
  have hrest : ∀ v vs, (String.intercalate ", " (itemTexts (v :: vs)) ++ ")").toList =
      v.text.toList ++ restText vs := by
    intro v vs
    induction vs generalizing v with
    | nil => simp [itemTexts, restText, String.intercalate_singleton]
    | cons w ws ih =>
      have hstep : String.intercalate ", " (itemTexts (v :: w :: ws)) =
          v.text ++ ", " ++ String.intercalate ", " (itemTexts (w :: ws)) := by
        rw [itemTexts, itemTexts, String.intercalate_cons_cons]
      rw [hstep, restText, ← ih w]
      simp
  rw [text, bracketed, String.append_assoc, String.toList_append, hrest]
  rfl

/-- A constant that is a literal token is an element of a list. -/
theorem spellsItem_of_isOperand {ks : List TokenKind} {v : Value}
    (h : IsOperand ks (.literal v)) : SpellsItem ks v :=
  ⟨.literal v, h.whole, rfl⟩

/-- A negated literal is an element of a list. -/
theorem spellsItem_negated {v w : Value} (h : negate? w = some v) :
    SpellsItem [.operator (.sign .minus), .literal w] v := by
  have hnegation := ((spells_minus (isOperand_literal w).signed).sum.comparison.unnegated)
  exact ⟨_, hnegation.conjunction.whole, h⟩

/-- What follows an element of a list delimits it. -/
theorem delimits_restText (vs : List Value) (after : List Char) :
    Delimits (restText vs ++ after) := by
  cases vs with
  | nil => exact delimits_close _
  | cons v vs => exact delimits_comma _

/-- The rest of a list is read back if its elements are. -/
theorem spellsItems {vs : List Value}
    (h : ∀ v ∈ vs, ∃ ks, Lexes v.text.toList ks ∧ SpellsItem ks v) :
    ∃ ks, Lexes (restText vs) ks ∧ SpellsItems ks vs := by
  induction vs with
  | nil => exact ⟨[.closeParen], lexes_single (by decide) fun _ _ => rfl, .close⟩
  | cons v vs ih =>
    obtain ⟨ks, hlex, hitem⟩ := h v (List.mem_cons_self ..)
    obtain ⟨ls, hlexes, hitems⟩ := ih fun w hw => h w (List.mem_cons_of_mem _ hw)
    refine ⟨.comma :: (ks ++ ls), ?_, .item hitem hitems⟩
    intro after ms hd ha
    have hscan := hlex _ _ (delimits_restText vs after) (hlexes after ms hd ha)
    rw [restText, List.cons_append, List.cons_append, List.append_assoc, List.cons_append,
      List.append_assoc]
    exact .token (n := 1) (by decide) rfl (.blank (by decide) hscan)

/-- A list is read back if its elements are. -/
theorem isOperand_array {vs : List Value} (hone : vs.length ≠ 1)
    (h : ∀ v ∈ vs, ∃ ks, Lexes v.text.toList ks ∧ SpellsItem ks v) :
    ∃ ks, Lexes (Value.array vs).text.toList ks ∧ IsOperand ks (.literal (.array vs)) := by
  cases vs with
  | nil =>
    refine ⟨_, ?_, isOperand_emptyList⟩
    have hnil : Lexes [] [] := fun _ _ _ ha => ha
    exact hnil.parenthesized
  | cons v vs =>
    have hne : vs ≠ [] := by
      rintro rfl
      exact hone rfl
    obtain ⟨ks, hlex, hitem⟩ := h v (List.mem_cons_self ..)
    obtain ⟨ls, hlexes, hitems⟩ := spellsItems fun w hw => h w (List.mem_cons_of_mem _ hw)
    refine ⟨_, ?_, isOperand_list hitem hitems hne⟩
    rw [toList_text_array]
    intro after ms hd ha
    have hscan := hlex _ _ (delimits_restText vs after) (hlexes after ms hd ha)
    rw [List.cons_append, List.append_assoc, List.cons_append, List.append_assoc]
    exact .token (n := 1) (by decide) rfl hscan

/-- **Any constant is read back** as an element of a list. -/
theorem Constant.spellsItem {v : Value} (h : v.Constant) (hc : v.IsClean) :
    ∃ ks, Lexes v.text.toList ks ∧ SpellsItem ks v := by
  induction h with
  | @string s =>
    refine ⟨_, ?_, spellsItem_of_isOperand (isOperand_literal _)⟩
    have := lexes_string (hc.unquoted s (mem_parts_self _))
    simpa [text] using this
  | integer hn =>
    rcases (Constant.integer hn).lexes_number hc (by simp [negate?]) with
      ⟨_, hlex⟩ | ⟨_, w, hw, hlex⟩
    · exact ⟨_, hlex, spellsItem_of_isOperand (isOperand_literal _)⟩
    · exact ⟨_, hlex, spellsItem_negated hw⟩
  | float hx =>
    rcases (Constant.float hx).lexes_number hc (by simp [negate?]) with
      ⟨_, hlex⟩ | ⟨_, w, hw, hlex⟩
    · exact ⟨_, hlex, spellsItem_of_isOperand (isOperand_literal _)⟩
    · exact ⟨_, hlex, spellsItem_negated hw⟩
  | array hone _ ih =>
    obtain ⟨ks, hlex, hoperand⟩ := isOperand_array hone fun v hv => ih v hv (hc.item hv)
    exact ⟨ks, hlex, spellsItem_of_isOperand hoperand⟩

/-! ## Literals -/

/-- The text of a number as a literal. -/
theorem literalText_of_number {v : Value} (hv : negate? v ≠ none) :
    Expr.literalText v = if v.isNonNegative then v.text else "(" ++ v.text ++ ")" := by
  cases v with
  | integer n =>
    rw [Expr.literalText]
    by_cases hneg : n < 0
    · rw [if_pos hneg, if_neg (by simpa [isNonNegative] using hneg)]
    · rw [if_neg hneg, if_pos (by simpa [isNonNegative] using Int64.not_lt.1 hneg)]
  | float x => cases h : isNegative x <;> simp [Expr.literalText, isNonNegative, h]
  | _ => exact absurd rfl hv

/-- **Any constant is read back** as a literal. -/
theorem Constant.isOperand {v : Value} (h : v.Constant) (hc : v.IsClean) :
    ∃ ks, Lexes (Expr.literalText v).toList ks ∧ IsOperand ks (.literal v) := by
  have hnumber : negate? v ≠ none →
      ∃ ks, Lexes (Expr.literalText v).toList ks ∧ IsOperand ks (.literal v) := by
    intro hv
    rw [literalText_of_number hv]
    rcases h.lexes_number hc hv with ⟨hsign, hlex⟩ | ⟨hsign, w, hw, hlex⟩
    · rw [if_pos hsign]
      exact ⟨_, hlex, isOperand_literal v⟩
    · rw [if_neg (by simp [hsign])]
      refine ⟨_, ?_, isOperand_negative hw⟩
      have := hlex.parenthesized
      simpa using this
  cases h with
  | @string s =>
    refine ⟨_, ?_, isOperand_literal _⟩
    have := lexes_string (hc.unquoted s (mem_parts_self _))
    simpa [Expr.literalText, text] using this
  | integer => exact hnumber (by simp [negate?])
  | float => exact hnumber (by simp [negate?])
  | array hone hitems =>
    exact isOperand_array hone fun v hv => (hitems v hv).spellsItem (hc.item hv)

end Value

end FieldQuery
