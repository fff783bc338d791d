import FieldQuery.Proofs.Decimals
import FieldQuery.Proofs.Numerals
import FieldQuery.Value.Printer

/-!
# The text of floats

The text of a finite float is read as the float.  A whole number is written with all its digits,
which are its exact value; any other with the digits of a decimal that was checked to be read as
it.

* `neg_neg`, `isNaN_neg`, `isNegative_neg` — a sign can be taken off and put back.
* `isNaN_ofScientific`, `isNegative_ofScientific` — what decimals are never read as.
* `Decimal.shortest_reads` — the shortest decimal of a number that is not whole.
* `floatLiteral_reads`, `floatLiteral_negative` — the text of a finite float, with or without a
  sign.
-/

open Float.Model
open Float.Model.UnpackedFloat hiding unpack pack neg abs isNaN isInf isFinite ofScientific

namespace FieldQuery.Number

/-! ## Signs and NaN -/

theorem isNaN_eq (x : Float) : x.isNaN = (unpacked x).isNaN := by
  rfl

theorem isInf_eq (x : Float) : x.isInf = (unpacked x).isInf := by
  rfl

theorem isFinite_eq (x : Float) : x.isFinite = (unpacked x).isFinite := by
  rfl

theorem neg_neg (x : Float) : -(-x) = x := by
  have hsign : ∀ s : Sign, - -s = s := by
    intro s
    cases s <;> rfl
  apply eq_of_unpacked_eq
  rw [unpacked_neg, unpacked_neg]
  cases unpacked x <;> simp only [UnpackedFloat.neg, hsign]

theorem isNaN_neg (x : Float) : (-x).isNaN = x.isNaN := by
  rw [isNaN_eq, isNaN_eq, unpacked_neg]
  cases unpacked x <;> rfl

theorem isInf_neg (x : Float) : (-x).isInf = x.isInf := by
  rw [isInf_eq, isInf_eq, unpacked_neg]
  cases unpacked x <;> rfl

/-- What is no NaN has a sign. -/
theorem exists_sign {x : Float} (h : x.isNaN = false) : ∃ s, sign? (unpacked x) = some s := by
  rw [isNaN_eq] at h
  cases hu : unpacked x with
  | notANumber => rw [hu] at h; cases h
  | _ => exact ⟨_, rfl⟩

theorem sign?_neg {u : UnpackedFloat} {s : Sign} (h : sign? u = some s) :
    sign? u.neg = some (-s) := by
  cases u <;> cases h <;> rfl

theorem isNegative_neg {x : Float} (h : x.isNaN = false) : isNegative (-x) = !isNegative x := by
  obtain ⟨s, hs⟩ := exists_sign h
  have hneg : sign? (unpacked (-x)) = some (-s) := by
    rw [unpacked_neg]
    exact sign?_neg hs
  rw [isNegative_of_sign? hneg, isNegative_of_sign? hs]
  cases s <;> rfl

theorem isNaN_ofScientific (n : Nat) (negative : Bool) (k : Nat) :
    (Float.ofScientific n negative k).isNaN = false := by
  have h := sign?_ofScientific n negative k
  rw [isNaN_eq]
  cases hu : unpacked (Float.ofScientific n negative k) with
  | notANumber => rw [hu] at h; cases h
  | _ => rfl

theorem isNegative_ofScientific (n : Nat) (negative : Bool) (k : Nat) :
    isNegative (Float.ofScientific n negative k) = false := by
  rw [isNegative_of_sign? (sign?_ofScientific n negative k)]
  rfl

/-- What is not negative, not NaN and not infinite is zero or a positive number. -/
theorem zero_or_positive {x : Float} (hs : isNegative x = false) (hn : x.isNaN = false)
    (hi : x.isInf = false) :
    unpacked x = .zero .positive ∨ ∃ m e hm, unpacked x = .finite .positive m e hm := by
  obtain ⟨s, hsign⟩ := exists_sign hn
  have hpositive : s = .positive := by
    rw [isNegative_of_sign? hsign] at hs
    cases s with
    | positive => rfl
    | negative => cases hs
  subst hpositive
  rw [isInf_eq] at hi
  cases hu : unpacked x with
  | notANumber => rw [hu] at hsign; cases hsign
  | infinity s => rw [hu] at hi; cases hi
  | zero s => rw [hu] at hsign; cases hsign; exact .inl rfl
  | finite s m e hm => rw [hu] at hsign; cases hsign; exact .inr ⟨m, e, hm, rfl⟩

/-! ## Shortest decimals -/

namespace Decimal

/-- Is the decimal a fraction that is read as the float? -/
def ReadsAs (x : Float) (d : Decimal) : Prop :=
  d.exponent < 0 ∧ Float.ofScientific d.coefficient true d.exponent.natAbs = x

/-- A decimal that is exactly the float is read as it. -/
theorem readsAs_of_exact {x : Float} {m : Nat} {e : Int} {hm : 0 < m}
    (hx : unpacked x = .finite .positive m e hm) {n k : Nat} (hk : 0 < k)
    (hn : n * 2 ^ (-e).toNat = m * 2 ^ e.toNat * 10 ^ k) : ReadsAs x ⟨n, -(k : Int)⟩ := by
  have hproper := proper_unpacked x
  rw [hx] at hproper
  obtain ⟨h, he, he', hform⟩ := hproper
  refine ⟨by show -(k : Int) < 0; omega, eq_of_unpacked_eq ?_⟩
  rw [hx]
  have habs : (-(k : Int)).natAbs = k := by omega
  show unpacked (Float.ofScientific n true (-(k : Int)).natAbs) = _
  rw [habs]
  exact ofScientific_exact hk hm h he he' hform hn

section

variable {x : Float} {m : Nat} {e : Int} {hm : 0 < m}
  (hx : unpacked x = .finite .positive m e hm) (hfraction : m * 2 ^ e.toNat % 2 ^ (-e).toNat ≠ 0)

include hx hfraction

/-- A decimal that is read as a number with a fraction is one itself. -/
theorem readsAs_of_toFloat {d : Decimal} (h : d.toFloat = x) : d.ReadsAs x := by
  rw [toFloat] at h
  by_cases hneg : d.exponent < 0
  · rw [decide_eq_true hneg] at h
    exact ⟨hneg, h⟩
  · exfalso
    rw [decide_eq_false hneg] at h
    have hwhole := whole_ofScientific d.coefficient d.exponent.natAbs
    rw [h, hx] at hwhole
    refine hfraction (Nat.mod_eq_zero_of_dvd ?_)
    rcases hwhole with hle | hdvd
    · have hzero : (-e).toNat = 0 := by omega
      rw [hzero]
      exact Nat.one_dvd _
    · exact Nat.dvd_mul_right_of_dvd hdvd _

/-- What a grid offers is read as the float. -/
theorem readsAs_of_onGrid {tie : Tie} {exponent : Int} {d : Decimal}
    (h : onGrid? tie x (m * 2 ^ e.toNat) (2 ^ (-e).toNat) exponent = some d) : d.ReadsAs x := by
  simp only [onGrid?, Nat.pow_eq] at h
  split at h
  · rename_i hexact
    cases h
    have hdvd := Nat.dvd_of_mod_eq_zero hexact
    by_cases hneg : exponent < 0
    · obtain ⟨k, hk⟩ : ∃ k : Nat, exponent = -(k : Int) := ⟨(-exponent).toNat, by omega⟩
      subst hk
      have hcoarse : (-(k : Int)).toNat = 0 := by omega
      have hfine : (- -(k : Int)).toNat = k := by omega
      rw [hcoarse, hfine, Nat.pow_zero, Nat.mul_one] at hdvd ⊢
      exact readsAs_of_exact hx (by omega) (Nat.div_mul_cancel hdvd)
    · -- a multiple of a whole number has no fraction
      exfalso
      have hfine : (-exponent).toNat = 0 := by omega
      rw [hfine, Nat.pow_zero, Nat.mul_one] at hdvd
      exact hfraction (Nat.mod_eq_zero_of_dvd (Nat.dvd_trans (Nat.dvd_mul_right _ _) hdvd))
  · split at h
    · cases h
    · rename_i hlow _
      cases h
      exact readsAs_of_toFloat hx hfraction (of_decide_eq_true hlow)
    · rename_i _ hhigh
      cases h
      exact readsAs_of_toFloat hx hfraction (of_decide_eq_true hhigh)
    · rename_i hlow hhigh
      have hlow := readsAs_of_toFloat hx hfraction (of_decide_eq_true hlow)
      have hhigh := readsAs_of_toFloat hx hfraction (of_decide_eq_true hhigh)
      split at h
      · cases h; exact hlow
      · cases h; exact hhigh
      · cases h; exact hhigh
      · cases h
        split
        · exact hlow
        · exact hhigh

theorem readsAs_of_onFinerGrids {tie : Tie} {d : Decimal} (fuel : Nat) :
    ∀ exponent, onFinerGrids? tie x (m * 2 ^ e.toNat) (2 ^ (-e).toNat) fuel exponent = some d →
      d.ReadsAs x := by
  induction fuel with
  | zero =>
    intro exponent h
    cases h
  | succ fuel ih =>
    intro exponent h
    rw [onFinerGrids?] at h
    cases hgrid : onGrid? tie x (m * 2 ^ e.toNat) (2 ^ (-e).toNat) exponent with
    | some d' =>
      rw [hgrid] at h
      cases h
      exact readsAs_of_onGrid hx hfraction hgrid
    | none =>
      rw [hgrid] at h
      exact ih _ h

/-- **The shortest decimal of a number with a fraction** is a fraction that is read as the
number. -/
theorem shortest_reads (tie : Tie) : (shortest tie x).ReadsAs x := by
  obtain ⟨hmantissa, hexponent⟩ := ofFloat_of_finite hx
  have habs : x.abs = x := by
    apply eq_of_unpacked_eq
    rw [unpacked_abs, hx]
    rfl
  have hneg : e < 0 := by
    refine Int.not_le.1 fun hle => hfraction ?_
    have hzero : (-e).toNat = 0 := by omega
    rw [hzero]
    exact Nat.mod_one _
  rw [shortest]
  dsimp only [Binary.ratio_eq]
  rw [hmantissa, hexponent, if_neg (Nat.pos_iff_ne_zero.1 hm), habs]
  generalize hfound : onFinerGrids? tie x (m * 2 ^ e.toNat) (2 ^ (-e).toNat) _ _ = found
  cases found with
  | some d => exact readsAs_of_onFinerGrids hx hfraction _ _ hfound
  | none =>
    -- the exact decimal has as many places as the binary fraction
    obtain ⟨k, hk⟩ : ∃ k : Nat, e = -(k : Int) := ⟨(-e).toNat, by omega⟩
    subst hk
    have hplaces : (- -(k : Int)).toNat = k := by omega
    have hmin : min (-(k : Int)) 0 = -(k : Int) := by omega
    rw [Option.getD_none, hplaces, hmin]
    refine readsAs_of_exact hx (by omega) ?_
    rw [hplaces]
    refine Nat.div_mul_cancel (Nat.dvd_mul_left_of_dvd ?_ _)
    have hten : 10 ^ k = 2 ^ k * 5 ^ k := by rw [← Nat.mul_pow]
    rw [Nat.pow_eq, hten]
    exact Nat.dvd_mul_right _ _

end

end Decimal

/-! ## Texts -/

/-- Digits around a point that are read as the float. -/
def WrittenAs (x : Float) (text : List Char) : Prop :=
  ∃ whole fraction, text = whole ++ '.' :: fraction ∧ whole ≠ [] ∧ fraction ≠ [] ∧
    (∀ c ∈ whole, isDigit c = true) ∧ (∀ c ∈ fraction, isDigit c = true) ∧
    Float.ofScientific (ofDigits 10 (whole ++ fraction)) true fraction.length = x

theorem isWhole_of_finite {x : Float} {s : Sign} {m : Nat} {e : Int} {hm : 0 < m}
    (h : unpacked x = .finite s m e hm) :
    isWhole x = decide (m * 2 ^ e.toNat % 2 ^ (-e).toNat = 0) := by
  obtain ⟨hmantissa, hexponent⟩ := ofFloat_of_finite h
  rw [isWhole, isFinite_eq, h, Binary.isWhole, Binary.ratio_eq, hmantissa, hexponent]
  rfl

theorem isWhole_of_zero {x : Float} {s : Sign} (h : unpacked x = .zero s) : isWhole x = true := by
  rw [isWhole, isFinite_eq, h, Binary.isWhole, Binary.ratio_eq, ofFloat_of_zero h]
  simp [UnpackedFloat.isFinite]

/-- The digits of a fraction are set out around a point. -/
theorem writtenAs_positional {digits : List Char} {exponent : Int} (he : exponent < 0)
    (hd : ∀ c ∈ digits, isDigit c = true) (hne : digits ≠ []) :
    WrittenAs (Float.ofScientific (ofDigits 10 digits) true exponent.natAbs)
      (Layout.writePositional false digits exponent) := by
  have hplaces : (-exponent).toNat = exponent.natAbs := by omega
  have hpos : 0 < digits.length := List.length_pos_iff.2 hne
  rw [Layout.writePositional, if_neg (by omega), hplaces]
  dsimp only
  split
  · rename_i hlt
    refine ⟨digits.take (digits.length - exponent.natAbs),
      digits.drop (digits.length - exponent.natAbs), rfl, ?_, ?_,
      fun c hc => hd c (List.mem_of_mem_take hc), fun c hc => hd c (List.mem_of_mem_drop hc), ?_⟩
    · rw [← List.length_pos_iff, List.length_take]
      omega
    · rw [← List.length_pos_iff, List.length_drop]
      omega
    · have hlength : (digits.drop (digits.length - exponent.natAbs)).length = exponent.natAbs := by
        rw [List.length_drop]
        omega
      rw [List.take_append_drop, hlength]
  · rename_i hle
    refine ⟨['0'], List.replicate (exponent.natAbs - digits.length) '0' ++ digits, by simp,
      by simp, by simp [hne], by simp [isDigit], fun c hc => ?_, ?_⟩
    · rcases List.mem_append.1 hc with hc | hc
      · rw [List.eq_of_mem_replicate hc]
        decide
      · exact hd c hc
    · have hlength : (List.replicate (exponent.natAbs - digits.length) '0' ++ digits).length =
          exponent.natAbs := by
        rw [List.length_append, List.length_replicate]
        omega
      have hzeros := ofDigits_zeros 10 (exponent.natAbs - digits.length + 1) digits
      rw [List.replicate_succ, List.cons_append] at hzeros
      rw [hlength]
      exact congrArg (Float.ofScientific · true exponent.natAbs) hzeros

/-- **The text of a finite float without a sign** consists of digits around a point, which are read
as the float. -/
theorem floatLiteral_reads {x : Float} (hs : isNegative x = false) (hn : x.isNaN = false)
    (hi : x.isInf = false) : WrittenAs x (floatLiteral x).toList := by
  have hwhole : ∀ k, isWhole x = true → (Binary.ofFloat x).floor = k →
      Float.ofScientific (k * 10) true 1 = x → WrittenAs x (floatLiteral x).toList := by
    intro k hw hfloor hread
    refine ⟨toDigits k, ['0'], ?_, toDigits_ne_nil k, by simp, fun _ => isDigit_of_mem_toDigits,
      by simp [isDigit], ?_⟩
    · rw [floatLiteral, if_pos hw, hs, hfloor]
      simp [natText]
    · have hdigits := ofDigits_append_zeros (toDigits k) 1
      rw [ofDigits_toDigits] at hdigits
      have hlist : toDigits k ++ ['0'] = toDigits k ++ List.replicate 1 '0' := rfl
      rw [hlist, hdigits]
      exact hread
  rcases zero_or_positive hs hn hi with hx | ⟨m, e, hm, hx⟩
  · refine hwhole 0 (isWhole_of_zero hx) ?_ ?_
    · rw [Binary.floor, Binary.ratio_eq, ofFloat_of_zero hx]
      simp
    · apply eq_of_unpacked_eq
      rw [hx]
      rfl
  · obtain ⟨hmantissa, hexponent⟩ := ofFloat_of_finite hx
    have hproper := proper_unpacked x
    rw [hx] at hproper
    obtain ⟨h, he, he', hform⟩ := hproper
    by_cases hfraction : m * 2 ^ e.toNat % 2 ^ (-e).toNat = 0
    · refine hwhole (m * 2 ^ e.toNat / 2 ^ (-e).toNat) ?_ ?_ ?_
      · rw [isWhole_of_finite hx, decide_eq_true hfraction]
      · rw [Binary.floor, Binary.ratio_eq, hmantissa, hexponent]
      · apply eq_of_unpacked_eq
        rw [hx]
        refine ofScientific_exact (by decide) hm h he he' hform ?_
        rw [Nat.mul_right_comm, Nat.div_mul_cancel (Nat.dvd_of_mod_eq_zero hfraction), Nat.pow_one]
    · have htext : floatLiteral x = floatLayout.write x := by
        rw [floatLiteral, isWhole_of_finite hx, decide_eq_false hfraction, floatText, hn, hi]
        rfl
      obtain ⟨hneg, hread⟩ := Decimal.shortest_reads hx hfraction floatLayout.tie
      rw [htext, Layout.write]
      generalize Decimal.shortest floatLayout.tie x = d at hneg hread
      simp only [hs, floatLayout, String.toList_ofList]
      have hwritten := writtenAs_positional hneg (fun _ => isDigit_of_mem_toDigits)
        (toDigits_ne_nil d.coefficient)
      rw [ofDigits_toDigits, hread] at hwritten
      exact hwritten

/-- **The text of a negative float** is that of its counterpart behind a sign. -/
theorem floatLiteral_negative {x : Float} (hs : isNegative x = true) (hn : x.isNaN = false)
    (hi : x.isInf = false) : floatLiteral x = "-" ++ floatLiteral (-x) := by
  have hs' : isNegative (-x) = false := by
    rw [isNegative_neg hn, hs]
    rfl
  rcases zero_or_positive hs' (by rw [isNaN_neg, hn]) (by rw [isInf_neg, hi]) with
    hx' | ⟨m, e, hm, hx'⟩
  · have hx : unpacked x = .zero .negative := by
      rw [← neg_neg x, unpacked_neg, hx']
      rfl
    rw [floatLiteral, floatLiteral, isWhole_of_zero hx, isWhole_of_zero hx', hs, hs', Binary.floor,
      Binary.floor, Binary.ratio_eq, Binary.ratio_eq, ofFloat_of_zero hx, ofFloat_of_zero hx']
    simp [String.append_assoc]
  · have hx : unpacked x = .finite .negative m e hm := by
      rw [← neg_neg x, unpacked_neg, hx']
      rfl
    obtain ⟨hmantissa, hexponent⟩ := ofFloat_of_finite hx
    obtain ⟨hmantissa', hexponent'⟩ := ofFloat_of_finite hx'
    rw [floatLiteral, floatLiteral, isWhole_of_finite hx, isWhole_of_finite hx', hs, hs',
      Binary.floor, Binary.floor, Binary.ratio_eq, Binary.ratio_eq, hmantissa, hexponent, hmantissa',
      hexponent']
    split
    · simp [String.append_assoc]
    · have habs : x.abs = (-x).abs := by
        apply eq_of_unpacked_eq
        rw [unpacked_abs, unpacked_abs, unpacked_neg, hx]
        rfl
      have hshortest : ∀ tie, Decimal.shortest tie x = Decimal.shortest tie (-x) := by
        intro tie
        rw [Decimal.shortest, Decimal.shortest]
        dsimp only [Binary.ratio_eq]
        rw [hmantissa, hexponent, hmantissa', hexponent', habs]
      have hwrite : floatLayout.write x = "-" ++ floatLayout.write (-x) := by
        rw [Layout.write, Layout.write, hshortest, hs, hs']
        apply String.toList_injective
        simp
      rw [floatText, floatText, hn, hi, isNaN_neg, hn, isInf_neg, hi]
      exact hwrite

end FieldQuery.Number
