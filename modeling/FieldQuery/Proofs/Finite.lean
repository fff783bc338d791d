import FieldQuery.Proofs.Floats

/-!
# Floats that are finite

Arithmetic makes an infinity only of a number that is too large for the format, and NaN only of
infinities and zeros.  So whole numbers of 64 bits are finite floats, a product of finite floats is
finite unless it is an infinity, and dividing a finite float by a power of ten leaves it finite.

* `round_eq` — rounding is shifting, rounding the mantissa and shifting once more.
* `bounded_round` — rounding leaves the room of the format only with a large number.
* `round_large` — a number with enough digits is rounded to one that is no less.
* `ofNat_eq_mul`, `ofNat_eq_round` — the two ways in which a whole number becomes a float.
* `isFinite_ofNat` — a whole number of 64 bits is a finite float.
* `isFinite_mul` — a product of finite floats that is no infinity is finite.
* `isFinite_powerOfTen`, `isFinite_div_powerOfTen` — powers of ten, and what is divided by one.
-/

open Float.Model
open Float.Model.UnpackedFloat hiding unpack pack neg abs isNaN isInf isFinite ofScientific

namespace FieldQuery.Number

/-! ## Numbers within the format -/

/-- Is the number one that the format has a power of two for? -/
def Bounded : UnpackedFloat → Prop
  | .zero _ => True
  | .finite _ _ e _ => e ≤ 971
  | _ => False

theorem isFinite_unpack_pack {u : UnpackedFloat} (h : Bounded u) :
    (UnpackedFloat.unpack binary64 (UnpackedFloat.pack binary64 u)).isFinite = true := by
  cases u with
  | zero s => cases s <;> rfl
  | finite s m e hm =>
    have he : e ≤ 971 := h
    have hbias : ((binary64.exponentBias : Nat) : Int) + (52 : Nat) = 1075 := rfl
    have hroom : ¬ 2 ^ 11 ≤ (e + (binary64.exponentBias : Nat) + (52 : Nat)).toNat + 1 := by
      rw [Int.add_assoc, hbias]
      omega
    unfold UnpackedFloat.pack
    dsimp only
    rw [if_neg hroom]
    split
    · refine (unpack_packComponents s ?_).2
      rw [BitVec.toNat_ofNat]
      show _ % 2 ^ 11 ≠ _
      have hlt := Nat.not_le.1 hroom
      omega
    · exact (unpack_packComponents s (by decide)).2
  | infinity | notANumber => exact h.elim

theorem isFinite_ofModel_pack {u : UnpackedFloat} (h : Bounded u) :
    (Float.ofModel (.pack u)).isFinite = true :=
  isFinite_unpack_pack h

/-- What is finite is within the format. -/
theorem unpacked_of_isFinite {x : Float} (h : x.isFinite = true) :
    (∃ s, unpacked x = .zero s) ∨
      ∃ s m e hm, unpacked x = .finite s m e hm ∧ m < 2 ^ 53 ∧ e ≤ 971 := by
  rw [isFinite_eq] at h
  have hproper := proper_unpacked x
  cases hx : unpacked x with
  | zero s => exact .inl ⟨s, rfl⟩
  | finite s m e hm =>
    rw [hx] at hproper
    exact .inr ⟨s, m, e, hm, rfl, hproper.1, hproper.2.2.1⟩
  | infinity s =>
    rw [hx] at h
    cases h
  | notANumber =>
    rw [hx] at h
    cases h

theorem isFinite_neg {x : Float} (h : x.isFinite = true) : (-x).isFinite = true := by
  rw [isFinite_eq, unpacked_neg]
  rcases unpacked_of_isFinite h with ⟨s, hx⟩ | ⟨s, m, e, hm, hx, _⟩
  all_goals
    rw [hx]
    rfl

/-! ## Rounding -/

/-- Shifting takes digits from the mantissa, up to the exponent that the format has for it. -/
theorem shift_eq (m : Nat) (e : Int) (accuracy : Accuracy) : ∃ k : Nat,
    (shiftToTargetExponent binary64 m e accuracy).1.mantissa = m / 2 ^ k ∧
      (shiftToTargetExponent binary64 m e accuracy).2 = e + k ∧
      e + k = max e (max (m.log2 + 1 + e - 53) (-1074)) := by
  have hmantissa : (ExtendedMantissa.ofMantissaAndAccuracy m accuracy).mantissa = m := by
    rcases accuracy with _ | ⟨_ | _ | _⟩ <;> rfl
  refine ⟨_, ?_, rfl, ?_⟩
  · exact (shiftRight_mantissa _ _).trans (by rw [hmantissa])
  · rw [target_eq]
    omega

/-- Rounding shifts a mantissa, rounds it, and shifts it once more, as the digits may be one more
then. -/
theorem round_eq (s : Sign) (m : Nat) (e : Int) (accuracy : Accuracy) : ∃ k r j : Nat,
    e + k = max e (max (m.log2 + 1 + e - 53) (-1074)) ∧ (r = m / 2 ^ k ∨ r = m / 2 ^ k + 1) ∧
      e + k + j = max (e + k) (max (r.log2 + 1 + (e + k) - 53) (-1074)) ∧
      roundWithAccuracy binary64 s m e accuracy =
        if h : r / 2 ^ j = 0 then .zero s
        else .finite s (r / 2 ^ j) (e + k + j) (Nat.pos_of_ne_zero h) := by
  obtain ⟨k, hmantissa, hexponent, hk⟩ := shift_eq m e accuracy
  obtain ⟨j, hmantissa', hexponent', hj⟩ :=
    shift_eq (shiftToTargetExponent binary64 m e accuracy).1.roundedMantissa (e + k) .exact
  have hrounded := roundedMantissa_eq (shiftToTargetExponent binary64 m e accuracy).1
  rw [hmantissa] at hrounded
  refine ⟨k, _, j, hk, hrounded, hj, ?_⟩
  unfold roundWithAccuracy
  dsimp only
  rw [hexponent]
  simp only [hmantissa', hexponent']

/-- **Rounding leaves the room of the format only with a large number.** -/
theorem bounded_round {s : Sign} {m : Nat} {e : Int} {accuracy : Accuracy} (he : e ≤ 970)
    (h : (m.log2 : Int) + 1 + e ≤ 1023) : Bounded (roundWithAccuracy binary64 s m e accuracy) := by
  obtain ⟨k, r, j, hk, hrounded, hj, hround⟩ := round_eq s m e accuracy
  -- rounding up carries into one more digit at most
  have hlog : r.log2 ≤ m.log2 + 1 - k := by
    have hlt : m < 2 ^ (m.log2 + 1 - k) * 2 ^ k := by
      rw [← Nat.pow_add]
      exact Nat.lt_of_lt_of_le Nat.lt_log2_self (Nat.pow_le_pow_right (by decide) (by omega))
    have hquotient : m / 2 ^ k < 2 ^ (m.log2 + 1 - k) :=
      (Nat.div_lt_iff_lt_mul (Nat.pow_pos (by decide))).2 hlt
    by_cases hr : r = 0
    · rw [hr, Nat.log2_zero]
      exact Nat.zero_le _
    · refine Nat.le_of_lt_succ ((Nat.log2_lt hr).2 ?_)
      rw [Nat.pow_succ]
      omega
  rw [hround]
  split
  · trivial
  · show e + k + j ≤ 971
    omega

/-- A number with all the digits that the format has room for is rounded to one that is no less. -/
theorem round_large (s : Sign) {m : Nat} {e : Int} (accuracy : Accuracy) (hm : 52 ≤ m.log2)
    (he : -1022 ≤ (m.log2 : Int) + e) (h : (m.log2 : Int) + 1 + e ≤ 1023) :
    ∃ m' e' hm', roundWithAccuracy binary64 s m e accuracy = .finite s m' e' hm' ∧
      Proper (.finite s m' e' hm') ∧ (m.log2 : Int) + e ≤ m'.log2 + e' := by
  have hne : m ≠ 0 := by
    rintro rfl
    rw [Nat.log2_zero] at hm
    omega
  have hbounded : Bounded (roundWithAccuracy binary64 s m e accuracy) :=
    bounded_round (by omega) h
  obtain ⟨k, r, j, hk, hrounded, hj, hround⟩ := round_eq s m e accuracy
  -- the first shift leaves 53 digits, and so does the second one
  have hquotient : 2 ^ 52 ≤ m / 2 ^ k := by
    rw [Nat.le_div_iff_mul_le (Nat.pow_pos (by decide)), ← Nat.pow_add]
    exact (Nat.le_log2 hne).1 (by omega)
  have hr : 52 ≤ r.log2 := (Nat.le_log2 (by omega)).2 (by omega)
  have hlow : 2 ^ 52 ≤ r / 2 ^ j := by
    rw [Nat.le_div_iff_mul_le (Nat.pow_pos (by decide)), ← Nat.pow_add]
    exact (Nat.le_log2 (by omega)).1 (by omega)
  have hhigh : r / 2 ^ j < 2 ^ 53 := by
    rw [Nat.div_lt_iff_lt_mul (Nat.pow_pos (by decide)), ← Nat.pow_add]
    exact (Nat.log2_lt (by omega)).1 (by omega)
  rw [dif_neg (by omega)] at hround
  rw [hround] at hbounded ⊢
  refine ⟨_, _, _, rfl, ⟨hhigh, by omega, hbounded, .inl hlow⟩, ?_⟩
  have hlog := (Nat.le_log2 (n := r / 2 ^ j) (by omega)).2 hlow
  omega

theorem bounded_mul {s₁ s₂ : Sign} {m₁ m₂ : Nat} {e₁ e₂ : Int} {h₁ : 0 < m₁} {h₂ : 0 < m₂}
    (he : e₁ + e₂ ≤ 970) (h : (m₁.log2 : Int) + m₂.log2 + 2 + (e₁ + e₂) ≤ 1023) :
    Bounded (UnpackedFloat.mul binary64 (.finite s₁ m₁ e₁ h₁) (.finite s₂ m₂ e₂ h₂)) := by
  have hlog := log2_mul_le h₁ h₂
  exact bounded_round he (by omega)

theorem bounded_div {s₁ s₂ : Sign} {m₁ m₂ : Nat} {e₁ e₂ : Int} {h₁ : 0 < m₁} {h₂ : 0 < m₂}
    (h : (m₁.log2 : Int) + e₁ - (m₂.log2 + e₂) ≤ 1020) :
    Bounded (UnpackedFloat.div binary64 (.finite s₁ m₁ e₁ h₁) (.finite s₂ m₂ e₂ h₂)) := by
  rw [UnpackedFloat.div, divCore]
  dsimp only
  have htarget : ∀ d : Int, binary64.targetExponent d = max (d - 53) (-1074) := fun _ => rfl
  rw [htarget, totalExponent, totalExponent]
  generalize ht : min (e₁ - e₂)
    (max ((m₁.log2 : Int) + 1 + e₁ - (m₂.log2 + 1 + e₂) - 53) (-1074)) = t
  obtain ⟨k, hk⟩ : ∃ k : Nat, e₁ - e₂ - t = k := ⟨(e₁ - e₂ - t).toNat, by omega⟩
  rw [hk, Int.toNat_natCast, Nat.shiftLeft_eq]
  refine bounded_round (by omega) ?_
  have hlog := log2_div_le (a := m₁ * 2 ^ k) h₂
  rw [log2_mul_two_pow h₁] at hlog
  omega

/-! ## Whole numbers -/

theorem unpacked_one : unpacked Float.exactlyRepresentablePowersOfTen[0] =
    .finite .positive (2 ^ 52) (-52) (by decide) := by
  rfl

/-- A small whole number is multiplied by one. -/
theorem ofNat_eq_mul {n : Nat} (h : n < 2 ^ 53) : Float.ofNat n = .ofModel (.pack
    (UnpackedFloat.mul binary64 (unpacked n.toUInt64.toFloat)
      (.finite .positive (2 ^ 52) (-52) (by decide)))) := by
  rw [← unpacked_one]
  show Float.ofScientific n false 0 = _
  rw [Float.ofScientific, dif_pos ⟨h, Nat.zero_le _⟩]
  rfl

/-- A large whole number is rounded. -/
theorem ofNat_eq_round {n : Nat} (h : 2 ^ 53 ≤ n) : Float.ofNat n = .ofModel (.pack
    (roundWithAccuracy binary64 .positive (n * 2 ^ 53) (-53) .exact)) := by
  have hvalue : UnpackedFloat.ofScientific binary64 n (0 : Nat) =
      roundWithAccuracy binary64 .positive (n * 2 ^ 53) (-53) .exact := by
    have hshift : n <<< binary64.mantissaBits * 10 ^ ((0 : Nat) : Int).toNat = n * 2 ^ 53 := by
      rw [Int.toNat_natCast, Nat.pow_zero, Nat.mul_one, Nat.shiftLeft_eq]
      rfl
    rw [UnpackedFloat.ofScientific, dif_neg (by omega),
      if_neg (show ¬ ((0 : Nat) : Int) > 2 ^ 11 by omega),
      if_neg (show ¬ ((0 : Nat) : Int) < -((2 ^ 11 : Int) + n.log2) by omega), if_pos (by omega)]
    show roundWithAccuracy binary64 .positive
      (n <<< binary64.mantissaBits * 10 ^ ((0 : Nat) : Int).toNat) (-53) .exact = _
    rw [hshift]
  show Float.ofScientific n false 0 = _
  rw [Float.ofScientific, dif_neg (by omega)]
  show Float.ofModel (.pack (UnpackedFloat.ofScientific binary64 n (0 : Nat))) = _
  rw [hvalue]

/-- **A whole number of 64 bits is a finite float.** -/
theorem isFinite_ofNat {n : Nat} (h : n < 2 ^ 64) : (Float.ofNat n).isFinite = true := by
  rcases Nat.lt_or_ge n (2 ^ 53) with hsmall | hlarge
  · rw [ofNat_eq_mul hsmall]
    refine isFinite_ofModel_pack ?_
    rcases Nat.eq_zero_or_pos n with rfl | hpos
    · rw [unpacked_ofNat_zero]
      trivial
    · obtain ⟨j, hj, hnumber⟩ := unpacked_ofNat hpos hsmall
      have hproper := proper_unpacked n.toUInt64.toFloat
      rw [hnumber] at hproper ⊢
      have hlog := (Nat.log2_lt (Nat.pos_iff_ne_zero.1 hj)).2 hproper.1
      have hone : (2 ^ 52 : Nat).log2 = 52 := Nat.log2_two_pow
      exact bounded_mul (by omega) (by omega)
  · have hne : n ≠ 0 := by omega
    have hlog := log2_mul_two_pow (Nat.pos_of_ne_zero hne) 53
    have hn := (Nat.log2_lt hne).2 h
    rw [ofNat_eq_round hlarge]
    exact isFinite_ofModel_pack (bounded_round (by omega) (by omega))

/-! ## Products and quotients -/

/-- **A product of finite floats that is no infinity is finite.** -/
theorem isFinite_mul {x y : Float} (hx : x.isFinite = true) (hy : y.isFinite = true)
    (h : (x * y).isInf = false) : (x * y).isFinite = true := by
  have hsign : sign? (unpacked (x * y)) ≠ none := by
    have hpacked : sign? (unpacked (x * y)) =
        sign? (UnpackedFloat.mul binary64 (unpacked x) (unpacked y)) :=
      sign?_unpacked_ofModel_pack _
    rw [hpacked]
    rcases unpacked_of_isFinite hx with ⟨s, hx⟩ | ⟨s, m, e, hm, hx, _⟩ <;>
      rcases unpacked_of_isFinite hy with ⟨s', hy⟩ | ⟨s', m', e', hm', hy, _⟩ <;>
        rw [hx, hy]
    · exact nofun
    · exact nofun
    · exact nofun
    · rw [UnpackedFloat.mul, sign?_round]
      exact nofun
  rw [isInf_eq] at h
  rw [isFinite_eq]
  cases hproduct : unpacked (x * y) with
  | zero | finite => rfl
  | infinity s =>
    rw [hproduct] at h
    cases h
  | notANumber =>
    rw [hproduct] at hsign
    exact absurd rfl hsign

/-- Is it a finite number that is at least eight, if the power of ten is not the first? -/
def isLargePower (k : Nat) : UnpackedFloat → Bool
  | .finite .positive m e _ => decide (k = 0) || decide (3 ≤ (m.log2 : Int) + e)
  | _ => false

/-- The powers of ten that are floats themselves, and the last one that there is a float for, which
is too close to the bound of the format to be known by its digits alone. -/
theorem isLargePower_table : ∀ k ∈ 308 :: List.range 23,
    isLargePower k (unpacked (Float.ofScientific 1 false k)) = true := by
  decide +kernel

theorem unpacked_largePower {k : Nat} (hk : k ≤ 308) :
    ∃ m e hm, unpacked (Float.ofScientific 1 false k) = .finite .positive m e hm ∧
      (k = 0 ∨ 3 ≤ (m.log2 : Int) + e) := by
  by_cases htable : k ∈ 308 :: List.range 23
  · have h := isLargePower_table k htable
    unfold isLargePower at h
    split at h
    · rename_i m e hm heq
      simp only [Bool.or_eq_true, decide_eq_true_eq] at h
      exact ⟨m, e, hm, heq, h⟩
    · cases h
  · rw [List.mem_cons, List.mem_range] at htable
    have hpos : 0 < 10 ^ k := Nat.pow_pos (by decide)
    have hne := Nat.pos_iff_ne_zero.1 hpos
    have hlow : 3 ≤ (10 ^ k).log2 := by
      refine (Nat.le_log2 hne).2 ?_
      calc 2 ^ 3 ≤ 10 ^ 1 := by decide
        _ ≤ 10 ^ k := Nat.pow_le_pow_right (by decide) (by omega)
    have hhigh : (10 ^ k).log2 < 1020 := by
      refine (Nat.log2_lt hne).2 ?_
      calc 10 ^ k ≤ 10 ^ 307 := Nat.pow_le_pow_right (by decide) (by omega)
        _ < 2 ^ 1020 := by decide +kernel
    have hlog : (2 ^ 53 * 10 ^ k).log2 = (10 ^ k).log2 + 53 := by
      rw [Nat.mul_comm, log2_mul_two_pow hpos]
    obtain ⟨m, e, hm, hround, hproper, hle⟩ := 
      round_large .positive (m := 2 ^ 53 * 10 ^ k) (e := -53) .exact (by omega) (by omega) (by omega)
    refine ⟨m, e, hm, ?_, .inr (by omega)⟩
    have hvalue : UnpackedFloat.ofScientific binary64 1 k = .finite .positive m e hm := by
      rw [UnpackedFloat.ofScientific, dif_neg (by decide),
        if_neg (show ¬ (k : Int) > 2 ^ 11 by omega),
        if_neg (show ¬ (k : Int) < -((2 ^ 11 : Int) + (Nat.log2 1 : Nat)) by omega),
        if_pos (Int.natCast_nonneg k)]
      exact hround
    have hslow : Float.ofScientific 1 false k =
        .ofModel (.pack (UnpackedFloat.ofScientific binary64 1 k)) := by
      rw [Float.ofScientific, dif_neg (by omega)]
      rfl
    rw [hslow, hvalue]
    exact unpacked_ofModel_pack hproper

theorem isFinite_powerOfTen {k : Nat} (hk : k ≤ 308) :
    (Float.ofScientific 1 false k).isFinite = true := by
  obtain ⟨m, e, hm, hpower, _⟩ := unpacked_largePower hk
  rw [isFinite_eq, hpower]
  rfl

/-- **What is divided by a power of ten stays finite.** -/
theorem isFinite_div_powerOfTen {x : Float} {k : Nat} (hx : x.isFinite = true) (hpos : 0 < k)
    (hk : k ≤ 308) : (x / Float.ofScientific 1 false k).isFinite = true := by
  obtain ⟨m, e, hm, hpower, hlarge⟩ := unpacked_largePower hk
  show (Float.ofModel (.pack (UnpackedFloat.div binary64 (unpacked x)
    (unpacked (Float.ofScientific 1 false k))))).isFinite = true
  refine isFinite_ofModel_pack ?_
  rw [hpower]
  rcases unpacked_of_isFinite hx with ⟨s, hx⟩ | ⟨s, m', e', hm', hx, hm'lt, he'⟩
  · rw [hx]
    trivial
  · rw [hx]
    have hlog := (Nat.log2_lt (Nat.pos_iff_ne_zero.1 hm')).2 hm'lt
    exact bounded_div (by omega)

end FieldQuery.Number
