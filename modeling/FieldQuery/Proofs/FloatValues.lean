import FieldQuery.Proofs.FloatOrder
import FieldQuery.Proofs.NearDecimals

/-!
# The numbers that floats stand for

A float stands for a fraction, and its bits say so exactly.  Floats are compared by their powers of
two first and then by their fractions, without being brought to the same power; as the fractions
fill the room of the format, this is the order of the numbers that they stand for.

* `value` — the number that a float stands for.
* `value_of_finite`, `value_of_zero`, `value_of_infinity` — in terms of what its bits stand for.
* `compare_compares` — floats other than NaN are in the order of their values.
* `beq_iff_value` — and they are equal exactly where these are.
* `compare_of_isNaN` — NaN is in no order.
-/

open Float.Model
open Float.Model.UnpackedFloat hiding unpack pack neg abs isNaN isInf isFinite compare

namespace FieldQuery.Number

/-- The number that a float stands for.  An infinity stands for what would be the next number
behind the last one that the format has room for. -/
def value (x : Float) : ℚ :=
  if isNegative x then -size x else size x

/-- The sign as a factor. -/
def factor : Sign → ℚ
  | .positive => 1
  | .negative => -1

@[simp] theorem factor_positive_mul (p : ℚ) : factor .positive * p = p := one_mul p

@[simp] theorem factor_negative_mul (p : ℚ) : factor .negative * p = -p := neg_one_mul p

/-! ## Values of the kinds of floats -/

section

variable {x y : Float} {s : Sign} {m : Nat} {e : Int} {hm : 0 < m}

theorem value_of_sign? (h : sign? (unpacked x) = some s) : value x = factor s * size x := by
  rw [value, isNegative_of_sign? h]
  cases s with
  | positive => exact (one_mul _).symm
  | negative => exact (neg_one_mul _).symm

theorem value_of_finite (h : unpacked x = .finite s m e hm) :
    value x = factor s * (m * 2 ^ e) := by
  obtain ⟨hmantissa, hexponent⟩ := ofFloat_of_finite h
  rw [value_of_sign? (by rw [h]; rfl), size, hmantissa, hexponent]

theorem value_of_zero (h : unpacked x = .zero s) : value x = 0 := by
  rw [value_of_sign? (by rw [h]; rfl), size, ofFloat_of_zero h, Nat.cast_zero, zero_mul, mul_zero]

/-- The first number that there is no room for. -/
theorem two_pow_infinity : (2 ^ 52 : ℚ) * 2 ^ (972 : ℤ) = 2 ^ (1024 : ℤ) := by
  rw [show (1024 : ℤ) = (52 : ℕ) + 972 by norm_num, zpow_add₀ (by norm_num), zpow_natCast]

/-- What is left of the bits of an infinity is the next power of two. -/
theorem size_of_infinity (h : unpacked x = .infinity s) : size x = 2 ^ (1024 : ℤ) := by
  have hu : unpacked x = _ := unpack_eq x.toModel.toBits.toBitVec
  rw [h] at hu
  split at hu
  · rename_i hp
    split at hu
    · rename_i hf
      have hp' : x.toBits.toNat / 2 ^ 52 % 2 ^ 11 = 2047 := hp
      have hf' : x.toBits.toNat % 2 ^ 52 = 0 := hf
      rw [size, Binary.ofFloat_eq]
      dsimp only
      rw [hp', hf', if_neg (by decide), ← two_pow_infinity]
      norm_num
    · cases hu
  · split at hu
    · split at hu <;> cases hu
    · cases hu

theorem value_of_infinity (h : unpacked x = .infinity s) :
    value x = factor s * 2 ^ (1024 : ℤ) := by
  rw [value_of_sign? (by rw [h]; rfl), size_of_infinity h]

/-- The number below a float is turned around with its sign. -/
theorem value_neg (h : x.isNaN = false) : value (-x) = -value x := by
  have hfactor : ∀ s : Sign, factor (-s) = -factor s := by
    intro s
    cases s <;> simp [factor]
  have hneg := unpacked_neg x
  rw [isNaN_eq] at h
  cases hx : unpacked x with
  | notANumber =>
    rw [hx] at h
    cases h
  | zero s =>
    rw [hx] at hneg
    rw [value_of_zero hneg, value_of_zero hx, neg_zero]
  | infinity s =>
    rw [hx] at hneg
    rw [value_of_infinity hneg, value_of_infinity hx, hfactor, neg_mul]
  | finite s m e hm =>
    rw [hx] at hneg
    rw [value_of_finite hneg, value_of_finite hx, hfactor, neg_mul]

end

/-! ## The order of values -/

section

variable {m m₁ m₂ : Nat} {e e₁ e₂ : Int}

theorem magnitude_pos (hm : 0 < m) : (0 : ℚ) < m * 2 ^ e := by
  have : (0 : ℚ) < m := Nat.cast_pos.2 hm
  positivity

/-- With all the digits that there is room for, the greater power of two decides. -/
theorem magnitude_lt (h₁ : m₁ < 2 ^ 53) (h₂ : 2 ^ 52 ≤ m₂) (he : e₁ < e₂) :
    (m₁ * 2 ^ e₁ : ℚ) < m₂ * 2 ^ e₂ := by
  have h₁' : (m₁ : ℚ) < 2 ^ 53 := by exact_mod_cast h₁
  have h₂' : (2 ^ 52 : ℚ) ≤ m₂ := by exact_mod_cast h₂
  calc (m₁ * 2 ^ e₁ : ℚ) < 2 ^ 53 * 2 ^ e₁ := by gcongr
    _ = 2 ^ 52 * 2 ^ (e₁ + 1) := by rw [zpow_add_one₀ (by norm_num)]; ring
    _ ≤ m₂ * 2 ^ e₂ := by
      gcongr
      · norm_num
      · omega

/-- No finite float is as large as an infinity. -/
theorem magnitude_lt_infinity (hm : m < 2 ^ 53) (he : e ≤ 971) :
    (m * 2 ^ e : ℚ) < 2 ^ (1024 : ℤ) := by
  have hlt := magnitude_lt hm (le_refl (2 ^ 52)) (Int.lt_add_one_of_le he)
  rw [Nat.cast_pow, Nat.cast_ofNat] at hlt
  exact hlt.trans_eq two_pow_infinity

/-- **Two numbers of one sign are in the order of their exponents**, and of their mantissas where
these are the same. -/
theorem magnitude_compares (h₁ : m₁ < 2 ^ 53) (h₂ : m₂ < 2 ^ 53)
    (hform₁ : 2 ^ 52 ≤ m₁ ∨ e₁ = -1074) (hform₂ : 2 ^ 52 ≤ m₂ ∨ e₂ = -1074)
    (he₁ : -1074 ≤ e₁) (he₂ : -1074 ≤ e₂) :
    ((Ord.compare e₁ e₂).then (Ord.compare m₁ m₂)).Compares (m₁ * 2 ^ e₁ : ℚ) (m₂ * 2 ^ e₂) := by
  rcases Int.lt_trichotomy e₁ e₂ with he | rfl | he
  · rw [Int.compare_eq_lt.2 he]
    exact magnitude_lt h₁ (hform₂.resolve_right (by omega)) he
  · have hpos : (0 : ℚ) < 2 ^ e₁ := by positivity
    rw [Int.compare_eq_eq.2 rfl]
    rcases Nat.lt_trichotomy m₁ m₂ with hm | rfl | hm
    · rw [Nat.compare_eq_lt.2 hm]
      exact mul_lt_mul_of_pos_right (Nat.cast_lt.2 hm) hpos
    · rw [Nat.compare_eq_eq.2 rfl]
      rfl
    · rw [Nat.compare_eq_gt.2 hm]
      exact mul_lt_mul_of_pos_right (Nat.cast_lt.2 hm) hpos
  · rw [Int.compare_eq_gt.2 he]
    exact magnitude_lt h₂ (hform₁.resolve_right (by omega)) he

end

/-- What a float other than NaN stands for: an infinity is larger than any number. -/
inductive Stands (large : ℚ) : UnpackedFloat → ℚ → Prop where
  /-- An infinity. -/
  | infinity (s : Sign) : Stands large (.infinity s) (factor s * large)
  /-- A zero. -/
  | zero (s : Sign) : Stands large (.zero s) 0
  /-- Any other number. -/
  | finite (s : Sign) {m : Nat} {e : Int} (hm : 0 < m) : Proper (.finite s m e hm) →
    (m * 2 ^ e : ℚ) < large → Stands large (.finite s m e hm) (factor s * (m * 2 ^ e))

theorem stands_value {x : Float} (h : x.isNaN = false) :
    Stands (2 ^ (1024 : ℤ)) (unpacked x) (value x) := by
  have hproper := proper_unpacked x
  rw [isNaN_eq] at h
  cases hx : unpacked x with
  | notANumber =>
    rw [hx] at h
    cases h
  | infinity s => exact value_of_infinity hx ▸ .infinity s
  | zero s => exact value_of_zero hx ▸ .zero s
  | finite s m e hm =>
    rw [hx] at hproper
    exact value_of_finite hx ▸ .finite s hm hproper (magnitude_lt_infinity hproper.1 hproper.2.2.1)

theorem Stands.abs_lt_iff {large p : ℚ} {a : UnpackedFloat} (hlarge : 0 < large)
    (h : Stands large a p) : |p| < large ↔ a.isFinite = true := by
  have hsign : ∀ (s : Sign) (q : ℚ), |factor s * q| = |q| := by
    intro s q
    cases s <;> simp
  cases h with
  | infinity s =>
    rw [hsign, abs_of_pos hlarge]
    exact ⟨fun hlt => absurd hlt (lt_irrefl _), nofun⟩
  | zero s =>
    rw [abs_zero]
    exact ⟨fun _ => rfl, fun _ => hlarge⟩
  | finite s hm _ hlt =>
    rw [hsign, abs_of_pos (magnitude_pos hm)]
    exact ⟨fun _ => rfl, fun _ => hlt⟩

/-- The values of finite floats are within the room of the format. -/
theorem abs_value_lt_iff {x : Float} (h : x.isNaN = false) :
    |value x| < 2 ^ (1024 : ℤ) ↔ x.isFinite = true := by
  rw [isFinite_eq]
  exact (stands_value h).abs_lt_iff (by positivity)

/-- With one sign, numbers are in the order of their magnitudes, or in the opposite one. -/
theorem signed_compares {m m' : Nat} {e e' : Int} {hm : 0 < m} {hm' : 0 < m'} {p q : ℚ} (s : Sign)
    (h : ((Ord.compare e e').then (Ord.compare m m')).Compares p q) :
    ∃ o, UnpackedFloat.compare (.finite s m e hm) (.finite s m' e' hm') = some o ∧
      o.Compares (factor s * p) (factor s * q) := by
  cases s with
  | positive =>
    refine ⟨_, rfl, ?_⟩
    rwa [factor_positive_mul, factor_positive_mul]
  | negative =>
    refine ⟨_, rfl, ?_⟩
    rw [factor_negative_mul, factor_negative_mul, Ordering.compares_swap]
    generalize (Ord.compare e e').then (Ord.compare m m') = o at h
    cases o with
    | lt => exact neg_lt_neg h
    | eq => exact congrArg _ (Eq.symm h)
    | gt => exact neg_lt_neg h

/-- **Comparing goes by the numbers.** -/
theorem Stands.compares {large p q : ℚ} {a b : UnpackedFloat} (hlarge : 0 < large)
    (ha : Stands large a p) (hb : Stands large b q) :
    ∃ o, a.compare b = some o ∧ o.Compares p q := by
  cases ha with
  | infinity s =>
    cases hb with
    | infinity t =>
      cases s <;> cases t <;> refine ⟨_, rfl, ?_⟩ <;>
        simp only [factor_positive_mul, factor_negative_mul] <;>
        first | exact rfl | exact neg_lt_self hlarge
    | zero t => cases s <;> exact ⟨_, rfl, by simpa [Ordering.Compares] using hlarge⟩
    | @finite t m e hm _ hlt =>
      have hpos := magnitude_pos (e := e) hm
      cases s <;> refine ⟨_, rfl, ?_⟩ <;> cases t <;>
        simp only [factor_positive_mul, factor_negative_mul, Ordering.Compares] <;>
        linarith
  | zero s =>
    cases hb with
    | infinity t => cases t <;> exact ⟨_, rfl, by simpa [Ordering.Compares] using hlarge⟩
    | zero t => exact ⟨_, rfl, rfl⟩
    | @finite t m e hm _ _ =>
      have hpos := magnitude_pos (e := e) hm
      cases t <;> exact ⟨_, rfl, by simpa [Ordering.Compares] using hpos⟩
  | @finite s m e hm hproper hlt =>
    have hpos := magnitude_pos (e := e) hm
    cases hb with
    | infinity t =>
      cases t <;> refine ⟨_, rfl, ?_⟩ <;> cases s <;>
        simp only [factor_positive_mul, factor_negative_mul, Ordering.Compares] <;>
        linarith
    | zero t => cases s <;> exact ⟨_, rfl, by simpa [Ordering.Compares] using hpos⟩
    | @finite t m' e' hm' hproper' hlt' =>
      by_cases hsign : s = t
      · rw [← hsign]
        exact signed_compares s (magnitude_compares hproper.1 hproper'.1 hproper.2.2.2
          hproper'.2.2.2 hproper.2.1 hproper'.2.1)
      · -- whatever the magnitudes, the sign decides
        have hpos' := magnitude_pos (e := e') hm'
        cases s <;> cases t <;> first
          | exact absurd rfl hsign
          | exact ⟨_, rfl, by
              simp only [factor_positive_mul, factor_negative_mul, Ordering.Compares]
              linarith⟩

/-- **Floats other than NaN are in the order of their values.** -/
theorem compare_compares {x y : Float} (hx : x.isNaN = false) (hy : y.isNaN = false) :
    ∃ o, (unpacked x).compare (unpacked y) = some o ∧ o.Compares (value x) (value y) :=
  (stands_value hx).compares (by positivity) (stands_value hy)

theorem beq_iff_value {x y : Float} (hx : x.isNaN = false) (hy : y.isNaN = false) :
    (x == y) = true ↔ value x = value y := by
  obtain ⟨o, hcompare, ho⟩ := compare_compares hx hy
  rw [beq_iff_compare, hcompare, Option.some_inj, ho.eq_eq]

/-- NaN has no place in the order. -/
theorem compare_of_isNaN {x y : Float} (h : x.isNaN = true ∨ y.isNaN = true) :
    (unpacked x).compare (unpacked y) = none := by
  have hnone : ∀ a : UnpackedFloat, a.isNaN = true → a = .notANumber := by
    intro a ha
    cases a <;> first | rfl | cases ha
  rw [isNaN_eq, isNaN_eq] at h
  rcases h with h | h
  · rw [hnone _ h]
    rfl
  · rw [hnone _ h]
    cases unpacked x <;> rfl

end FieldQuery.Number
