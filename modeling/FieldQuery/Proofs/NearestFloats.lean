import FieldQuery.Proofs.FloatValues

/-!
# The nearest floats

A number with more digits than a mantissa has room for is rounded.  This divides it by a power of
two and keeps two bits of what is shifted out, which is all that the nearest multiple of that power
of two depends on; and no float that is not such a multiple is as near.

* `Tells` — what the bits that are kept say about a number; `tells_shiftRight`, `Tells.near`.
* `NearestEven` — the float that a number is rounded to.
* `NearestEven.unique`, `NearestEven.mono`, `NearestEven.beq_iff` — there is only one, rounding
  keeps the order, and what is equal to it is equal after rounding.
* `RoundsTo`, `nearestEven_of_roundsTo` — the nearest multiple of a power of two is the nearest
  float.
* `round_roundsTo` — the arithmetic of floats rounds to such a multiple.
-/

open Float.Model (UnpackedFloat totalExponent)
open Float.Model.UnpackedFloat (ExtendedMantissa Sign roundWithAccuracy shiftToExponent
  shiftToTargetExponent)

namespace FieldQuery.Number

/-! ## What is shifted out -/

/-- What a mantissa and two bits of what was shifted out of it say about a number: whether it is
above the half way to the next mantissa, and whether it is neither there nor at the mantissa. -/
def Tells (em : ExtendedMantissa) (q : ℚ) : Prop :=
  match em.roundBit, em.stickyBit with
  | false, false => q = em.mantissa
  | false, true => em.mantissa < q ∧ q < em.mantissa + 1 / 2
  | true, false => q = em.mantissa + 1 / 2
  | true, true => em.mantissa + 1 / 2 < q ∧ q < em.mantissa + 1

theorem Tells.shiftRightOne {em : ExtendedMantissa} {q : ℚ} (h : Tells em q) :
    Tells em.shiftRightOne (q / 2) := by
  obtain ⟨m, round, sticky⟩ := em
  -- the last digit of the mantissa becomes the bit above the half way
  rcases Nat.even_or_odd' m with ⟨c, rfl | rfl⟩
  · have hhalf : 2 * c / 2 = c := by omega
    have hbit : 2 * c % 2 = 0 := by omega
    cases round <;> cases sticky <;>
      simp only [Tells, ExtendedMantissa.shiftRightOne, hhalf, hbit, bne_self_eq_false,
        Bool.or_false, Bool.or_true, Nat.cast_mul, Nat.cast_ofNat] at h ⊢
    · linarith
    · constructor <;> linarith
    · constructor <;> linarith
    · constructor <;> linarith
  · have hhalf : (2 * c + 1) / 2 = c := by omega
    have hbit : ((2 * c + 1) % 2 != 0) = true := by
      rw [show (2 * c + 1) % 2 = 1 by omega]
      rfl
    cases round <;> cases sticky <;>
      simp only [Tells, ExtendedMantissa.shiftRightOne, hhalf, hbit, Bool.or_false, Bool.or_true,
        Nat.cast_mul, Nat.cast_ofNat, Nat.cast_add, Nat.cast_one] at h ⊢
    · linarith
    · constructor <;> linarith
    · constructor <;> linarith
    · constructor <;> linarith

/-- The bits that are kept tell where a number was that is shifted. -/
theorem tells_shiftRight (m k : Nat) :
    Tells ((⟨m, false, false⟩ : ExtendedMantissa) >>> k) (m / 2 ^ k) := by
  induction k with
  | zero =>
    rw [pow_zero, div_one]
    exact (rfl : (m : ℚ) = m)
  | succ k ih =>
    rw [shiftRight_succ, pow_succ, ← div_div]
    exact ih.shiftRightOne

/-- **The rounded mantissa is the nearest one**, and even where two are as near. -/
theorem Tells.near {em : ExtendedMantissa} {q : ℚ} (h : Tells em q) :
    |em.roundedMantissa - q| < 1 / 2 ∨
      |em.roundedMantissa - q| = 1 / 2 ∧ em.roundedMantissa % 2 = 0 := by
  obtain ⟨m, round, sticky⟩ := em
  cases round with
  | false =>
    left
    have hkept : (⟨m, false, sticky⟩ : ExtendedMantissa).roundedMantissa = m := by
      cases sticky <;> rfl
    rw [hkept, abs_lt]
    cases sticky with
    | false =>
      have heq : q = m := h
      constructor <;> linarith
    | true =>
      obtain ⟨hlow, hhigh⟩ : (m : ℚ) < q ∧ q < m + 1 / 2 := h
      constructor <;> linarith
  | true =>
    cases sticky with
    | false =>
      right
      have heq : q = m + 1 / 2 := h
      have hround : (⟨m, true, false⟩ : ExtendedMantissa).roundedMantissa = m + m % 2 := rfl
      rw [hround, heq]
      rcases Nat.mod_two_eq_zero_or_one m with heven | hodd
      · refine ⟨?_, by omega⟩
        rw [heven, Nat.add_zero, sub_add_cancel_left, abs_neg, abs_of_pos (by norm_num)]
      · refine ⟨?_, by omega⟩
        rw [hodd, Nat.cast_add, Nat.cast_one, add_sub_add_left_eq_sub, abs_of_pos (by norm_num)]
        norm_num
    | true =>
      left
      obtain ⟨hlow, hhigh⟩ : (m : ℚ) + 1 / 2 < q ∧ q < m + 1 := h
      have hround : (⟨m, true, true⟩ : ExtendedMantissa).roundedMantissa = m + 1 := rfl
      rw [hround, Nat.cast_add, Nat.cast_one, abs_lt]
      constructor <;> linarith

/-! ## Mantissas and exponents -/

/-- The mantissa and the exponent of a float are in the form of the format. -/
theorem ofFloat_form (x : Float) : (Binary.ofFloat x).mantissa < 2 ^ 53 ∧
    -1074 ≤ (Binary.ofFloat x).exponent ∧
      (2 ^ 52 ≤ (Binary.ofFloat x).mantissa ∨ (Binary.ofFloat x).exponent = -1074) := by
  rw [Binary.ofFloat_eq]
  dsimp only
  split
  · rename_i hzero
    rw [hzero]
    omega
  · omega

/-- A number of the format has one mantissa only. -/
theorem mantissa_of_size {x : Float} {m : Nat} {e : Int} (hm : m < 2 ^ 53) (he : -1074 ≤ e)
    (hform : 2 ^ 52 ≤ m ∨ e = -1074) (h : size x = m * 2 ^ e) :
    (Binary.ofFloat x).mantissa = m := by
  obtain ⟨hlt, hlow, hnormal⟩ := ofFloat_form x
  have horder := magnitude_compares hlt hm hnormal hform hlow he
  have hequal := horder.eq_eq.2 h
  rw [Ordering.then_eq_eq, Nat.compare_eq_eq] at hequal
  exact hequal.2

theorem abs_value (x : Float) : |value x| = size x := by
  rw [value]
  split
  · rw [abs_neg, abs_of_nonneg (size_nonneg x)]
  · exact abs_of_nonneg (size_nonneg x)

theorem mantissa_of_abs_value {x y : Float} (h : |value x| = |value y|) :
    (Binary.ofFloat x).mantissa = (Binary.ofFloat y).mantissa := by
  obtain ⟨hlt, hlow, hnormal⟩ := ofFloat_form y
  rw [abs_value, abs_value] at h
  exact mantissa_of_size hlt hlow hnormal h

/-- A multiple of a power of two that has as many digits as there is room for, or is the next power
of two, has the last digit of its mantissa. -/
theorem mantissa_parity {x : Float} {r : Nat} {t : Int} (ht : -1074 ≤ t) (hlow : 2 ^ 52 ≤ r)
    (hhigh : r ≤ 2 ^ 53) (h : |value x| = r * 2 ^ t) :
    (Binary.ofFloat x).mantissa % 2 = r % 2 := by
  rw [abs_value] at h
  rcases hhigh.eq_or_lt with rfl | hlt
  · have hsize : size x = (2 ^ 52 : Nat) * 2 ^ (t + 1) := by
      rw [h, zpow_add_one₀ (by norm_num)]
      push_cast
      ring
    rw [mantissa_of_size (by decide) (by omega) (.inl (le_refl _)) hsize]
    rfl
  · rw [mantissa_of_size hlt ht (.inl hlow) h]

/-- A float is a multiple of a power of two, or less than the first number that is written with
that power. -/
theorem multiple_or_small (x : Float) (t : Int) :
    (∃ j : ℤ, value x = j * 2 ^ t) ∨ |value x| < 2 ^ 52 * 2 ^ t := by
  obtain ⟨hlt, -, -⟩ := ofFloat_form x
  rcases Int.lt_or_le (Binary.ofFloat x).exponent t with he | he
  · right
    have hsmall := magnitude_lt hlt (le_refl (2 ^ 52)) he
    rw [Nat.cast_pow, Nat.cast_ofNat] at hsmall
    rwa [abs_value, size]
  · left
    obtain ⟨k, hk⟩ : ∃ k : ℕ, (Binary.ofFloat x).exponent = k + t :=
      ⟨((Binary.ofFloat x).exponent - t).toNat, by omega⟩
    have hsize : size x = ((Binary.ofFloat x).mantissa * 2 ^ k : ℕ) * 2 ^ t := by
      rw [size, hk, zpow_add₀ (by norm_num), zpow_natCast]
      push_cast
      ring
    rw [value, hsize]
    split
    · exact ⟨-((Binary.ofFloat x).mantissa * 2 ^ k : ℕ), by push_cast; ring⟩
    · exact ⟨((Binary.ofFloat x).mantissa * 2 ^ k : ℕ), by push_cast; ring⟩

/-! ## The nearest float -/

/-- Is the float the one that a number is rounded to?  None is nearer; and where another one is as
near, its mantissa is even and that of the other one is odd. -/
structure NearestEven (x : Float) (q : ℚ) : Prop where
  finite : x.isFinite = true
  nearest : ∀ y : Float, y.isFinite = true → |value x - q| ≤ |value y - q|
  even : ∀ y : Float, y.isFinite = true → |value y - q| = |value x - q| → value y ≠ value x →
    (Binary.ofFloat x).mantissa % 2 = 0 ∧ (Binary.ofFloat y).mantissa % 2 = 1

section

variable {x y : Float} {p q : ℚ}

/-- **A number is rounded to one number only.** -/
theorem NearestEven.unique (hx : NearestEven x q) (hy : NearestEven y q) : value x = value y := by
  have hdistance := (hx.nearest y hy.finite).antisymm (hy.nearest x hx.finite)
  by_contra hne
  have heven := (hx.even y hy.finite hdistance.symm (Ne.symm hne)).1
  have hodd := (hy.even x hx.finite hdistance hne).2
  omega

theorem NearestEven.congr (hx : NearestEven x q) (hy : y.isFinite = true)
    (h : value y = value x) : NearestEven y q where
  finite := hy
  nearest := h ▸ hx.nearest
  even z hz hdistance hne := by
    rw [h] at hdistance hne
    rw [mantissa_of_abs_value (congrArg abs h)]
    exact hx.even z hz hdistance hne

theorem isNaN_of_isFinite (h : x.isFinite = true) : x.isNaN = false := by
  rw [isFinite_eq] at h
  rw [isNaN_eq]
  cases hx : unpacked x with
  | notANumber =>
    rw [hx] at h
    cases h
  | _ => rfl

/-- Rounding does not depend on the sign. -/
theorem NearestEven.neg (hx : NearestEven x q) : NearestEven (-x) (-q) := by
  have hvalue : ∀ {z : Float}, z.isFinite = true → value (-z) = -value z :=
    fun hz => value_neg (isNaN_of_isFinite hz)
  have hdistance : ∀ {z : Float}, z.isFinite = true → |value (-z) - -q| = |value z - q| := by
    intro z hz
    rw [hvalue hz, neg_sub_neg, abs_sub_comm]
  have hmantissa : ∀ {z : Float}, z.isFinite = true →
      (Binary.ofFloat (-z)).mantissa = (Binary.ofFloat z).mantissa := by
    intro z hz
    refine mantissa_of_abs_value ?_
    rw [hvalue hz, abs_neg]
  have hturn : ∀ {z : Float}, z.isFinite = true → ∃ y : Float, y.isFinite = true ∧ z = -y :=
    fun {z} hz => ⟨-z, isFinite_neg hz, (neg_neg z).symm⟩
  refine ⟨isFinite_neg hx.finite, ?_, ?_⟩
  · intro z hz
    obtain ⟨y, hy, rfl⟩ := hturn hz
    rw [hdistance hx.finite, hdistance hy]
    exact hx.nearest y hy
  · intro z hz hsame hne
    obtain ⟨y, hy, rfl⟩ := hturn hz
    rw [hdistance hx.finite, hdistance hy] at hsame
    rw [hvalue hx.finite, hvalue hy] at hne
    rw [hmantissa hx.finite, hmantissa hy]
    exact hx.even y hy hsame fun h => hne (congrArg _ h)

/-- **To be equal to what a number is rounded to** is to be what it is rounded to. -/
theorem NearestEven.beq_iff (hx : NearestEven x q) : (x == y) = true ↔ NearestEven y q := by
  have hxnan := isNaN_of_isFinite hx.finite
  constructor
  · intro h
    have hynan : y.isNaN = false := by
      rw [← Bool.not_eq_true]
      intro hnan
      rw [beq_iff_compare, compare_of_isNaN (.inr hnan)] at h
      cases h
    have hvalue := (beq_iff_value hxnan hynan).1 h
    refine hx.congr ?_ hvalue.symm
    rw [← abs_value_lt_iff hynan, ← hvalue]
    exact (abs_value_lt_iff hxnan).2 hx.finite
  · intro hy
    exact (beq_iff_value hxnan (isNaN_of_isFinite hy.finite)).2 (hx.unique hy)

/-- What has a place among the floats is not rounded. -/
theorem nearestEven_of_exact (hx : x.isFinite = true) (h : value x = q) : NearestEven x q where
  finite := hx
  nearest y _ := by
    rw [h, sub_self, abs_zero]
    exact abs_nonneg _
  even y _ hdistance hne := by
    rw [h, sub_self, abs_zero, abs_eq_zero, sub_eq_zero] at hdistance
    exact absurd (hdistance.trans h.symm) hne

/-- **Rounding keeps the order.** -/
theorem NearestEven.mono (hx : NearestEven x p) (hy : NearestEven y q) (h : p ≤ q) :
    value x ≤ value y := by
  rcases h.eq_or_lt with rfl | hlt
  · exact (hx.unique hy).le
  · by_contra hgt
    rw [not_le] at hgt
    -- each is on its own side of the half way between them
    have hlow : (value x + value y) / 2 ≤ p := by
      by_contra hbelow
      have hnearer : |value y - p| < |value x - p| := by
        rw [abs_of_pos (by linarith : 0 < value x - p), abs_lt]
        constructor <;> linarith
      exact absurd (hx.nearest y hy.finite) (not_le.2 hnearer)
    have hhigh : q ≤ (value x + value y) / 2 := by
      by_contra habove
      have hnearer : |value x - q| < |value y - q| := by
        rw [abs_of_neg (by linarith : value y - q < 0), abs_lt]
        constructor <;> linarith
      exact absurd (hy.nearest x hx.finite) (not_le.2 hnearer)
    linarith

end

/-! ## Multiples of a power of two -/

/-- A number with 53 digits before the point and the whole number that it is rounded to. -/
structure RoundsTo (u : ℚ) (r : Nat) : Prop where
  low : 2 ^ 52 ≤ u
  high : u < 2 ^ 53
  near : |r - u| < 1 / 2 ∨ |r - u| = 1 / 2 ∧ r % 2 = 0

section

variable {u : ℚ} {r : Nat}

theorem RoundsTo.distance_le (h : RoundsTo u r) : |r - u| ≤ 1 / 2 :=
  h.near.elim le_of_lt fun h => h.1.le

/-- What is half a unit away from the number at most has as many digits, or is the next power of
two. -/
theorem RoundsTo.bounds (h : RoundsTo u r) {j : ℤ} (hj : |j - u| ≤ 1 / 2) :
    2 ^ 52 ≤ j ∧ j ≤ 2 ^ 53 := by
  obtain ⟨hbelow, habove⟩ := abs_le.1 hj
  have hlow : (2 ^ 52 : ℚ) < j + 1 := by linarith [h.low]
  have hhigh : (j : ℚ) < 2 ^ 53 + 1 := by linarith [h.high]
  have hlow' : (2 ^ 52 : ℤ) < j + 1 := by exact_mod_cast hlow
  have hhigh' : j < 2 ^ 53 + 1 := by exact_mod_cast hhigh
  omega

/-- No whole number is nearer. -/
theorem RoundsTo.nearest (h : RoundsTo u r) (j : ℤ) : |r - u| ≤ |j - u| := by
  by_cases hj : j = r
  · rw [hj, Int.cast_natCast]
  · have hunit : (1 : ℚ) ≤ |(j : ℚ) - r| := by
      exact_mod_cast Int.one_le_abs (sub_ne_zero.2 hj)
    have htriangle := abs_sub_le (j : ℚ) u r
    rw [abs_sub_comm u] at htriangle
    linarith [h.distance_le]

/-- Of two whole numbers that are as near, the one is even and the other odd. -/
theorem RoundsTo.even (h : RoundsTo u r) {j : ℤ} (hj : j ≠ r) (hsame : |j - u| = |r - u|) :
    r % 2 = 0 ∧ j % 2 = 1 := by
  have hunit : (1 : ℚ) ≤ |(j : ℚ) - r| := by
    exact_mod_cast Int.one_le_abs (sub_ne_zero.2 hj)
  have htriangle := abs_sub_le (j : ℚ) u r
  rw [abs_sub_comm u] at htriangle
  rcases h.near with hnear | ⟨hhalf, heven⟩
  · linarith
  · have hnext : |(j : ℚ) - r| ≤ 1 := by linarith
    have hnext' : |j - r| ≤ 1 := by exact_mod_cast hnext
    rw [abs_le] at hnext'
    omega

/-- A number with fewer digits is behind the first one with as many. -/
theorem RoundsTo.nearer (h : RoundsTo u r) {v : ℚ} (hv : v < 2 ^ 52) : |r - u| < |v - u| := by
  have hfirst : |(r : ℚ) - u| ≤ |((2 ^ 52 : ℤ) : ℚ) - u| := h.nearest (2 ^ 52)
  have hlow := h.low
  have hcast : ((2 ^ 52 : ℤ) : ℚ) = 2 ^ 52 := by push_cast; rfl
  have hgap : v - u < 0 := by linarith
  rw [hcast, abs_of_nonpos (by linarith : (2 ^ 52 : ℚ) - u ≤ 0)] at hfirst
  rw [abs_of_neg hgap]
  linarith

/-- **The nearest multiple of a power of two is the nearest float.** -/
theorem nearestEven_of_roundsTo {x : Float} {t : Int} (hx : x.isFinite = true) (ht : -1074 ≤ t)
    (h : RoundsTo u r) (hvalue : value x = r * 2 ^ t) : NearestEven x (u * 2 ^ t) := by
  have hpos : (0 : ℚ) < 2 ^ t := by positivity
  have hscaled : ∀ v : ℚ, |v * 2 ^ t - u * 2 ^ t| = |v - u| * 2 ^ t := by
    intro v
    rw [← sub_mul, abs_mul, abs_of_pos hpos]
  have hsmall : ∀ y : Float, |value y| < 2 ^ 52 * 2 ^ t →
      |value x - u * 2 ^ t| < |value y - u * 2 ^ t| := by
    intro y hy
    have hv : value y / 2 ^ t < 2 ^ 52 := (div_lt_iff₀ hpos).2 ((le_abs_self _).trans_lt hy)
    have hy' : value y = value y / 2 ^ t * 2 ^ t := (div_mul_cancel₀ _ hpos.ne').symm
    rw [hy', hvalue, hscaled, hscaled]
    exact mul_lt_mul_of_pos_right (h.nearer hv) hpos
  refine ⟨hx, ?_, ?_⟩
  · intro y _
    rcases multiple_or_small y t with ⟨j, hj⟩ | hy
    · rw [hvalue, hj, hscaled, hscaled]
      exact mul_le_mul_of_nonneg_right (h.nearest j) hpos.le
    · exact (hsmall y hy).le
  · intro y _ hsame hne
    rcases multiple_or_small y t with ⟨j, hj⟩ | hy
    · rw [hvalue, hj, hscaled, hscaled] at hsame
      have hsame' : |j - u| = |r - u| := mul_right_cancel₀ hpos.ne' hsame
      have hj' : j ≠ r := by
        rintro rfl
        rw [hj, hvalue] at hne
        exact hne rfl
      obtain ⟨heven, hodd⟩ := h.even hj' hsame'
      obtain ⟨hlow, hhigh⟩ := h.bounds (j := r) (by rw [Int.cast_natCast]; exact h.distance_le)
      obtain ⟨hlow', hhigh'⟩ := h.bounds (j := j) (hsame'.le.trans h.distance_le)
      obtain ⟨k, rfl⟩ : ∃ k : ℕ, j = k := ⟨j.toNat, by omega⟩
      rw [Int.cast_natCast] at hj
      have hsize : ∀ {y : Float} {k : ℕ}, value y = k * 2 ^ t → |value y| = k * 2 ^ t := by
        rintro y k hy
        rw [hy, abs_of_nonneg (by positivity)]
      rw [mantissa_parity ht (by omega) (by omega) (hsize hvalue),
        mantissa_parity ht (by omega) (by omega) (hsize hj)]
      omega
    · exact absurd hsame (hsmall y hy).ne'

end

/-! ## Rounding -/

theorem roundsTo_shiftRight {m k : Nat} (hlog : m.log2 = 52 + k) :
    RoundsTo (m / 2 ^ k) ((⟨m, false, false⟩ : ExtendedMantissa) >>> k).roundedMantissa := by
  have hpos : (0 : ℚ) < 2 ^ k := by positivity
  have hne : m ≠ 0 := by
    rintro rfl
    rw [Nat.log2_zero] at hlog
    omega
  obtain ⟨hlow, hhigh⟩ := (Nat.log2_eq_iff hne).1 hlog
  refine ⟨?_, ?_, (tells_shiftRight m k).near⟩
  · rw [le_div_iff₀ hpos, ← pow_add]
    exact_mod_cast hlow
  · rw [div_lt_iff₀ hpos, ← pow_add]
    have hexp : 52 + k + 1 = 53 + k := by omega
    rw [hexp] at hhigh
    exact_mod_cast hhigh

/-- **Rounding makes the nearest multiple of a power of two** of a number with more digits than
there is room for. -/
theorem round_roundsTo (s : Sign) {m k : Nat} {e : Int} (hlog : m.log2 = 52 + k)
    (he : -1074 ≤ e + k) (he' : e + k ≤ 970) :
    ∃ r m' e' hm', RoundsTo (m / 2 ^ k) r ∧
      roundWithAccuracy binary64 s m e .exact = .finite s m' e' hm' ∧
        Proper (.finite s m' e' hm') ∧ (m' * 2 ^ e' : ℚ) = r * 2 ^ (e + k) := by
  obtain ⟨r, m', e', hm', hr, hround, hlow, hhigh, hdigits⟩ := round_many_digits s hlog he
  refine ⟨r, m', e', hm', hr ▸ roundsTo_shiftRight hlog, hround,
    ⟨hhigh, by omega, by omega, .inl hlow⟩, ?_⟩
  rcases hdigits with ⟨rfl, rfl⟩ | ⟨rfl, rfl⟩
  · rfl
  · rw [zpow_add_one₀ (by norm_num)]
    push_cast
    ring

end FieldQuery.Number
