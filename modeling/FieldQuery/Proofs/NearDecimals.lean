import FieldQuery.Proofs.ScaledFloats
import Mathlib.Algebra.Order.Field.Basic
import Mathlib.Algebra.Order.Ring.Abs
import Mathlib.Data.Rat.Cast.Order
import Mathlib.Tactic.FieldSimp
import Mathlib.Tactic.GCongr
import Mathlib.Tactic.Linarith
import Mathlib.Tactic.NormNum
import Mathlib.Tactic.Positivity
import Mathlib.Tactic.Ring

/-!
# How near a decimal is to its float

A float that is no multiple of a power of two becomes a decimal in two steps.  Its power of two is
turned into a power of ten, which is exact up to the room for the coefficient; then digits are
dropped one after the other, each rounding what the one before it left.  All in all the decimal
differs from the float by at most one part in `10 ^ 14` and one unit of the last place that there
is room for.

* `size`, `Scaled.size` — what floats and decimals amount to, without their signs.
* `Scaled.halve_near` — the power of ten.
* `Scaled.Rounds` — dropping digits one after the other; `Scaled.Rounds.near` bounds what it loses.
* `Scaled.ofFloat?_near` — the decimal and the float.
-/

namespace FieldQuery.Number

/-- What a finite float amounts to, without its sign. -/
def size (x : Float) : ℚ :=
  (Binary.ofFloat x).mantissa * 2 ^ (Binary.ofFloat x).exponent

theorem size_nonneg (x : Float) : 0 ≤ size x := by
  unfold size
  positivity

namespace Scaled

/-- What a coefficient with some places amounts to. -/
def amount (n places : Nat) : ℚ :=
  n / 10 ^ places

/-- What a decimal amounts to, without its sign. -/
def size (d : Scaled) : ℚ :=
  amount d.coefficient d.scale

theorem amount_nonneg (n places : Nat) : 0 ≤ amount n places := by
  unfold amount
  positivity

/-! ## The power of ten -/

/-- **Halving loses next to nothing**: a coefficient is cut only where it has next to no room. -/
theorem halve_near (steps n : Nat) (power : ℤ) :
    ((halve steps (n, power)).1 : ℚ) * 10 ^ (halve steps (n, power)).2 ≤
        n * 5 ^ steps * 10 ^ power ∧
      n * 5 ^ steps * 10 ^ power * (1 - steps / 2 ^ 93 : ℚ) ≤
        (halve steps (n, power)).1 * 10 ^ (halve steps (n, power)).2 := by
  induction steps generalizing n power with
  | zero => simp [halve]
  | succ steps ih =>
    have hpower : (10 : ℚ) ^ (power + 1) = 10 ^ power * 10 := zpow_add_one₀ (by norm_num) power
    have hpos : (0 : ℚ) < 5 ^ (steps + 1) * 10 ^ power := by positivity
    have hless : (1 - (steps + 1 : Nat) / 2 ^ 93 : ℚ) ≤ 1 - steps / 2 ^ 93 := by
      push_cast
      linarith
    rw [halve]
    split
    · rename_i heven
      obtain ⟨k, rfl⟩ := Nat.dvd_of_mod_eq_zero heven
      have hk : 2 * k / 2 = k := Nat.mul_div_cancel_left k (by decide)
      obtain ⟨hle, hge⟩ := ih k (power + 1)
      have hsame : (k : ℚ) * 5 ^ steps * 10 ^ (power + 1) =
          (2 * k : Nat) * 5 ^ (steps + 1) * 10 ^ power := by
        rw [hpower]
        push_cast
        ring
      rw [hsame] at hle hge
      rw [hk]
      refine ⟨hle, le_trans ?_ hge⟩
      exact mul_le_mul_of_nonneg_left hless (by positivity)
    · split
      · obtain ⟨hle, hge⟩ := ih (n * 5) power
        have hsame : ((n * 5 : Nat) : ℚ) * 5 ^ steps * 10 ^ power =
            n * 5 ^ (steps + 1) * 10 ^ power := by
          push_cast
          ring
        rw [hsame] at hle hge
        refine ⟨hle, le_trans ?_ hge⟩
        exact mul_le_mul_of_nonneg_left hless (by positivity)
      · rename_i hodd hfull
        obtain ⟨hle, hge⟩ := ih (n / 2) (power + 1)
        obtain ⟨k, hk⟩ : ∃ k, n = 2 * k + 1 := ⟨n / 2, by omega⟩
        have hhalf : n / 2 = k := by omega
        have hlarge : (2 ^ 93 : ℚ) ≤ n := by
          have hlimit : limit = 2 ^ 96 := rfl
          exact_mod_cast (by omega : 2 ^ 93 ≤ n)
        have hcut : (k : ℚ) * 5 ^ steps * 10 ^ (power + 1) =
            (n - 1) * (5 ^ (steps + 1) * 10 ^ power) := by
          rw [hpower, hk]
          push_cast
          ring
        rw [hhalf] at hle hge ⊢
        rw [hcut] at hle hge
        constructor
        · calc _ ≤ (n - 1) * (5 ^ (steps + 1) * 10 ^ power : ℚ) := hle
            _ ≤ n * (5 ^ (steps + 1) * 10 ^ power) := by gcongr; linarith
            _ = n * 5 ^ (steps + 1) * 10 ^ power := by ring
        · -- what is cut is one of more than `2 ^ 93`
          have hloss : (n : ℚ) * (1 - (steps + 1 : Nat) / 2 ^ 93) ≤
              (n - 1) * (1 - steps / 2 ^ 93) := by
            have hsteps : (0 : ℚ) ≤ steps / 2 ^ 93 := by positivity
            have hone : (1 : ℚ) ≤ n / 2 ^ 93 := by
              rw [le_div_iff₀ (by positivity)]
              linarith
            push_cast
            linarith
          calc n * 5 ^ (steps + 1) * 10 ^ power * (1 - (steps + 1 : Nat) / 2 ^ 93 : ℚ)
              = n * (1 - (steps + 1 : Nat) / 2 ^ 93) * (5 ^ (steps + 1) * 10 ^ power) := by ring
            _ ≤ (n - 1) * (1 - steps / 2 ^ 93) * (5 ^ (steps + 1) * 10 ^ power) := by gcongr
            _ = (n - 1) * (5 ^ (steps + 1) * 10 ^ power) * (1 - steps / 2 ^ 93) := by ring
            _ ≤ _ := hge

/-! ## Dropping digits -/

/-- A coefficient with places after its last digits were dropped one by one, each a half up. -/
def Rounds (n places n' places' : Nat) : Prop :=
  ∃ j, places = places' + j ∧ |(10 ^ j * n' : ℚ) - n| ≤ 5 * (10 ^ j - 1) / 9

theorem Rounds.refl (n places : Nat) : Rounds n places n places :=
  ⟨0, rfl, by simp⟩

/-- Dropping more digits rounds what was rounded. -/
theorem Rounds.trans {n places n' places' n'' places'' : Nat} (h : Rounds n places n' places')
    (h' : Rounds n' places' n'' places'') : Rounds n places n'' places'' := by
  obtain ⟨j, rfl, hj⟩ := h
  obtain ⟨k, rfl, hk⟩ := h'
  refine ⟨k + j, by omega, ?_⟩
  have hscaled : |10 ^ j * (10 ^ k * n'' - n' : ℚ)| ≤ 10 ^ j * (5 * (10 ^ k - 1) / 9) := by
    rw [abs_mul, abs_of_nonneg (by positivity : (0 : ℚ) ≤ 10 ^ j)]
    gcongr
  calc |(10 ^ (k + j) * n'' : ℚ) - n|
      = |(10 ^ j * (10 ^ k * n'' - n') + (10 ^ j * n' - n) : ℚ)| := by
        congr 1
        ring
    _ ≤ 10 ^ j * (5 * (10 ^ k - 1) / 9) + 5 * (10 ^ j - 1) / 9 :=
      (abs_add_le _ _).trans (add_le_add hscaled hj)
    _ = 5 * (10 ^ (k + j) - 1) / 9 := by ring

theorem dropDigit_near (n : Nat) : 10 * dropDigit n ≤ n + 5 ∧ n ≤ 10 * dropDigit n + 4 := by
  unfold dropDigit
  split <;> omega

theorem rounds_dropDigit (n places : Nat) : Rounds n (places + 1) (dropDigit n) places := by
  refine ⟨1, rfl, ?_⟩
  obtain ⟨hle, hge⟩ := dropDigit_near n
  have hle' : (10 * dropDigit n : ℚ) ≤ n + 5 := mod_cast hle
  have hge' : (n : ℚ) ≤ 10 * dropDigit n + 4 := mod_cast hge
  rw [abs_le]
  constructor <;> linarith

/-- **What is lost by dropping digits** is less than six tenths of the last place that is left. -/
theorem Rounds.near {n places n' places' : Nat} (h : Rounds n places n' places') :
    |amount n' places' - amount n places| ≤ 5 / 9 / 10 ^ places' := by
  obtain ⟨j, rfl, hj⟩ := h
  have hsame : amount n' places' - amount n (places' + j) =
      (10 ^ j * n' - n) / (10 ^ places' * 10 ^ j) := by
    rw [amount, amount, pow_add]
    field_simp
  rw [hsame, abs_div, abs_of_pos (by positivity : (0 : ℚ) < 10 ^ places' * 10 ^ j),
    div_le_iff₀ (by positivity)]
  calc |(10 ^ j * n' : ℚ) - n| ≤ 5 * (10 ^ j - 1) / 9 := hj
    _ ≤ 5 / 9 * 10 ^ j := by linarith
    _ = 5 / 9 / 10 ^ places' * (10 ^ places' * 10 ^ j) := by field_simp

/-- Dropping excess places stops at the last place that there is room for, or where nothing but
one digit is left. -/
theorem rounds_dropExcessPlaces (fuel : Nat) {n places : Nat} (h : places ≤ maxScale + fuel) :
    ∃ n' places', Rounds n places n' places' ∧
      ((dropExcessPlaces fuel (n, places) = (n', places') ∧
          (n' = n ∧ places' = places ∨ maxScale ≤ places')) ∨
        dropExcessPlaces fuel (n, places) = (0, 0) ∧ n' < 10 ∧ maxScale < places') := by
  induction fuel generalizing n places with
  | zero => exact ⟨n, places, .refl n places, .inl ⟨rfl, .inl ⟨rfl, rfl⟩⟩⟩
  | succ fuel ih =>
    rw [dropExcessPlaces]
    split
    · exact ⟨n, places, .refl n places, .inl ⟨rfl, .inl ⟨rfl, rfl⟩⟩⟩
    · rename_i hmany
      split
      · rename_i hdigit
        exact ⟨n, places, .refl n places, .inr ⟨rfl, hdigit, Nat.not_le.1 hmany⟩⟩
      · obtain ⟨k, rfl⟩ : ∃ k, places = k + 1 := ⟨places - 1, by omega⟩
        obtain ⟨n', places', hrounds, hends⟩ := @ih (dropDigit n) k (by omega)
        refine ⟨n', places', (rounds_dropDigit n k).trans hrounds, ?_⟩
        rw [Nat.add_sub_cancel]
        rcases hends with ⟨hdrop, ⟨-, rfl⟩ | hroom⟩ | hvanished
        · exact .inl ⟨hdrop, .inr (by omega)⟩
        · exact .inl ⟨hdrop, .inr hroom⟩
        · exact .inr hvanished

/-- Dropping places that a float cannot vouch for leaves those it can vouch for. -/
theorem rounds_dropUncertainPlaces (n places : Nat) :
    Rounds n places (dropUncertainPlaces n places).1 (dropUncertainPlaces n places).2 ∧
      (dropUncertainPlaces n places = (n, places) ∨
        2 ^ 52 ≤ 10 * (dropUncertainPlaces n places).1 + 4) := by
  induction places generalizing n with
  | zero => exact ⟨.refl n 0, .inl rfl⟩
  | succ places ih =>
    rw [dropUncertainPlaces]
    split
    · exact ⟨.refl n _, .inl rfl⟩
    · rename_i hmany
      obtain ⟨hrounds, hends⟩ := ih (dropDigit n)
      refine ⟨(rounds_dropDigit n places).trans hrounds, .inr ?_⟩
      rcases hends with hsame | hlarge
      · rw [hsame]
        exact (Nat.not_lt.1 hmany).trans (dropDigit_near n).2
      · exact hlarge

/-- Dropping zeros loses nothing. -/
theorem amount_dropZeroPlaces (n places : Nat) :
    amount (dropZeroPlaces n places).1 (dropZeroPlaces n places).2 = amount n places := by
  induction places generalizing n with
  | zero => rfl
  | succ places ih =>
    rw [dropZeroPlaces]
    split
    · rename_i hzero
      obtain ⟨k, rfl⟩ := Nat.dvd_of_mod_eq_zero hzero
      rw [ih, Nat.mul_div_cancel_left k (by decide), amount, amount, pow_succ]
      push_cast
      field_simp
    · rfl

/-! ## The decimal near a float -/

theorem dropExcessPlaces_near (n places : Nat) :
    |amount (dropExcessPlaces places (n, places)).1 (dropExcessPlaces places (n, places)).2 -
      amount n places| ≤ 96 / 10 ^ 30 := by
  obtain ⟨n', places', hrounds, hends⟩ :=
    @rounds_dropExcessPlaces places n places (Nat.le_add_left places maxScale)
  have hnear := hrounds.near
  rcases hends with ⟨hdrop, ⟨rfl, rfl⟩ | hroom⟩ | ⟨hdrop, hdigit, hfar⟩
  · rw [hdrop, sub_self, abs_zero]
    positivity
  · rw [hdrop]
    refine hnear.trans ?_
    have hunit : (10 : ℚ) ^ 28 ≤ 10 ^ places' := pow_le_pow_right₀ (by norm_num) hroom
    calc (5 / 9 / 10 ^ places' : ℚ) ≤ 5 / 9 / 10 ^ 28 := by gcongr
      _ ≤ 96 / 10 ^ 30 := by norm_num
  · have hunit : (10 : ℚ) ^ 29 ≤ 10 ^ places' := pow_le_pow_right₀ (by norm_num) hfar
    have hleft : amount n' places' ≤ 9 / 10 ^ places' := by
      unfold amount
      gcongr
      exact_mod_cast Nat.le_of_lt_succ hdigit
    have hle : amount n places ≤ 86 / 9 / 10 ^ places' := by
      have hsum : (9 / 10 ^ places' + 5 / 9 / 10 ^ places' : ℚ) = 86 / 9 / 10 ^ places' := by
        ring
      linarith [(abs_le.1 hnear).1]
    have hzero : amount 0 0 = 0 := by simp [amount]
    rw [hdrop, hzero, zero_sub, abs_neg, abs_of_nonneg (amount_nonneg n places)]
    calc amount n places ≤ 86 / 9 / 10 ^ places' := hle
      _ ≤ 86 / 9 / 10 ^ 29 := by gcongr
      _ ≤ 96 / 10 ^ 30 := by norm_num

theorem dropUncertainPlaces_near (n places : Nat) :
    |amount (dropUncertainPlaces n places).1 (dropUncertainPlaces n places).2 -
      amount n places| ≤ amount n places / (5 * 10 ^ 14) := by
  obtain ⟨hrounds, hends⟩ := rounds_dropUncertainPlaces n places
  have hnonneg := amount_nonneg n places
  rcases hends with hsame | hlarge
  · rw [hsame, sub_self, abs_zero]
    positivity
  · have hnear := hrounds.near
    rcases hdrop : dropUncertainPlaces n places with ⟨n', places'⟩
    rw [hdrop] at hnear hlarge
    dsimp only at hnear hlarge ⊢
    -- the last place that is left is a small part of what is left
    have hunit : 450359962737049 * (5 / 9 / 10 ^ places') ≤ 5 / 9 * amount n' places' := by
      have hleft : (450359962737049 : ℚ) ≤ n' := by
        exact_mod_cast (by omega : 450359962737049 ≤ n')
      calc (450359962737049 * (5 / 9 / 10 ^ places') : ℚ)
          = 5 / 9 * (450359962737049 / 10 ^ places') := by ring
        _ ≤ 5 / 9 * (n' / 10 ^ places') := by gcongr
    obtain ⟨hlow, hhigh⟩ := abs_le.1 hnear
    rw [abs_le]
    constructor <;> linarith

theorem trimmed_near (negative : Bool) (n places : Nat) :
    |(trimmed negative n places).size - amount n places| ≤
      amount n places / (4 * 10 ^ 14) + 1 / 10 ^ 28 := by
  have hexcess := dropExcessPlaces_near n places
  rcases h₁ : dropExcessPlaces places (n, places) with ⟨n₁, places₁⟩
  rw [h₁] at hexcess
  have huncertain := dropUncertainPlaces_near n₁ places₁
  rcases h₂ : dropUncertainPlaces n₁ places₁ with ⟨n₂, places₂⟩
  rw [h₂] at huncertain
  have hsize : (trimmed negative n places).size = amount n₂ places₂ := by
    rw [← amount_dropZeroPlaces n₂ places₂, trimmed, h₁]
    dsimp only
    rw [h₂]
    rfl
  rw [hsize]
  dsimp only at hexcess huncertain
  rw [abs_le] at hexcess huncertain ⊢
  have hnonneg := amount_nonneg n places
  constructor <;> linarith

/-- The power of ten loses next to nothing. -/
theorem tenfold_near {x : Float} (he : (Binary.ofFloat x).exponent < 0) :
    ((tenfold x).1 : ℚ) * 10 ^ (tenfold x).2 ≤ Number.size x ∧
      Number.size x * (1 - 1 / 10 ^ 24) ≤ (tenfold x).1 * 10 ^ (tenfold x).2 := by
  obtain ⟨steps, hsteps⟩ : ∃ steps : Nat, (Binary.ofFloat x).exponent = -steps :=
    ⟨(-(Binary.ofFloat x).exponent).toNat, by omega⟩
  have hfew : steps ≤ 1074 := by
    rw [Binary.ofFloat_eq] at hsteps
    dsimp only at hsteps
    omega
  have hsize : ((Binary.ofFloat x).mantissa : ℚ) * 5 ^ steps * 10 ^ (-steps : ℤ) =
      Number.size x := by
    rw [Number.size, hsteps, zpow_neg, zpow_neg, zpow_natCast, zpow_natCast,
      show (10 : ℚ) = 2 * 5 by norm_num, mul_pow]
    field_simp
  obtain ⟨hle, hge⟩ := halve_near steps (Binary.ofFloat x).mantissa (-steps)
  rw [hsize] at hle hge
  have hhalve : tenfold x = halve steps ((Binary.ofFloat x).mantissa, -steps) := by
    rw [tenfold_of_neg he, hsteps, Int.neg_neg, Int.toNat_natCast]
  rw [hhalve]
  refine ⟨hle, le_trans ?_ hge⟩
  have hloss : (steps / 2 ^ 93 : ℚ) ≤ 1 / 10 ^ 24 := by
    have hcast : (steps : ℚ) ≤ 1074 := mod_cast hfew
    calc (steps / 2 ^ 93 : ℚ) ≤ 1074 / 2 ^ 93 := by gcongr
      _ ≤ 1 / 10 ^ 24 := by norm_num
  have hnonneg := size_nonneg x
  gcongr

/-- **The decimal near a float** differs from it by at most one part in `10 ^ 14` and one unit of
the last place that there is room for. -/
theorem ofFloat?_near {x : Float} {d : Scaled} (he : (Binary.ofFloat x).exponent < 0)
    (h : ofFloat? x = some d) :
    |d.size - Number.size x| ≤ Number.size x / 10 ^ 14 + 1 / 10 ^ 28 := by
  have hnonneg := size_nonneg x
  have hfinite := isFinite_of_ofFloat? h
  by_cases hx : (Binary.ofFloat x).mantissa = 0
  · rw [ofFloat?_of_zero hfinite hx] at h
    cases h
    have hsize : Number.size x = 0 := by simp [Number.size, hx]
    rw [hsize, size, amount, Nat.cast_zero, zero_div, zero_div, sub_self, abs_zero]
    positivity
  · obtain ⟨hle, hge⟩ := tenfold_near he
    have hnonpos := tenfold_nonpos he
    rcases hten : tenfold x with ⟨n, power⟩
    rw [hten] at hle hge hnonpos
    dsimp only at hle hge hnonpos
    rw [ofFloat?_of_pos hfinite hx hten] at h
    split at h
    · rename_i hpower
      obtain rfl : power = 0 := Int.le_antisymm hnonpos hpower
      split at h
      · cases h
        have hsize : amount (n * 10 ^ (0 : ℤ).toNat) 0 = n := by simp [amount]
        rw [zpow_zero, mul_one] at hle hge
        rw [size, hsize, abs_le]
        constructor <;> linarith
      · cases h
    · rename_i hneg
      cases h
      have hpower : (n : ℚ) * 10 ^ power = amount n (-power).toNat := by
        have hnat : power = -((-power).toNat : ℤ) := by omega
        rw [amount, div_eq_mul_inv, ← zpow_natCast, ← zpow_neg, ← hnat]
      have htrimmed := trimmed_near (isNegative x) n (-power).toNat
      rw [hpower] at hle hge
      rw [abs_le] at htrimmed ⊢
      constructor <;> linarith

/-- No decimal near such a float is a large number. -/
theorem ofFloat?_small {x : Float} {d : Scaled} (he : (Binary.ofFloat x).exponent < 0)
    (h : ofFloat? x = some d) : d.coefficient / 10 ^ d.scale < 2 ^ 63 := by
  have hsize : Number.size x ≤ 2 ^ 53 := by
    have hmantissa : ((Binary.ofFloat x).mantissa : ℚ) ≤ 2 ^ 53 := by
      rw [Binary.ofFloat_eq]
      dsimp only
      split <;> exact_mod_cast (by omega)
    have hpower : (2 : ℚ) ^ (Binary.ofFloat x).exponent ≤ 1 :=
      zpow_le_one_of_nonpos₀ (by norm_num) (Int.le_of_lt he)
    calc Number.size x ≤ 2 ^ 53 * 1 := by unfold Number.size; gcongr
      _ = 2 ^ 53 := mul_one _
  have hnear := (abs_le.1 (ofFloat?_near he h)).2
  have hlt : d.size < 2 ^ 63 := by linarith
  rw [size, amount, div_lt_iff₀ (by positivity)] at hlt
  exact Nat.div_lt_of_lt_mul (by rw [Nat.mul_comm]; exact_mod_cast hlt)

end Scaled

end FieldQuery.Number
