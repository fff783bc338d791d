import FieldQuery.Proofs.Binary64

/-!
# Rounding of floats

The arithmetic of floats computes a mantissa and exponent that are exact up to a known accuracy,
and shifts them into the form of the format.  What has a place in the format already comes out as
it is, and a whole number comes out whole.

* `shift_exact` — shifting undoes the multiplication of a mantissa by a power of two.
* `round_exact` — rounding keeps what the format has room for.
* `round_many_digits` — rounding of a number with more digits than that.
* `div_exact` — a quotient that the format has room for is exact.
* `whole_round` — a whole number is rounded to a whole number.
-/

open Float.Model
open Float.Model.UnpackedFloat hiding unpack pack neg abs isNaN isInf isFinite

namespace FieldQuery.Number

/-! ## Shifting -/

theorem log2_mul_two_pow {m : Nat} (hm : 0 < m) (k : Nat) : (m * 2 ^ k).log2 = m.log2 + k := by
  have hne : m ≠ 0 := Nat.pos_iff_ne_zero.1 hm
  have hpos : 0 < m * 2 ^ k := Nat.mul_pos hm (Nat.pow_pos (by decide))
  rw [Nat.log2_eq_iff (Nat.pos_iff_ne_zero.1 hpos)]
  obtain ⟨hlow, hhigh⟩ := (Nat.log2_eq_iff hne).1 (rfl : m.log2 = m.log2)
  constructor
  · rw [Nat.pow_add]
    exact Nat.mul_le_mul_right _ hlow
  · have hexp : m.log2 + k + 1 = m.log2 + 1 + k := by omega
    rw [hexp, Nat.pow_add 2 (m.log2 + 1) k]
    exact Nat.mul_lt_mul_of_pos_right hhigh (Nat.pow_pos (by decide))

theorem log2_mul_le {m n : Nat} (hm : 0 < m) (hn : 0 < n) :
    (m * n).log2 ≤ m.log2 + n.log2 + 1 := by
  have hexp : m.log2 + n.log2 + 2 = (m.log2 + 1) + (n.log2 + 1) := by omega
  have hlt : m * n < 2 ^ (m.log2 + n.log2 + 2) := by
    rw [hexp, Nat.pow_add]
    exact Nat.mul_lt_mul'' Nat.lt_log2_self Nat.lt_log2_self
  exact Nat.le_of_lt_succ ((Nat.log2_lt (Nat.pos_iff_ne_zero.1 (Nat.mul_pos hm hn))).2 hlt)

theorem log2_div_le {a b : Nat} (hb : 0 < b) : (a / b).log2 + b.log2 ≤ max a.log2 b.log2 := by
  by_cases hzero : a / b = 0
  · rw [hzero, Nat.log2_zero, Nat.zero_add]
    exact Nat.le_max_right _ _
  · refine Nat.le_trans ?_ (Nat.le_max_left _ _)
    have ha : a ≠ 0 := by
      rintro rfl
      exact hzero (Nat.zero_div b)
    refine (Nat.le_log2 ha).2 ?_
    calc 2 ^ ((a / b).log2 + b.log2) = 2 ^ (a / b).log2 * 2 ^ b.log2 := Nat.pow_add ..
      _ ≤ a / b * b :=
        Nat.mul_le_mul (Nat.log2_self_le hzero) (Nat.log2_self_le (Nat.pos_iff_ne_zero.1 hb))
      _ ≤ a := Nat.div_mul_le_self a b

/-- The exponent that the format has for a number. -/
theorem target_eq (m : Nat) (e : Int) :
    binary64.targetExponent (totalExponent m e) = max (m.log2 + 1 + e - 53) (-1074) := by
  rfl

theorem shiftRight_succ (em : ExtendedMantissa) (k : Nat) :
    em >>> (k + 1) = (em >>> k).shiftRightOne := by
  rfl

/-- Shifting divides the mantissa by a power of two. -/
theorem shiftRight_mantissa (em : ExtendedMantissa) (k : Nat) :
    (em >>> k).mantissa = em.mantissa / 2 ^ k := by
  induction k with
  | zero => rw [Nat.pow_zero, Nat.div_one]; rfl
  | succ k ih =>
    rw [shiftRight_succ, ExtendedMantissa.shiftRightOne, ih, Nat.div_div_eq_div_mul, Nat.pow_succ]

/-- Nothing is lost where only zeros are shifted out. -/
theorem shiftRight_exact (m : Nat) (k : Nat) :
    (⟨m * 2 ^ k, false, false⟩ : ExtendedMantissa) >>> k = ⟨m, false, false⟩ := by
  induction k generalizing m with
  | zero => rw [Nat.pow_zero, Nat.mul_one]; rfl
  | succ k ih =>
    have hpow : m * 2 ^ (k + 1) = m * 2 * 2 ^ k := by
      rw [Nat.pow_succ, Nat.mul_comm (2 ^ k), Nat.mul_assoc]
    rw [shiftRight_succ, hpow, ih]
    simp [ExtendedMantissa.shiftRightOne]

/-- Rounding adds at most one. -/
theorem roundedMantissa_eq (em : ExtendedMantissa) :
    em.roundedMantissa = em.mantissa ∨ em.roundedMantissa = em.mantissa + 1 := by
  obtain ⟨m, round, sticky⟩ := em
  cases round <;> cases sticky
  · exact .inl rfl
  · exact .inl rfl
  · -- a half goes to the even neighbour
    show m + m % 2 = m ∨ m + m % 2 = m + 1
    omega
  · exact .inr rfl

/-- **Shifting undoes the multiplication** of a mantissa by a power of two. -/
theorem shift_exact {m k : Nat} {t e : Int} (hm : 0 < m) (h : m < 2 ^ 53) (he : -1074 ≤ e)
    (hform : 2 ^ 52 ≤ m ∨ e = -1074) (hk : t + k = e) :
    shiftToTargetExponent binary64 (m * 2 ^ k) t .exact = (⟨m, false, false⟩, e) := by
  have hlog : m.log2 ≤ 52 := by
    have := (Nat.log2_lt (Nat.pos_iff_ne_zero.1 hm)).2 h
    omega
  have htarget : binary64.targetExponent (totalExponent (m * 2 ^ k) t) = e := by
    rw [target_eq, log2_mul_two_pow hm]
    rcases hform with hform | hform
    · have : 52 ≤ m.log2 := (Nat.le_log2 (Nat.pos_iff_ne_zero.1 hm)).2 hform
      omega
    · omega
  have hshift : (e - t).toNat = k := by omega
  rw [shiftToTargetExponent, htarget, shiftToExponent]
  simp only [hshift, ExtendedMantissa.ofMantissaAndAccuracy, shiftRight_exact]
  rw [hk]

/-! ## Rounding -/

/-- **Rounding keeps what the format has room for.** -/
theorem round_exact {s : Sign} {m k : Nat} {t e : Int} (hm : 0 < m) (h : m < 2 ^ 53)
    (he : -1074 ≤ e) (hform : 2 ^ 52 ≤ m ∨ e = -1074) (hk : t + k = e) :
    roundWithAccuracy binary64 s (m * 2 ^ k) t .exact = .finite s m e hm := by
  have hagain := shift_exact (k := 0) hm h he hform (Int.add_zero e)
  rw [Nat.pow_zero, Nat.mul_one] at hagain
  have hrounded : (⟨m, false, false⟩ : ExtendedMantissa).roundedMantissa = m := rfl
  rw [roundWithAccuracy, shift_exact hm h he hform hk]
  simp only [hrounded, hagain]
  rw [dif_neg (Nat.pos_iff_ne_zero.1 hm)]

/-- A number with more digits than there is room for keeps 53 of them. -/
theorem shift_many_digits {m k : Nat} {e : Int} (hlog : m.log2 = 52 + k) (he : -1074 ≤ e + k) :
    shiftToTargetExponent binary64 m e .exact =
      ((⟨m, false, false⟩ : ExtendedMantissa) >>> k, e + k) := by
  have htarget : binary64.targetExponent (totalExponent m e) = e + k := by
    rw [target_eq]
    omega
  have hshift : (e + k - e).toNat = k := by omega
  rw [shiftToTargetExponent, htarget, shiftToExponent]
  simp only [hshift, ExtendedMantissa.ofMantissaAndAccuracy]

/-- **The digits that are kept are rounded**, and all of them may carry into one more. -/
theorem round_many_digits (s : Sign) {m k : Nat} {e : Int} (hlog : m.log2 = 52 + k)
    (he : -1074 ≤ e + k) : ∃ r m' e' hm',
      r = ((⟨m, false, false⟩ : ExtendedMantissa) >>> k).roundedMantissa ∧
        roundWithAccuracy binary64 s m e .exact = .finite s m' e' hm' ∧
          2 ^ 52 ≤ m' ∧ m' < 2 ^ 53 ∧ (m' = r ∧ e' = e + k ∨ m' * 2 = r ∧ e' = e + k + 1) := by
  have hne : m ≠ 0 := by
    rintro rfl
    rw [Nat.log2_zero] at hlog
    omega
  obtain ⟨hlow, hhigh⟩ := (Nat.log2_eq_iff hne).1 hlog
  have hmantissa := shiftRight_mantissa ⟨m, false, false⟩ k
  have hbelow : m / 2 ^ k < 2 ^ 53 := by
    rw [Nat.div_lt_iff_lt_mul (Nat.pow_pos (by decide)), ← Nat.pow_add]
    have hexp : 52 + k + 1 = 53 + k := by omega
    rwa [hexp] at hhigh
  have habove : 2 ^ 52 ≤ m / 2 ^ k := by
    rwa [Nat.le_div_iff_mul_le (Nat.pow_pos (by decide)), ← Nat.pow_add]
  have hrounded := roundedMantissa_eq ((⟨m, false, false⟩ : ExtendedMantissa) >>> k)
  rw [hmantissa] at hrounded
  rw [roundWithAccuracy, shift_many_digits hlog he]
  dsimp only at hrounded ⊢
  generalize ((⟨m, false, false⟩ : ExtendedMantissa) >>> k).roundedMantissa = r at hrounded ⊢
  by_cases hcarry : r < 2 ^ 53
  · have hr : 0 < r := by omega
    have hsecond := shift_exact (k := 0) hr hcarry he (.inl (by omega)) (Int.add_zero (e + k))
    rw [Nat.pow_zero, Nat.mul_one] at hsecond
    simp only [hsecond]
    rw [dif_neg (by omega)]
    exact ⟨r, r, e + k, hr, rfl, rfl, by omega, hcarry, .inl ⟨rfl, rfl⟩⟩
  · have hr : r = 2 ^ 52 * 2 ^ 1 := by omega
    have hsecond := shift_exact (m := 2 ^ 52) (k := 1) (t := e + k) (by decide) (by decide)
      (by omega) (.inl (Nat.le_refl _)) rfl
    rw [← hr] at hsecond
    simp only [hsecond]
    rw [dif_neg (by decide)]
    exact ⟨r, 2 ^ 52, e + k + 1, by decide, rfl, rfl, Nat.le_refl _, by decide,
      .inr ⟨by omega, rfl⟩⟩

/-- **A quotient that the format has room for is exact.**  The quotient of the mantissas, each times
a power of two, is the mantissa of the result times another. -/
theorem div_exact {s₁ s₂ : Sign} {m₁ m₂ m a b : Nat} {e₁ e₂ e : Int} {h₁ : 0 < m₁} {h₂ : 0 < m₂}
    (hm : 0 < m) (h : m < 2 ^ 53) (he : -1074 ≤ e) (hform : 2 ^ 52 ≤ m ∨ e = -1074)
    (hab : (a : Int) - b = e₁ - e₂ - e) (heq : m₁ * 2 ^ a = m * m₂ * 2 ^ b) :
    UnpackedFloat.div binary64 (.finite s₁ m₁ e₁ h₁) (.finite s₂ m₂ e₂ h₂) = .finite (s₁ / s₂) m e hm := by
  have hlog : m.log2 ≤ 52 := by
    have := (Nat.log2_lt (Nat.pos_iff_ne_zero.1 hm)).2 h
    omega
  -- the quotient has no more digits than the mantissa of the result
  have hlogs : m₁.log2 + a ≤ m.log2 + m₂.log2 + 1 + b := by
    have hpos : 0 < m * m₂ := Nat.mul_pos hm h₂
    have hproduct := log2_mul_le hm h₂
    rw [← log2_mul_two_pow h₁, heq, log2_mul_two_pow hpos]
    omega
  rw [UnpackedFloat.div, divCore]
  dsimp only
  have htarget : ∀ d : Int, binary64.targetExponent d = max (d - 53) (-1074) := fun _ => rfl
  rw [htarget, totalExponent, totalExponent]
  generalize ht : min (e₁ - e₂) (max ((m₁.log2 : Int) + 1 + e₁ - (m₂.log2 + 1 + e₂) - 53) (-1074)) = t
  have hle : t ≤ e := by omega
  have hle' : t ≤ e₁ - e₂ := by omega
  generalize hk : (e₁ - e₂ - t).toNat = k
  obtain ⟨j, hj⟩ : ∃ j : Nat, t + j = e := ⟨(e - t).toNat, by omega⟩
  have hkj : k + b = j + a := by omega
  have hquotient : m₁ * 2 ^ k = m * 2 ^ j * m₂ := by
    have hscaled : m₁ * 2 ^ k * 2 ^ b = m * 2 ^ j * m₂ * 2 ^ b := by
      calc m₁ * 2 ^ k * 2 ^ b = m₁ * 2 ^ (k + b) := by rw [Nat.mul_assoc, ← Nat.pow_add]
        _ = m₁ * 2 ^ a * 2 ^ j := by
          rw [hkj, Nat.add_comm j a, Nat.pow_add, Nat.mul_assoc]
        _ = m * m₂ * 2 ^ b * 2 ^ j := by rw [heq]
        _ = m * 2 ^ j * m₂ * 2 ^ b := by
          rw [Nat.mul_right_comm (m * m₂), Nat.mul_right_comm m]
    exact Nat.mul_right_cancel (Nat.pow_pos (by decide)) hscaled
  rw [Nat.shiftLeft_eq, hquotient, Nat.mul_mod_left, Nat.mul_div_cancel _ h₂]
  exact round_exact hm h he hform hj

/-! ## Whole numbers -/

/-- Is the number whole, if it is one? -/
def Whole : UnpackedFloat → Prop
  | .finite _ m e _ => 0 ≤ e ∨ 2 ^ (-e).toNat ∣ m
  | _ => True

/-- A number that the format has no room for is packed as an infinity. -/
theorem pack_overflow {s : Sign} {m : Nat} {e : Int} (hm : 0 < m) (he : 971 < e) :
    UnpackedFloat.pack binary64 (.finite s m e hm) = UnpackedFloat.pack binary64 (.infinity s) := by
  have hbias : ((binary64.exponentBias : Nat) : Int) + (52 : Nat) = 1075 := rfl
  have hlarge : 2 ^ 11 ≤ (e + (binary64.exponentBias : Nat) + (52 : Nat)).toNat + 1 := by
    rw [Int.add_assoc, hbias]
    omega
  unfold UnpackedFloat.pack
  exact if_pos hlarge

theorem whole_pack {s : Sign} {m : Nat} {e : Int} (hm : 0 < m) (h : m < 2 ^ 53)
    (hlow : 2 ^ 52 ≤ m) (he : 0 ≤ e) :
    Whole (UnpackedFloat.unpack binary64 (UnpackedFloat.pack binary64 (.finite s m e hm))) := by
  by_cases hover : 971 < e
  · rw [pack_overflow hm hover, unpack_pack (show Proper (.infinity s) from trivial)]
    trivial
  · have hproper : Proper (.finite s m e hm) := ⟨h, by omega, by omega, .inl hlow⟩
    rw [unpack_pack hproper]
    exact .inl he

/-- **A whole number is rounded to a whole number**, or out of the room of the format. -/
theorem whole_round {s : Sign} {m : Nat} {e : Int} (hm : 0 < m)
    (hfine : e ≤ m.log2 + 1 + e - 53) (hw : 0 ≤ e ∨ 2 ^ (-e).toNat ∣ m) :
    Whole (UnpackedFloat.unpack binary64 (UnpackedFloat.pack binary64
      (roundWithAccuracy binary64 s m e .exact))) := by
  have hne := Nat.pos_iff_ne_zero.1 hm
  obtain ⟨hlow, hhigh⟩ := (Nat.log2_eq_iff hne).1 (rfl : m.log2 = m.log2)
  generalize ht : (m.log2 : Int) + 1 + e - 53 = t at hfine
  obtain ⟨k, hk⟩ : ∃ k : Nat, e + k = t := ⟨(t - e).toNat, by omega⟩
  have hlog : m.log2 = 52 + k := by omega
  rw [hlog] at hlow hhigh
  by_cases hneg : t < 0
  · -- all digits of the number are kept
    have hdvd : 2 ^ (-e).toNat ∣ m := by
      rcases hw with hw | hw
      · omega
      · exact hw
    obtain ⟨n, hn⟩ := hdvd
    have hexp : (-e).toNat = (-t).toNat + k := by omega
    have hmantissa : m = n * 2 ^ (-t).toNat * 2 ^ k := by
      rw [hn, hexp, Nat.pow_add, Nat.mul_comm, Nat.mul_assoc]
    have hpos : 0 < n * 2 ^ (-t).toNat := by
      refine Nat.pos_of_ne_zero fun hzero => hne ?_
      rw [hmantissa, hzero, Nat.zero_mul]
    have hbelow : n * 2 ^ (-t).toNat < 2 ^ 53 := by
      have hexp : 52 + k + 1 = 53 + k := by omega
      rw [hmantissa, hexp, Nat.pow_add 2 53] at hhigh
      exact Nat.lt_of_mul_lt_mul_right hhigh
    have habove : 2 ^ 52 ≤ n * 2 ^ (-t).toNat := by
      rw [hmantissa, Nat.pow_add] at hlow
      exact Nat.le_of_mul_le_mul_right hlow (Nat.pow_pos (by decide))
    have hsmall : (-t).toNat ≤ 53 := by
      have hn : 0 < n := Nat.pos_of_ne_zero fun hzero => by simp [hzero] at hpos
      have hle : 2 ^ (-t).toNat ≤ n * 2 ^ (-t).toNat := Nat.le_mul_of_pos_left _ hn
      have hlt : 2 ^ (-t).toNat < 2 ^ 53 := Nat.lt_of_le_of_lt hle hbelow
      exact Nat.le_of_lt ((Nat.pow_lt_pow_iff_right (by decide)).1 hlt)
    have hproper : Proper (.finite s _ t hpos) := ⟨hbelow, by omega, by omega, .inl habove⟩
    rw [hmantissa, round_exact hpos hbelow (by omega) (.inl habove) hk, unpack_pack hproper]
    exact .inr (Nat.dvd_mul_left _ _)
  · -- the digits before the point are more than there is room for
    obtain ⟨r, m', e', hm', -, hround, hlow', hhigh', hexponent⟩ :=
      round_many_digits (e := e) s hlog (by omega)
    rw [hround]
    exact whole_pack hm' hhigh' hlow' (by omega)

end FieldQuery.Number
