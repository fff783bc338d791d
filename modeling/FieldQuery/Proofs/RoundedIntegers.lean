import FieldQuery.Proofs.NearestFloats

/-!
# Integers as floats

An integer of 64 bits becomes the float that is nearest to it.  Up to 53 digits that is the integer
itself, and beyond that several integers become the same float; but the order of integers is kept.

* `nearestEven_ofInt` — a whole number of 64 bits becomes the float that it is rounded to.
* `NearestEven.near` — the error is one part in `2 ^ 53` at most.
* `NearestEven.exact` — whole numbers of up to 53 digits are kept.
* `NearestEven.gap`, `NearestEven.eq_or_large` — whole numbers that are rounded to the same float.
* `nearestEven_floatOfInt`, `value_floatOfInt_le` — the integers of values.
-/

open Float.Model (UnpackedFloat)

namespace FieldQuery.Number

/-! ## Whole numbers -/

/-- **A small whole number is a float.** -/
theorem value_ofNat_small {n : Nat} (h : n < 2 ^ 53) : value (Float.ofNat n) = n := by
  have hunpacked := congrArg unpacked (ofNat_eq_mul h)
  rcases Nat.eq_zero_or_pos n with rfl | hpos
  · rw [unpacked_ofNat_zero] at hunpacked
    exact (value_of_zero hunpacked).trans Nat.cast_zero.symm
  · obtain ⟨k, hm, hnumber⟩ := unpacked_ofNat hpos h
    have hproper := proper_unpacked n.toUInt64.toFloat
    rw [hnumber] at hproper hunpacked
    have hproduct : UnpackedFloat.mul binary64 (.finite .positive (n * 2 ^ k) (-(k : Int)) hm)
        (.finite .positive (2 ^ 52) (-52) (by decide)) =
          .finite .positive (n * 2 ^ k) (-(k : Int)) hm :=
      round_exact hm hproper.1 hproper.2.1 hproper.2.2.2 (by omega)
    rw [hproduct, unpacked_ofModel_pack hproper] at hunpacked
    rw [value_of_finite hunpacked, factor_positive_mul, zpow_neg, zpow_natCast]
    push_cast
    field_simp

/-- So is the first power of two that has one digit more. -/
theorem value_ofNat_exact {n : Nat} (h : n ≤ 2 ^ 53) : value (Float.ofNat n) = n := by
  rcases h.eq_or_lt with rfl | hlt
  · have hpower : 2 ^ 53 = 2 ^ 52 * 2 ^ (1 : Int).toNat := by norm_num
    have hunpacked := unpacked_ofNat_large (m := 2 ^ 52) (e := 1) (by decide) (by decide)
      (by decide) (by decide) (by decide) hpower.le
    rw [hpower, value_of_finite hunpacked, factor_positive_mul]
    norm_num
  · exact value_ofNat_small hlt

/-- A larger one is rounded to a multiple of a power of two. -/
theorem value_ofNat_large {n : Nat} (hlarge : 2 ^ 53 ≤ n) (h : n < 2 ^ 64) :
    ∃ (u : ℚ) (r : Nat) (t : Int), -1074 ≤ t ∧ RoundsTo u r ∧ u * 2 ^ t = n ∧
      value (Float.ofNat n) = r * 2 ^ t := by
  have hne : n ≠ 0 := by omega
  obtain ⟨k, hk⟩ : ∃ k, n.log2 = 53 + k := by
    have := (Nat.le_log2 hne).2 hlarge
    exact ⟨n.log2 - 53, by omega⟩
  have hlog : (n * 2 ^ 53).log2 = 52 + (54 + k) := by
    rw [log2_mul_two_pow (Nat.pos_of_ne_zero hne)]
    omega
  have hroom := (Nat.log2_lt hne).2 h
  obtain ⟨r, m, e, hm, hrounds, hround, hproper, hvalue⟩ :=
    round_roundsTo .positive (e := -53) hlog (by omega) (by omega)
  have hunpacked := congrArg unpacked (ofNat_eq_round hlarge)
  rw [hround, unpacked_ofModel_pack hproper] at hunpacked
  refine ⟨_, r, _, ?_, hrounds, ?_,
    (value_of_finite hunpacked).trans ((factor_positive_mul _).trans hvalue)⟩
  · omega
  · rw [zpow_add₀ (by norm_num), zpow_natCast, zpow_neg]
    push_cast
    field_simp

theorem nearestEven_ofNat {n : Nat} (h : n < 2 ^ 64) : NearestEven (Float.ofNat n) n := by
  have hfinite := isFinite_ofNat h
  rcases Nat.lt_or_ge n (2 ^ 53) with hsmall | hlarge
  · exact nearestEven_of_exact hfinite (value_ofNat_exact hsmall.le)
  · obtain ⟨u, r, t, ht, hrounds, hnumber, hvalue⟩ := value_ofNat_large hlarge h
    rw [← hnumber]
    exact nearestEven_of_roundsTo hfinite ht hrounds hvalue

/-- The error is half of the last digit that there is room for. -/
theorem value_ofNat_near {n : Nat} (h : n < 2 ^ 64) :
    |value (Float.ofNat n) - n| ≤ n / 2 ^ 53 := by
  rcases Nat.lt_or_ge n (2 ^ 53) with hsmall | hlarge
  · rw [value_ofNat_exact hsmall.le, sub_self, abs_zero]
    positivity
  · obtain ⟨u, r, t, -, hrounds, hnumber, hvalue⟩ := value_ofNat_large hlarge h
    have hpos : (0 : ℚ) < 2 ^ t := by positivity
    have herror : |r - u| ≤ u / 2 ^ 53 := by
      have hlow := hrounds.low
      have hdistance := hrounds.distance_le
      linarith
    calc |value (Float.ofNat n) - n| = |(r - u) * 2 ^ t| := by rw [hvalue, ← hnumber, sub_mul]
      _ = |r - u| * 2 ^ t := by rw [abs_mul, abs_of_pos hpos]
      _ ≤ u / 2 ^ 53 * 2 ^ t := mul_le_mul_of_nonneg_right herror hpos.le
      _ = n / 2 ^ 53 := by rw [← hnumber, div_mul_eq_mul_div]

theorem value_ofInt_negSucc {n : Nat} (h : n + 1 < 2 ^ 64) :
    value (Float.ofInt (.negSucc n)) = -value (Float.ofNat (n + 1)) :=
  value_neg (isNaN_of_isFinite (isFinite_ofNat h))

section

variable {x : Float} {n : Int}

/-- **A whole number of 64 bits becomes the float that it is rounded to.** -/
theorem nearestEven_ofInt (h : n.natAbs < 2 ^ 64) : NearestEven (Float.ofInt n) n := by
  cases n with
  | ofNat n => exact nearestEven_ofNat h
  | negSucc n =>
    rw [Int.cast_negSucc]
    exact (nearestEven_ofNat h).neg

/-- What a whole number is rounded to is off by one part in `2 ^ 53` at most. -/
theorem NearestEven.near (hx : NearestEven x n) (h : n.natAbs < 2 ^ 64) :
    |value x - n| ≤ |(n : ℚ)| / 2 ^ 53 := by
  rw [hx.unique (nearestEven_ofInt h)]
  cases n with
  | ofNat n =>
    rw [Int.ofNat_eq_natCast, Int.cast_natCast, Nat.abs_cast]
    exact value_ofNat_near h
  | negSucc n =>
    rw [Int.cast_negSucc, value_ofInt_negSucc h, neg_sub_neg, abs_sub_comm, abs_neg, Nat.abs_cast]
    exact value_ofNat_near h

/-- **A whole number of up to 53 digits is kept.** -/
theorem NearestEven.exact (hx : NearestEven x n) (h : n.natAbs ≤ 2 ^ 53) : value x = n := by
  rw [hx.unique (nearestEven_ofInt (by omega))]
  cases n with
  | ofNat n => exact value_ofNat_exact h
  | negSucc n =>
    rw [value_ofInt_negSucc (Nat.lt_of_le_of_lt h (by decide)), Int.cast_negSucc]
    exact congrArg _ (value_ofNat_exact h)

/-- A number with fewer digits is rounded to nothing else. -/
theorem NearestEven.eq_of_small {m : Int} (hm : NearestEven x m) (hn : NearestEven x n)
    (hsmall : m.natAbs < 2 ^ 53) : m = n := by
  have hvalue := hm.exact hsmall.le
  have hroom : (2 ^ 53 : Int).natAbs ≤ 2 ^ 53 := le_refl _
  have hlarge := nearestEven_ofInt (n := 2 ^ 53) (by decide)
  rcases le_or_gt n.natAbs (2 ^ 53) with hn' | hn'
  · exact Int.cast_injective (hvalue.symm.trans (hn.exact hn'))
  · -- the order is kept, and the power of two between them is kept too
    exfalso
    rcases Int.le_total 0 n with hpos | hneg
    · have hle : (2 ^ 53 : Int) ≤ n := by omega
      have hmono := hlarge.mono hn (by exact_mod_cast hle)
      rw [hlarge.exact hroom, hvalue, Int.cast_le] at hmono
      omega
    · have hle : n ≤ -(2 ^ 53 : Int) := by omega
      have hmono := hn.mono hlarge.neg (by exact_mod_cast hle)
      rw [value_neg (isNaN_of_isFinite hlarge.finite), hlarge.exact hroom, hvalue, ← Int.cast_neg,
        Int.cast_le] at hmono
      omega

/-- Numbers that are rounded to the same differ by no more than the errors. -/
theorem NearestEven.gap {m : Int} (hm : NearestEven x m) (hn : NearestEven x n)
    (hm' : m.natAbs < 2 ^ 64) (hn' : n.natAbs < 2 ^ 64) :
    2 ^ 53 * (m - n).natAbs ≤ m.natAbs + n.natAbs := by
  have hdistance := (abs_sub_le (m : ℚ) (value x) n).trans
    (add_le_add ((abs_sub_comm _ _).trans_le (hm.near hm')) (hn.near hn'))
  rw [← add_div, le_div_iff₀ (by positivity), mul_comm] at hdistance
  have hcast : (2 : ℤ) ^ 53 * |m - n| ≤ |m| + |n| := by exact_mod_cast hdistance
  rw [Int.abs_eq_natAbs, Int.abs_eq_natAbs, Int.abs_eq_natAbs] at hcast
  exact_mod_cast hcast

/-- **Numbers that are rounded to the same** are the same, or have more than 53 digits. -/
theorem NearestEven.eq_or_large {m : Int} (hm : NearestEven x m) (hn : NearestEven x n) :
    m = n ∨ 2 ^ 53 ≤ m.natAbs ∧ 2 ^ 53 ≤ n.natAbs := by
  rcases Nat.lt_or_ge m.natAbs (2 ^ 53) with hm' | hm'
  · exact .inl (hm.eq_of_small hn hm')
  · rcases Nat.lt_or_ge n.natAbs (2 ^ 53) with hn' | hn'
    · exact .inl (hn.eq_of_small hm hn').symm
    · exact .inr ⟨hm', hn'⟩

end

/-! ## Integers -/

section

open Value (floatOfInt)

theorem natAbs_toInt_lt (n : Int64) : n.toInt.natAbs < 2 ^ 64 := by
  have hlow := n.le_toInt
  have hhigh := n.toInt_lt
  omega

/-- An integer becomes the float that it is rounded to. -/
theorem nearestEven_floatOfInt (n : Int64) : NearestEven (floatOfInt n) n.toInt :=
  nearestEven_ofInt (natAbs_toInt_lt n)

theorem isNaN_floatOfInt (n : Int64) : (floatOfInt n).isNaN = false :=
  isNaN_of_isFinite (nearestEven_floatOfInt n).finite

theorem value_floatOfInt_le {m n : Int64} (h : m.toInt ≤ n.toInt) :
    value (floatOfInt m) ≤ value (floatOfInt n) :=
  (nearestEven_floatOfInt m).mono (nearestEven_floatOfInt n) (by exact_mod_cast h)

/-- What is greater after rounding was greater before. -/
theorem lt_of_value_floatOfInt_lt {m n : Int64}
    (h : value (floatOfInt m) < value (floatOfInt n)) : m.toInt < n.toInt :=
  Int.not_le.1 fun hle => not_le.2 h (value_floatOfInt_le hle)

end

end FieldQuery.Number
