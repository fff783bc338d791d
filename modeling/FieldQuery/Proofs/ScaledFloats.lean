import FieldQuery.Number.Scaled
import FieldQuery.Proofs.Finite

/-!
# Scaled decimals near floats

A float becomes a scaled decimal with as many digits as there is room for and as the float can
vouch for.  A whole float is one exactly, unless it is too large, and then there is no decimal
near it.  In either case minus one times the decimal is the decimal with its sign changed.

* `Scaled.ofFloat?_eq_some` — the decimal near a float has its sign, and room for its digits.
* `Scaled.exists_ofFloat?` — which floats have a decimal near them.
* `Scaled.ofFloat?_whole` — a whole float with room for it is a decimal without places.
* `Scaled.double_ge`, `Scaled.ofFloat?_large` — a float that is too large is near no decimal.
* `Scaled.ofFloat?_whole_large` — a large whole float comes back from the decimal near it.
* `Scaled.mul?_minusOne`, `minusOne_mul` — minus one times a decimal and times a float.
-/

open Float.Model
open Float.Model.UnpackedFloat hiding unpack pack neg abs isNaN isInf isFinite ofScientific

namespace FieldQuery.Number

namespace Scaled

/-! ## Room for digits and places -/

/-- Has the decimal no more digits and places than there is room for? -/
def HasRoom (d : Scaled) : Prop :=
  d.coefficient < limit ∧ d.scale ≤ maxScale

/-- Halving keeps a coefficient that has room, and adds no more to the power than there are
steps. -/
theorem halve_lt (steps : Nat) {n : Nat} (power : Int) (h : n < limit) :
    (halve steps (n, power)).1 < limit ∧ (halve steps (n, power)).2 ≤ power + steps := by
  induction steps generalizing n power with
  | zero => exact ⟨h, Int.le_add_of_nonneg_right (Int.natCast_nonneg 0)⟩
  | succ steps ih =>
    have hhalf : n / 2 < limit := Nat.lt_of_le_of_lt (Nat.div_le_self n 2) h
    rw [halve]
    split
    · have ih := ih (power + 1) hhalf
      exact ⟨ih.1, by omega⟩
    · split
      · rename_i hroom
        have ih := ih power hroom
        exact ⟨ih.1, by omega⟩
      · have ih := ih (power + 1) hhalf
        exact ⟨ih.1, by omega⟩

theorem double_lt (steps : Nat) {n : Nat} (power : Int) (h : n < limit) :
    (double steps (n, power)).1 < limit := by
  induction steps generalizing n power with
  | zero => exact h
  | succ steps ih =>
    rw [double]
    split
    · rename_i hroom
      refine ih (power - 1) ?_
      have hlimit : limit / 2 * 2 = limit := rfl
      omega
    · exact ih power (Nat.lt_of_le_of_lt (Nat.div_le_self n 5) h)

theorem dropDigit_le (n : Nat) : dropDigit n ≤ n := by
  unfold dropDigit
  split <;> omega

theorem dropExcessPlaces_le (fuel : Nat) {n places : Nat} (h : places ≤ maxScale + fuel) :
    (dropExcessPlaces fuel (n, places)).1 ≤ n ∧
      (dropExcessPlaces fuel (n, places)).2 ≤ maxScale := by
  induction fuel generalizing n places with
  | zero => exact ⟨Nat.le_refl n, h⟩
  | succ fuel ih =>
    rw [dropExcessPlaces]
    split
    · rename_i hfew
      exact ⟨Nat.le_refl n, hfew⟩
    · split
      · exact ⟨Nat.zero_le n, Nat.zero_le _⟩
      · have ih := @ih (dropDigit n) (places - 1) (by omega)
        exact ⟨Nat.le_trans ih.1 (dropDigit_le n), ih.2⟩

theorem dropUncertainPlaces_le (n places : Nat) :
    (dropUncertainPlaces n places).1 ≤ n ∧ (dropUncertainPlaces n places).2 ≤ places := by
  induction places generalizing n with
  | zero => exact ⟨Nat.le_refl n, Nat.le_refl 0⟩
  | succ places ih =>
    rw [dropUncertainPlaces]
    split
    · exact ⟨Nat.le_refl n, Nat.le_refl _⟩
    · have ih := ih (dropDigit n)
      exact ⟨Nat.le_trans ih.1 (dropDigit_le n), Nat.le_succ_of_le ih.2⟩

theorem dropZeroPlaces_le (n places : Nat) :
    (dropZeroPlaces n places).1 ≤ n ∧ (dropZeroPlaces n places).2 ≤ places := by
  induction places generalizing n with
  | zero => exact ⟨Nat.le_refl n, Nat.le_refl 0⟩
  | succ places ih =>
    rw [dropZeroPlaces]
    split
    · have ih := ih (n / 10)
      exact ⟨Nat.le_trans ih.1 (Nat.div_le_self n 10), Nat.le_succ_of_le ih.2⟩
    · exact ⟨Nat.le_refl n, Nat.le_refl _⟩

theorem mantissa_lt_limit (x : Float) : (Binary.ofFloat x).mantissa < limit := by
  have hlimit : 2 ^ 53 < limit := by decide
  rw [Binary.ofFloat_eq]
  dsimp only
  split <;> omega

/-! ## The decimal near a float -/

/-- The size of a finite float as a coefficient and a power of ten, before any digits are
dropped. -/
def tenfold (x : Float) : Nat × Int :=
  double (Binary.ofFloat x).exponent.toNat
    (halve (-(Binary.ofFloat x).exponent).toNat
      ((Binary.ofFloat x).mantissa, (Binary.ofFloat x).exponent))

/-- A coefficient and places, without the places that there is no room for, those that the float
cannot vouch for and those that hold zeros. -/
def trimmed (negative : Bool) (n places : Nat) : Scaled :=
  let (n, places) := dropExcessPlaces places (n, places)
  let (n, places) := dropUncertainPlaces n places
  let (n, places) := dropZeroPlaces n places
  ⟨negative, n, places⟩

theorem ofFloat?_of_zero {x : Float} (hfinite : x.isFinite = true)
    (hx : (Binary.ofFloat x).mantissa = 0) : ofFloat? x = some ⟨isNegative x, 0, 0⟩ := by
  rw [ofFloat?, hfinite]
  dsimp only [Bool.not_true, Bool.false_eq_true, if_false]
  rw [if_pos hx]
  rfl

theorem ofFloat?_of_pos {x : Float} {n : Nat} {power : Int} (hfinite : x.isFinite = true)
    (hx : (Binary.ofFloat x).mantissa ≠ 0) (h : tenfold x = (n, power)) :
    ofFloat? x =
      if 0 ≤ power then
        if n * 10 ^ power.toNat < limit then some ⟨isNegative x, n * 10 ^ power.toNat, 0⟩ else none
      else some (trimmed (isNegative x) n (-power).toNat) := by
  rw [tenfold] at h
  rw [ofFloat?, hfinite]
  dsimp only [Bool.not_true, Bool.false_eq_true, if_false]
  rw [if_neg hx, h]
  rfl

theorem ofFloat?_of_not_finite {x : Float} (h : x.isFinite = false) : ofFloat? x = none := by
  rw [ofFloat?, h]
  rfl

theorem tenfold_lt (x : Float) : (tenfold x).1 < limit :=
  double_lt _ _ (halve_lt _ _ (mantissa_lt_limit x)).1

theorem hasRoom_trimmed {n : Nat} (negative : Bool) (places : Nat) (h : n < limit) :
    (trimmed negative n places).HasRoom := by
  have hexcess := @dropExcessPlaces_le places n places (Nat.le_add_left places maxScale)
  rcases h₁ : dropExcessPlaces places (n, places) with ⟨n₁, places₁⟩
  have huncertain := dropUncertainPlaces_le n₁ places₁
  rcases h₂ : dropUncertainPlaces n₁ places₁ with ⟨n₂, places₂⟩
  have hzeros := dropZeroPlaces_le n₂ places₂
  rcases h₃ : dropZeroPlaces n₂ places₂ with ⟨n₃, places₃⟩
  rw [h₁] at hexcess
  rw [h₂] at huncertain
  rw [h₃] at hzeros
  have htrimmed : trimmed negative n places = ⟨negative, n₃, places₃⟩ := by
    rw [trimmed, h₁]
    dsimp only
    rw [h₂]
    dsimp only
    rw [h₃]
  rw [htrimmed]
  constructor
  · exact Nat.lt_of_le_of_lt (hzeros.1.trans (huncertain.1.trans hexcess.1)) h
  · exact hzeros.2.trans (huncertain.2.trans hexcess.2)

theorem isFinite_of_ofFloat? {x : Float} {d : Scaled} (h : ofFloat? x = some d) :
    x.isFinite = true := by
  refine Bool.of_not_eq_false fun hinfinite => ?_
  rw [ofFloat?_of_not_finite hinfinite] at h
  cases h

/-- **The decimal near a float** has the sign of the float, and room for its digits. -/
theorem ofFloat?_eq_some {x : Float} {d : Scaled} (h : ofFloat? x = some d) :
    d.negative = isNegative x ∧ d.HasRoom := by
  have hfinite := isFinite_of_ofFloat? h
  by_cases hx : (Binary.ofFloat x).mantissa = 0
  · rw [ofFloat?_of_zero hfinite hx] at h
    cases h
    exact ⟨rfl, show 0 < limit by decide, Nat.zero_le _⟩
  · have hlt := tenfold_lt x
    rcases hten : tenfold x with ⟨n, power⟩
    rw [hten] at hlt
    rw [ofFloat?_of_pos hfinite hx hten] at h
    split at h
    · split at h
      · rename_i hroom
        cases h
        exact ⟨rfl, hroom, Nat.zero_le _⟩
      · cases h
    · cases h
      exact ⟨rfl, hasRoom_trimmed _ _ hlt⟩

/-- What is no multiple of a power of two is halved only. -/
theorem tenfold_of_neg {x : Float} (he : (Binary.ofFloat x).exponent < 0) :
    tenfold x = halve (-(Binary.ofFloat x).exponent).toNat
      ((Binary.ofFloat x).mantissa, (Binary.ofFloat x).exponent) := by
  rw [tenfold, Int.toNat_of_nonpos (Int.le_of_lt he)]
  rfl

/-- No power of ten is left in what is halved. -/
theorem tenfold_nonpos {x : Float} (he : (Binary.ofFloat x).exponent < 0) :
    (tenfold x).2 ≤ 0 := by
  have hhalved := (halve_lt (-(Binary.ofFloat x).exponent).toNat (Binary.ofFloat x).exponent
    (mantissa_lt_limit x)).2
  rw [tenfold_of_neg he]
  omega

/-- There is a decimal near a float that is no multiple of a power of two. -/
theorem exists_ofFloat? {x : Float} (hfinite : x.isFinite = true)
    (he : (Binary.ofFloat x).exponent < 0) : ∃ d, ofFloat? x = some d := by
  by_cases hx : (Binary.ofFloat x).mantissa = 0
  · exact ⟨_, ofFloat?_of_zero hfinite hx⟩
  · have hlt := tenfold_lt x
    have hnonpos := tenfold_nonpos he
    rcases hten : tenfold x with ⟨n, power⟩
    rw [hten] at hlt hnonpos
    rw [ofFloat?_of_pos hfinite hx hten]
    split
    · rename_i hnonneg
      obtain rfl : power = 0 := Int.le_antisymm hnonpos hnonneg
      rw [if_pos (by simpa using hlt)]
      exact ⟨_, rfl⟩
    · exact ⟨_, rfl⟩

/-! ## Whole floats -/

theorem halve_exact (steps m : Nat) (power : Int) :
    halve steps (m * 2 ^ steps, power) = (m, power + steps) := by
  induction steps generalizing power with
  | zero => simp [halve]
  | succ steps ih =>
    have heven : m * 2 ^ (steps + 1) = m * 2 ^ steps * 2 := by rw [Nat.pow_succ, Nat.mul_assoc]
    rw [halve, heven, if_pos (Nat.mul_mod_left _ 2), Nat.mul_div_cancel _ (by decide), ih]
    congr 1
    omega

theorem double_exact (steps n : Nat) (power : Int) (h : n * 2 ^ steps < limit) :
    double steps (n, power) = (n * 2 ^ steps, power - steps) := by
  induction steps generalizing n power with
  | zero => simp [double]
  | succ steps ih =>
    have hsplit : n * 2 ^ (steps + 1) = n * 2 * 2 ^ steps := by
      rw [Nat.pow_succ, Nat.mul_comm (2 ^ steps), Nat.mul_assoc]
    rw [hsplit] at h ⊢
    have hle : n * 2 ≤ n * 2 * 2 ^ steps := Nat.le_mul_of_pos_right _ (Nat.pow_pos (by decide))
    have hlimit : limit / 2 * 2 = limit := rfl
    rw [double, if_pos (by omega), ih _ _ h]
    congr 1
    omega

/-- **A whole float is a decimal without places**, if there is room for it. -/
theorem ofFloat?_whole {x : Float} {k : Nat} (hfinite : x.isFinite = true)
    (hk : (Binary.ofFloat x).mantissa * 2 ^ (Binary.ofFloat x).exponent.toNat =
      k * 2 ^ (-(Binary.ofFloat x).exponent).toNat) (hroom : k < limit) :
    ofFloat? x = some ⟨isNegative x, k, 0⟩ := by
  by_cases hx : (Binary.ofFloat x).mantissa = 0
  · rw [hx, Nat.zero_mul] at hk
    obtain rfl : k = 0 := by
      rcases Nat.mul_eq_zero.1 hk.symm with hk | hk
      · exact hk
      · exact absurd hk (Nat.pos_iff_ne_zero.1 (Nat.pow_pos (by decide)))
    exact ofFloat?_of_zero hfinite hx
  · have hten : tenfold x = (k, 0) := by
      rw [tenfold]
      rcases Int.le_total 0 (Binary.ofFloat x).exponent with he | he
      · have hneg : (-(Binary.ofFloat x).exponent).toNat = 0 := by omega
        rw [hneg, Nat.pow_zero, Nat.mul_one] at hk
        rw [hneg, halve, double_exact _ _ _ (hk ▸ hroom), hk, Int.toNat_of_nonneg he, Int.sub_self]
      · have hpos : (Binary.ofFloat x).exponent.toNat = 0 := by omega
        rw [hpos, Nat.pow_zero, Nat.mul_one] at hk
        rw [hpos, hk, halve_exact, double]
        congr 1
        omega
    rw [ofFloat?_of_pos hfinite hx hten]
    simp [hroom]

theorem mul_le_div_five_mul {n t : Nat} (h : 4 * (t + 1) ≤ n) : n * t ≤ n / 5 * 5 * (t + 1) := by
  have hfifths : n ≤ n / 5 * 5 + 4 := by omega
  have hmul : n * (t + 1) ≤ (n / 5 * 5 + 4) * (t + 1) := Nat.mul_le_mul_right _ hfifths
  rw [Nat.mul_succ, Nat.add_mul] at hmul
  omega

/-- Doubling loses next to nothing where a coefficient has no room and is divided by five
instead. -/
theorem double_ge (steps n q : Nat) : ∃ r : Nat, (double steps (n, (steps : Int) + q)).2 = r ∧
    n * 2 ^ steps * 10 ^ q * (2 ^ 93 - steps) ≤
      (double steps (n, (steps : Int) + q)).1 * 10 ^ r * 2 ^ 93 := by
  induction steps generalizing n q with
  | zero => exact ⟨q, by simp [double], by simp [double]⟩
  | succ steps ih =>
    rw [double]
    split
    · have hpower : ((steps + 1 : Nat) : Int) + q - 1 = steps + q := by omega
      obtain ⟨r, hr, hge⟩ := ih (n * 2) q
      refine ⟨r, by rw [hpower, hr], ?_⟩
      rw [hpower]
      calc n * 2 ^ (steps + 1) * 10 ^ q * (2 ^ 93 - (steps + 1))
          = n * 2 * 2 ^ steps * 10 ^ q * (2 ^ 93 - (steps + 1)) := by ring
        _ ≤ n * 2 * 2 ^ steps * 10 ^ q * (2 ^ 93 - steps) := Nat.mul_le_mul_left _ (by omega)
        _ ≤ _ := hge
    · rename_i hfull
      have hpower : ((steps + 1 : Nat) : Int) + q = steps + (q + 1 : Nat) := by omega
      obtain ⟨r, hr, hge⟩ := ih (n / 5) (q + 1)
      refine ⟨r, by rw [hpower, hr], ?_⟩
      rw [hpower]
      -- what is lost is less than five parts of a coefficient that is almost the limit
      have hloss : n * (2 ^ 93 - (steps + 1)) ≤ n / 5 * 5 * (2 ^ 93 - steps) := by
        have hlimit : limit / 2 = 4 * 2 ^ 93 := rfl
        rcases Nat.lt_or_ge steps (2 ^ 93) with hfew | hmany
        · obtain ⟨t, ht⟩ : ∃ t, 2 ^ 93 - steps = t + 1 := ⟨2 ^ 93 - (steps + 1), by omega⟩
          have ht' : 2 ^ 93 - (steps + 1) = t := by omega
          rw [ht, ht']
          exact mul_le_div_five_mul (by omega)
        · have hzero : 2 ^ 93 - (steps + 1) = 0 := by omega
          rw [hzero, Nat.mul_zero]
          exact Nat.zero_le _
      calc n * 2 ^ (steps + 1) * 10 ^ q * (2 ^ 93 - (steps + 1))
          = n * (2 ^ 93 - (steps + 1)) * (2 ^ (steps + 1) * 10 ^ q) := by ring
        _ ≤ n / 5 * 5 * (2 ^ 93 - steps) * (2 ^ (steps + 1) * 10 ^ q) :=
          Nat.mul_le_mul_right _ hloss
        _ = n / 5 * 2 ^ steps * 10 ^ (q + 1) * (2 ^ 93 - steps) := by ring
        _ ≤ _ := hge

/-- The next float above the first number that there is no room for. -/
theorem next_above_limit {m k : Nat} (hm : m < 2 ^ 53) (h : limit < m * 2 ^ k) :
    (2 ^ 52 + 1) * 2 ^ 44 ≤ m * 2 ^ k := by
  have hlimit : limit = 2 ^ 52 * 2 ^ 44 := rfl
  have hk : 44 ≤ k := by
    refine Nat.le_of_not_lt fun hlt => ?_
    have hle : m * 2 ^ k ≤ 2 ^ 53 * 2 ^ 43 :=
      Nat.mul_le_mul (Nat.le_of_lt hm) (Nat.pow_le_pow_right (by decide) (by omega))
    omega
  obtain ⟨j, rfl⟩ := Nat.exists_eq_add_of_le' hk
  rw [Nat.pow_add, ← Nat.mul_assoc] at h ⊢
  rw [hlimit] at h
  exact Nat.mul_le_mul_right _ (Nat.lt_of_mul_lt_mul_right h)

/-- **There is no decimal near a float that is too large.** -/
theorem ofFloat?_large {x : Float} {s : Sign} {m : Nat} {e : Int} {hm : 0 < m}
    (hx : unpacked x = .finite s m e hm) (he : 0 ≤ e) (hlarge : limit < m * 2 ^ e.toNat) :
    ofFloat? x = none := by
  obtain ⟨hmantissa, hexponent⟩ := ofFloat_of_finite hx
  obtain ⟨hlt, -, he', -⟩ : Proper (.finite s m e hm) := hx ▸ proper_unpacked x
  have hfinite : x.isFinite = true := by
    rw [isFinite_eq, hx]
    rfl
  have hten : tenfold x = double e.toNat (m, (e.toNat : Int) + (0 : Nat)) := by
    have hneg : (-e).toNat = 0 := by omega
    have hpos : (e.toNat : Int) + (0 : Nat) = e := by omega
    rw [tenfold, hmantissa, hexponent, hneg, hpos]
    rfl
  obtain ⟨r, hr, hge⟩ := double_ge e.toNat m 0
  rw [← hten] at hr hge
  rcases hpower : tenfold x with ⟨n, power⟩
  rw [hpower] at hr hge
  obtain rfl : power = r := hr
  have hbig : limit ≤ n * 10 ^ r := by
    have hleast := next_above_limit hlt hlarge
    have hkept : 2 ^ 93 - 971 ≤ 2 ^ 93 - e.toNat := by omega
    rw [Nat.pow_zero, Nat.mul_one] at hge
    have hvalue : (2 ^ 52 + 1) * 2 ^ 44 * (2 ^ 93 - 971) ≤ n * 10 ^ r * 2 ^ 93 :=
      (Nat.mul_le_mul hleast hkept).trans hge
    have hlimit : limit = 2 ^ 96 := rfl
    omega
  have hmantissa' : (Binary.ofFloat x).mantissa ≠ 0 := by
    rw [hmantissa]
    exact Nat.pos_iff_ne_zero.1 hm
  rw [ofFloat?_of_pos hfinite hmantissa' hpower, if_pos (Int.natCast_nonneg r), Int.toNat_natCast,
    if_neg (Nat.not_lt.2 hbig)]

end Scaled

/-! ## Whole numbers as floats -/

/-- **A large whole number that the format has room for is a float.** -/
theorem unpacked_ofNat_large {m : Nat} {e : Int} (hm : 0 < m) (h : m < 2 ^ 53) (he : 0 ≤ e)
    (he' : e ≤ 971) (hform : 2 ^ 52 ≤ m) (hlarge : 2 ^ 53 ≤ m * 2 ^ e.toNat) :
    unpacked (Float.ofNat (m * 2 ^ e.toNat)) = .finite .positive m e hm := by
  have hproper : Proper (.finite .positive m e hm) := ⟨h, by omega, he', .inl hform⟩
  have hround : roundWithAccuracy binary64 .positive (m * 2 ^ (e.toNat + 53)) (-53) .exact =
      .finite .positive m e hm :=
    round_exact hm h (by omega) (.inl hform) (by omega)
  rw [ofNat_eq_round hlarge, Nat.mul_assoc, ← Nat.pow_add, hround, unpacked_ofModel_pack hproper]

namespace Scaled

theorem eq_of_mul_eq_limit {m : Nat} {e : Int} (hm : m < 2 ^ 53) (hm' : 2 ^ 52 ≤ m) (he : 0 ≤ e)
    (h : m * 2 ^ e.toNat = limit) : m = 2 ^ 52 ∧ e = 44 := by
  have hlimit : limit = 2 ^ 96 := rfl
  rw [hlimit] at h
  have hpower : e.toNat = 44 := by
    rcases Nat.lt_trichotomy e.toNat 44 with hlow | heq | hhigh
    · have hle : m * 2 ^ e.toNat ≤ (2 ^ 53 - 1) * 2 ^ 43 :=
        Nat.mul_le_mul (by omega) (Nat.pow_le_pow_right (by decide) (by omega))
      omega
    · exact heq
    · have hle : 2 ^ 52 * 2 ^ 45 ≤ m * 2 ^ e.toNat :=
        Nat.mul_le_mul hm' (Nat.pow_le_pow_right (by decide) hhigh)
      omega
  rw [hpower] at h
  exact ⟨by omega, by omega⟩

/-- The float for which there is no room any more is next to a decimal that is read as it. -/
theorem ofFloat?_limit {x : Float} {hm : 0 < 2 ^ 52}
    (hx : unpacked x = .finite .positive (2 ^ 52) 44 hm) :
    ofFloat? x = some ⟨isNegative x, limit / 10 * 10, 0⟩ ∧
      Float.ofNat (limit / 10 * 10) = x := by
  obtain ⟨hmantissa, hexponent⟩ := ofFloat_of_finite hx
  have hfinite : x.isFinite = true := by
    rw [isFinite_eq, hx]
    rfl
  have hten : tenfold x = (limit / 10, 1) := by
    rw [tenfold, hmantissa, hexponent]
    decide
  constructor
  · rw [ofFloat?_of_pos hfinite (by rw [hmantissa]; decide) hten]
    rfl
  · have hlimit : Float.ofNat (limit / 10 * 10) = Float.ofNat (2 ^ 52 * 2 ^ (44 : Int).toNat) :=
      Float.toBits_inj.1 (by decide +kernel)
    apply eq_of_unpacked_eq
    rw [hlimit, unpacked_ofNat_large (by decide) (by decide) (by decide) (by decide) (by decide)
      (by decide), hx]

/-- **A large whole float comes back from the decimal near it**, if there is one. -/
theorem ofFloat?_whole_large {x : Float} {m k : Nat} {e : Int} {hm : 0 < m}
    (hx : unpacked x = .finite .positive m e hm)
    (hk : m * 2 ^ e.toNat = k * 2 ^ (-e).toNat) (hlarge : 2 ^ 63 < k) :
    ofFloat? x = none ∨
      ∃ c, ofFloat? x = some ⟨isNegative x, c, 0⟩ ∧ 2 ^ 63 < c ∧ Float.ofNat c = x := by
  obtain ⟨hmantissa, hexponent⟩ := ofFloat_of_finite hx
  obtain ⟨hlt, -, he', hform⟩ : Proper (.finite .positive m e hm) := hx ▸ proper_unpacked x
  have hfinite : x.isFinite = true := by
    rw [isFinite_eq, hx]
    rfl
  have he : 0 ≤ e := by
    refine Int.not_lt.1 fun hlow => ?_
    have hpos : e.toNat = 0 := by omega
    rw [hpos, Nat.pow_zero, Nat.mul_one] at hk
    have hle : k ≤ m := hk ▸ Nat.le_mul_of_pos_right k (Nat.pow_pos (by decide))
    omega
  have hneg : (-e).toNat = 0 := by omega
  have hvalue : m * 2 ^ e.toNat = k := by simpa [hneg] using hk
  have hnormal : 2 ^ 52 ≤ m := by omega
  rcases Nat.lt_trichotomy k limit with hroom | hlimit | hover
  · right
    refine ⟨k, ofFloat?_whole hfinite ?_ hroom, hlarge, ?_⟩
    · rw [hmantissa, hexponent, hk]
    · apply eq_of_unpacked_eq
      rw [← hvalue, unpacked_ofNat_large hm hlt he he' hnormal (by omega), hx]
  · right
    obtain ⟨rfl, rfl⟩ := eq_of_mul_eq_limit hlt hnormal he (hvalue.trans hlimit)
    obtain ⟨hnear, hread⟩ := ofFloat?_limit hx
    exact ⟨_, hnear, by decide, hread⟩
  · left
    exact ofFloat?_large hx he (hvalue ▸ hover)

/-! ## Minus one times a number -/

theorem digitsToDrop_of_lt {n : Nat} (fuel : Nat) (h : n < limit) : digitsToDrop n fuel 0 = 0 := by
  cases fuel with
  | zero => rfl
  | succ fuel =>
    have hkept : n / Nat.pow 10 0 < limit := by
      show n / 1 < limit
      rwa [Nat.div_one]
    rw [digitsToDrop, if_pos hkept]

theorem roundDiv_one (n : Nat) : roundDiv n 1 = n := by
  rw [roundDiv, Nat.mod_one, Nat.div_one]
  rfl

/-- What there is room for is not rounded. -/
theorem fit_of_room {n scale : Nat} (negative : Bool) (hn : n < limit) (hscale : scale ≤ maxScale) :
    fit negative n scale = some ⟨negative, n, scale⟩ := by
  have hdrop : digitsToDrop n (scale + 1) (scale - maxScale) = 0 := by
    rw [Nat.sub_eq_zero_of_le hscale, digitsToDrop_of_lt _ hn]
  have hrounded : roundDiv n (Nat.pow 10 0) = n := roundDiv_one n
  rw [fit]
  dsimp only
  rw [hdrop, hrounded, if_neg (Nat.not_lt_zero scale), if_pos hn, Nat.sub_zero]

/-- **Minus one times a decimal** is the decimal with its sign changed. -/
theorem mul?_minusOne {d : Scaled} (h : d.HasRoom) : (ofInt (-1)).mul? d = some d.neg := by
  have hone : ofInt (-1) = ⟨true, 1, 0⟩ := rfl
  rw [hone, mul?, Nat.one_mul, Nat.zero_add, fit_of_room _ h.1 h.2, neg, Bool.true_bne]

/-- A decimal without places is whole. -/
theorem isWhole_ofNat (n : Nat) : (⟨false, n, 0⟩ : Scaled).isWhole = true :=
  decide_eq_true (Nat.mod_one n)

theorem isWhole_neg (d : Scaled) : d.neg.isWhole = d.isWhole :=
  rfl

theorem toInt_neg {d : Scaled} (h : d.negative = false) : d.neg.toInt = -d.toInt := by
  simp [toInt, neg, h]

theorem toFloat_neg {d : Scaled} (h : d.negative = false) : d.neg.toFloat = -d.toFloat := by
  simp [toFloat, neg, h]

end Scaled

/-! ## Minus one times a float -/

theorem unpacked_minusOne : unpacked (Float.ofInt (-1)) =
    .finite .negative (2 ^ 52) (-52) (by decide) := by
  rfl

theorem negative_mul (s : Sign) : Sign.negative * s = -s := by
  cases s <;> rfl

/-- **Minus one times a float** is the float with its sign changed. -/
theorem minusOne_mul (x : Float) : Float.ofInt (-1) * x = -x := by
  have hproper := proper_unpacked x
  have hmul : UnpackedFloat.mul binary64 (unpacked (Float.ofInt (-1))) (unpacked x) =
      (unpacked x).neg := by
    rw [unpacked_minusOne]
    cases hx : unpacked x with
    | finite s m e hm =>
      rw [hx] at hproper
      obtain ⟨hlt, he, -, hform⟩ := hproper
      have hround := round_exact (s := -s) (k := 52) (t := -52 + e) hm hlt he hform (by omega)
      rw [UnpackedFloat.mul, Nat.mul_comm, negative_mul, hround]
      rfl
    | zero s => exact congrArg UnpackedFloat.zero (negative_mul s)
    | infinity s => exact congrArg UnpackedFloat.infinity (negative_mul s)
    | notANumber => rfl
  have hneg : Proper (unpacked x).neg := by
    cases hx : unpacked x with
    | finite s m e hm =>
      rw [hx] at hproper
      exact hproper
    | _ => trivial
  apply eq_of_unpacked_eq
  show unpacked (.ofModel (.pack (UnpackedFloat.mul binary64 (unpacked (Float.ofInt (-1)))
    (unpacked x)))) = _
  rw [hmul, unpacked_ofModel_pack hneg, unpacked_neg]

end FieldQuery.Number
