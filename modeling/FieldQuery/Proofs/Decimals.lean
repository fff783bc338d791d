import FieldQuery.Proofs.Rounding

/-!
# Decimals as floats

A decimal is read as the float that is nearest to it.  All that matters here of that is what
becomes of decimals that are floats, and of whole numbers.

* `ofScientific_exact` — a decimal that the format has room for is read as what it is.
* `ofScientific_whole` — a whole number is read as a whole number.
* `sign?_ofScientific` — no decimal is read as a negative number or as NaN.
-/

open Float.Model
open Float.Model.UnpackedFloat hiding unpack pack neg abs isNaN isInf isFinite ofScientific

namespace FieldQuery.Number

/-! ## Powers of ten and small numbers -/

/-- Is it a power of ten in the form of the format? -/
def isPowerOfTen (k : Nat) : UnpackedFloat → Bool
  | .finite .positive m e _ =>
    decide (m * 2 ^ e.toNat = 10 ^ k * 2 ^ (-e).toNat) && decide (2 ^ 52 ≤ m)
  | _ => false

/-- The first powers of ten are floats. -/
theorem isPowerOfTen_table : ∀ k : Fin Float.exactlyRepresentablePowersOfTen.size,
    isPowerOfTen k (unpacked Float.exactlyRepresentablePowersOfTen[k]) = true := by
  decide

theorem unpacked_powerOfTen {k : Nat} (hk : k < Float.exactlyRepresentablePowersOfTen.size) :
    ∃ m e hm, unpacked Float.exactlyRepresentablePowersOfTen[k] = .finite .positive m e hm ∧
      m * 2 ^ e.toNat = 10 ^ k * 2 ^ (-e).toNat ∧ 2 ^ 52 ≤ m := by
  have h := isPowerOfTen_table ⟨k, hk⟩
  unfold isPowerOfTen at h
  split at h
  · rename_i m e hm heq
    simp only [Bool.and_eq_true, decide_eq_true_eq] at h
    exact ⟨m, e, hm, heq, h⟩
  · cases h

theorem unpacked_ofNat_zero : unpacked (Nat.toUInt64 0).toFloat = .zero .positive := by
  rfl

/-- A small number is a float. -/
theorem unpacked_ofNat {n : Nat} (hn : 0 < n) (h : n < 2 ^ 53) :
    ∃ (k : Nat) (hm : 0 < n * 2 ^ k), unpacked n.toUInt64.toFloat =
      .finite .positive (n * 2 ^ k) (-(k : Int)) hm := by
  have hne := Nat.pos_iff_ne_zero.1 hn
  have hlog : n.log2 ≤ 52 := by
    have := (Nat.log2_lt hne).2 h
    omega
  obtain ⟨k, hk⟩ : ∃ k, n.log2 + k = 52 := ⟨52 - n.log2, by omega⟩
  have hpos : 0 < n * 2 ^ k := Nat.mul_pos hn (Nat.pow_pos (by decide))
  obtain ⟨hlow, hhigh⟩ := (Nat.log2_eq_iff hne).1 (rfl : n.log2 = n.log2)
  have habove : 2 ^ 52 ≤ n * 2 ^ k := by
    rw [← hk, Nat.pow_add]
    exact Nat.mul_le_mul_right _ hlow
  have hbelow : n * 2 ^ k < 2 ^ 53 := by
    have hexp : 53 = n.log2 + 1 + k := by omega
    rw [hexp, Nat.pow_add]
    exact Nat.mul_lt_mul_of_pos_right hhigh (Nat.pow_pos (by decide))
  refine ⟨k, hpos, ?_⟩
  have hvalue : n.toUInt64.toNat = n := by
    rw [Nat.toUInt64_eq, UInt64.toNat_ofNat_of_lt' (Nat.lt_trans h (by decide))]
  have hround : UnpackedFloat.round binary64 .positive n 0 =
      .finite .positive (n * 2 ^ k) (-(k : Int)) hpos := by
    have htarget : binary64.targetExponent (totalExponent n 0) = -(k : Int) := by
      rw [target_eq]
      omega
    have hshift : ((0 : Int) - -(k : Int)).toNat = k := by omega
    rw [UnpackedFloat.round, htarget, decreaseExponent]
    simp only [hshift, Nat.shiftLeft_eq]
    have hexact : roundWithAccuracy binary64 .positive (n * 2 ^ k * 2 ^ 0) (-(k : Int)) .exact =
        .finite .positive (n * 2 ^ k) (-(k : Int)) hpos :=
      round_exact hpos hbelow (by omega) (.inl habove) (Int.add_zero _)
    rw [Nat.pow_zero, Nat.mul_one] at hexact
    rw [Int.zero_sub]
    exact hexact
  have hunpacked : UnpackedFloat.ofUInt64 binary64 n.toUInt64 =
      .finite .positive (n * 2 ^ k) (-(k : Int)) hpos := by
    rw [UnpackedFloat.ofUInt64, UnpackedFloat.ofNat, UnpackedFloat.ofInt, hvalue,
      UnpackedFloat.normalize]
    have hcompare : compare (n : Int) 0 = .gt := by
      rw [Int.compare_eq_gt]
      omega
    rw [hcompare]
    exact hround
  have hproper : Proper (.finite .positive (n * 2 ^ k) (-(k : Int)) hpos) :=
    ⟨hbelow, by omega, by omega, .inl habove⟩
  show unpacked (.ofModel (.pack (UnpackedFloat.ofUInt64 binary64 n.toUInt64))) = _
  rw [hunpacked, unpacked_ofModel_pack hproper]

/-! ## Decimals that are floats -/

/-- **A decimal that the format has room for is read as what it is.** -/
theorem ofScientific_exact {n k m : Nat} {e : Int} (hk : 0 < k) (hm : 0 < m) (h : m < 2 ^ 53)
    (he : -1074 ≤ e) (he' : e ≤ 971) (hform : 2 ^ 52 ≤ m ∨ e = -1074)
    (hn : n * 2 ^ (-e).toNat = m * 2 ^ e.toNat * 10 ^ k) :
    unpacked (Float.ofScientific n true k) = .finite .positive m e hm := by
  have hproper : Proper (.finite .positive m e hm) := ⟨h, he, he', hform⟩
  have hpos : 0 < n := by
    refine Nat.pos_of_ne_zero fun hzero => ?_
    rw [hzero, Nat.zero_mul] at hn
    have : 0 < m * 2 ^ e.toNat * 10 ^ k :=
      Nat.mul_pos (Nat.mul_pos hm (Nat.pow_pos (by decide))) (Nat.pow_pos (by decide))
    omega
  rw [Float.ofScientific]
  split
  · rename_i hfast
    have hlt : k < Float.exactlyRepresentablePowersOfTen.size := Nat.lt_succ_of_le hfast.2
    obtain ⟨p, q, hp, hpower, hten, _⟩ := unpacked_powerOfTen hlt
    obtain ⟨j, hj, hnumber⟩ := unpacked_ofNat hpos hfast.1
    -- both operands of the division are exact
    have hquotient : n * 2 ^ j * 2 ^ ((-e).toNat + (-q).toNat) =
        m * p * 2 ^ (e.toNat + q.toNat + j) := by
      calc n * 2 ^ j * 2 ^ ((-e).toNat + (-q).toNat)
          = n * 2 ^ (-e).toNat * 2 ^ (-q).toNat * 2 ^ j := by
            rw [Nat.pow_add, ← Nat.mul_assoc, Nat.mul_right_comm n, Nat.mul_right_comm]
        _ = m * 2 ^ e.toNat * (10 ^ k * 2 ^ (-q).toNat) * 2 ^ j := by
            rw [hn, Nat.mul_assoc (m * 2 ^ e.toNat)]
        _ = m * 2 ^ e.toNat * (p * 2 ^ q.toNat) * 2 ^ j := by rw [hten]
        _ = m * p * 2 ^ (e.toNat + q.toNat + j) := by
            rw [Nat.pow_add, Nat.pow_add, Nat.mul_mul_mul_comm, Nat.mul_assoc (m * p)]
    have hexponent : (((-e).toNat + (-q).toNat : Nat) : Int) - (e.toNat + q.toNat + j : Nat) =
        -(j : Int) - q - e := by omega
    have hdiv : UnpackedFloat.div binary64 (.finite .positive (n * 2 ^ j) (-(j : Int)) hj)
        (.finite .positive p q hp) = .finite .positive m e hm :=
      div_exact hm h he hform hexponent hquotient
    rw [if_pos rfl]
    show unpacked (.ofModel (.pack (UnpackedFloat.div binary64 (unpacked n.toUInt64.toFloat)
      (unpacked Float.exactlyRepresentablePowersOfTen[k])))) = _
    rw [hnumber, hpower, hdiv]
    exact unpacked_ofModel_pack hproper
  · have hexp : (if true = true then Int.negOfNat k else Int.ofNat k) = -(k : Int) := by
      rw [if_pos rfl, Int.negOfNat_eq]
      rfl
    -- the decimal is not so small that it would not be looked at
    have hsmall : (k : Int) ≤ 2 ^ 11 + n.log2 := by
      have hlow : 2 ^ k ≤ n * 2 ^ (-e).toNat := by
        calc 2 ^ k ≤ 10 ^ k := Nat.pow_le_pow_left (by decide) k
          _ ≤ m * 2 ^ e.toNat * 10 ^ k :=
            Nat.le_mul_of_pos_left _ (Nat.mul_pos hm (Nat.pow_pos (by decide)))
          _ = n * 2 ^ (-e).toNat := hn.symm
      have hlog : k ≤ (n * 2 ^ (-e).toNat).log2 :=
        (Nat.le_log2 (Nat.pos_iff_ne_zero.1 (Nat.mul_pos hpos (Nat.pow_pos (by decide))))).2 hlow
      rw [log2_mul_two_pow hpos] at hlog
      omega
    have hexponent : ((-e).toNat : Int) - e.toNat = 0 - 0 - e := by omega
    have hdiv : UnpackedFloat.div binary64 (.finite .positive n 0 hpos)
        (.finite .positive (10 ^ k) 0 (Nat.pow_pos (by decide))) = .finite .positive m e hm :=
      div_exact hm h he hform hexponent (by rw [hn, Nat.mul_right_comm])
    have hvalue : UnpackedFloat.ofScientific binary64 n (-(k : Int)) = .finite .positive m e hm := by
      have hten : (- -(k : Int)).toNat = k := by omega
      rw [UnpackedFloat.ofScientific, dif_neg (Nat.pos_iff_ne_zero.1 hpos),
        if_neg (show ¬ -(k : Int) > 2 ^ 11 by omega),
        if_neg (show ¬ -(k : Int) < -((2 ^ 11 : Int) + n.log2) by omega),
        if_neg (by omega)]
      simp only [hten]
      exact hdiv
    dsimp only
    rw [hexp]
    show unpacked (.ofModel (.pack (UnpackedFloat.ofScientific binary64 n (-(k : Int))))) = _
    rw [hvalue]
    exact unpacked_ofModel_pack hproper

/-! ## Whole numbers and signs -/

theorem sign?_round (s : Sign) (m : Nat) (e : Int) (accuracy : Accuracy) :
    sign? (roundWithAccuracy binary64 s m e accuracy) = some s := by
  unfold roundWithAccuracy
  dsimp only
  split <;> rfl

/-- Bits whose exponent is not the last one are a finite number with their sign. -/
theorem unpack_packComponents (s : Sign) {p : BitVec 11} {f : BitVec 52} (hp : p.toNat ≠ 2047) :
    sign? (UnpackedFloat.unpack binary64 (packComponents binary64 s p f)) = some s ∧
      (UnpackedFloat.unpack binary64 (packComponents binary64 s p f)).isFinite = true := by
  have hn := toNat_packComponents s p f
  rw [toNat_toBitVec] at hn
  have hsign : signOf (packComponents binary64 s p f).toNat = s := by
    rw [hn]
    exact signOf_signBit p.isLt f.isLt
  have hb : signBit s ≤ 1 := by cases s <;> decide
  have hplt := p.isLt
  have hflt := f.isLt
  rw [unpack_eq, if_neg (by omega)]
  split
  · split <;> exact ⟨congrArg some hsign, rfl⟩
  · exact ⟨congrArg some hsign, rfl⟩

/-- A sign is kept by packing. -/
theorem sign?_unpack_pack (u : UnpackedFloat) :
    sign? (UnpackedFloat.unpack binary64 (UnpackedFloat.pack binary64 u)) = sign? u := by
  cases u with
  | finite s m e hm =>
    unfold UnpackedFloat.pack
    dsimp only
    split
    · cases s <;> rfl
    · rename_i hlt
      split
      · refine (unpack_packComponents s ?_).1
        rw [BitVec.toNat_ofNat]
        have hlt : _ + 1 < 2 ^ 11 := Nat.not_le.1 hlt
        show _ % 2 ^ 11 ≠ _
        omega
      · exact (unpack_packComponents s (by decide)).1
  | infinity s => cases s <;> rfl
  | zero s => cases s <;> rfl
  | notANumber => rfl

theorem sign?_unpacked_ofModel_pack (u : UnpackedFloat) :
    sign? (unpacked (.ofModel (.pack u))) = sign? u :=
  sign?_unpack_pack u

theorem sign?_modelOfScientific (n : Nat) (e : Int) :
    sign? (UnpackedFloat.ofScientific binary64 n e) = some .positive := by
  unfold UnpackedFloat.ofScientific
  split
  · rfl
  · split
    · rfl
    · split
      · rfl
      · split <;> exact sign?_round _ _ _ _

/-- **No decimal is read as a negative number or as NaN.** -/
theorem sign?_ofScientific (n : Nat) (negative : Bool) (k : Nat) :
    sign? (unpacked (Float.ofScientific n negative k)) = some .positive := by
  rw [Float.ofScientific]
  split
  · rename_i hfast
    have hlt : k < Float.exactlyRepresentablePowersOfTen.size := Nat.lt_succ_of_le hfast.2
    obtain ⟨p, q, hp, hpower, _⟩ := unpacked_powerOfTen hlt
    have hnumber : unpacked n.toUInt64.toFloat = .zero .positive ∨
        ∃ m e hm, unpacked n.toUInt64.toFloat = .finite .positive m e hm := by
      rcases Nat.eq_zero_or_pos n with rfl | hpos
      · exact .inl unpacked_ofNat_zero
      · obtain ⟨j, hj, hnumber⟩ := unpacked_ofNat hpos hfast.1
        exact .inr ⟨_, _, hj, hnumber⟩
    cases negative with
    | true =>
      show sign? (unpacked (.ofModel (.pack (UnpackedFloat.div binary64
        (unpacked n.toUInt64.toFloat)
        (unpacked Float.exactlyRepresentablePowersOfTen[k]))))) = _
      rw [sign?_unpacked_ofModel_pack, hpower]
      rcases hnumber with hnumber | ⟨m, e, hm, hnumber⟩
      · rw [hnumber]
        rfl
      · rw [hnumber]
        exact sign?_round _ _ _ _
    | false =>
      show sign? (unpacked (.ofModel (.pack (UnpackedFloat.mul binary64
        (unpacked n.toUInt64.toFloat)
        (unpacked Float.exactlyRepresentablePowersOfTen[k]))))) = _
      rw [sign?_unpacked_ofModel_pack, hpower]
      rcases hnumber with hnumber | ⟨m, e, hm, hnumber⟩
      · rw [hnumber]
        rfl
      · rw [hnumber]
        exact sign?_round _ _ _ _
  · show sign? (unpacked (.ofModel (.pack (UnpackedFloat.ofScientific binary64 n _)))) = _
    rw [sign?_unpacked_ofModel_pack]
    exact sign?_modelOfScientific n _

/-- **A whole number is read as a whole number**, or is too large to be read. -/
theorem whole_ofScientific (n k : Nat) : Whole (unpacked (Float.ofScientific n false k)) := by
  rw [Float.ofScientific]
  split
  · rename_i hfast
    have hlt : k < Float.exactlyRepresentablePowersOfTen.size := Nat.lt_succ_of_le hfast.2
    obtain ⟨p, q, hp, hpower, hten, hlarge⟩ := unpacked_powerOfTen hlt
    show Whole (unpacked (.ofModel (.pack (UnpackedFloat.mul binary64
      (unpacked n.toUInt64.toFloat)
      (unpacked Float.exactlyRepresentablePowersOfTen[k])))))
    rw [hpower]
    rcases Nat.eq_zero_or_pos n with rfl | hpos
    · have hproper : Proper (.zero .positive) := trivial
      rw [unpacked_ofNat_zero]
      show Whole (unpacked (.ofModel (.pack (.zero .positive))))
      rw [unpacked_ofModel_pack hproper]
      trivial
    · obtain ⟨j, hj, hnumber⟩ := unpacked_ofNat hpos hfast.1
      rw [hnumber]
      have hproduct : 0 < n * 2 ^ j * p := Nat.mul_pos hj hp
      have hlog : 52 ≤ (n * 2 ^ j * p).log2 :=
        (Nat.le_log2 (Nat.pos_iff_ne_zero.1 hproduct)).2
          (Nat.le_trans hlarge (Nat.le_mul_of_pos_left _ hj))
      refine whole_round hproduct (by omega) ?_
      by_cases hexponent : 0 ≤ -(j : Int) + q
      · exact .inl hexponent
      · -- both factors have the zeros that their exponents take away
        have hdvd : 2 ^ (-q).toNat ∣ p := by
          by_cases hq : 0 ≤ q
          · have hzero : (-q).toNat = 0 := by omega
            rw [hzero]
            exact Nat.one_dvd p
          · have hzero : q.toNat = 0 := by omega
            rw [hzero, Nat.pow_zero, Nat.mul_one] at hten
            rw [hten]
            exact Nat.dvd_mul_left _ _
        have hle : (-(-(j : Int) + q)).toNat ≤ j + (-q).toNat := by omega
        refine .inr (Nat.dvd_trans (Nat.pow_dvd_pow 2 hle) ?_)
        rw [Nat.pow_add]
        exact Nat.mul_dvd_mul (Nat.dvd_mul_left _ _) hdvd
  · show Whole (unpacked (.ofModel (.pack (UnpackedFloat.ofScientific binary64 n k))))
    unfold UnpackedFloat.ofScientific
    split
    · trivial
    · rename_i hne
      split
      · trivial
      · split
        · trivial
        · rw [if_pos (by omega)]
          have hpos : 0 < n := Nat.pos_of_ne_zero hne
          have hshift : n <<< binary64.mantissaBits = n * 2 ^ 53 := Nat.shiftLeft_eq _ _
          have hten : 0 < 10 ^ (k : Int).toNat := Nat.pow_pos (by decide)
          have hproduct : 0 < n * 2 ^ 53 * 10 ^ (k : Int).toNat :=
            Nat.mul_pos (Nat.mul_pos hpos (by decide)) hten
          have hlog : 53 ≤ (n * 2 ^ 53 * 10 ^ (k : Int).toNat).log2 := by
            refine (Nat.le_log2 (Nat.pos_iff_ne_zero.1 hproduct)).2 ?_
            calc 2 ^ 53 ≤ n * 2 ^ 53 := Nat.le_mul_of_pos_left _ hpos
              _ ≤ n * 2 ^ 53 * 10 ^ (k : Int).toNat := Nat.le_mul_of_pos_right _ hten
          have hround := whole_round (s := .positive) (e := -53) hproduct (by omega)
            (.inr (Nat.dvd_mul_right_of_dvd (Nat.dvd_mul_left _ _) _))
          simp only [hshift]
          exact hround

end FieldQuery.Number
