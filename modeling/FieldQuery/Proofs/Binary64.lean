import FieldQuery.Number.Binary
import Mathlib

/-!
# The binary format of floats

A float is 64 bits: a sign, a power of two and a fraction.  The arithmetic of floats is defined on
signs, mantissas and exponents that are taken out of the bits and put back.  Here both ways are
spelled out on numbers, so that a float is known by what is taken out of it.

* `unpack_eq` — what the bits of a float stand for.
* `Proper` — the mantissas and exponents that the format has room for.
* `unpack_pack` — packing keeps what is proper, and all floats are.
* `eq_of_unpacked_eq` — floats that stand for the same are the same.
* `ofFloat_of_finite` — the exact fraction of a float is what its bits stand for.
-/

open Float.Model
open Float.Model.UnpackedFloat hiding unpack pack neg abs isNaN isInf isFinite

namespace FieldQuery.Number

/-- The format of 64-bit floats. -/
abbrev binary64 : Format := Format.binary64

/-! ## Parts of the bits -/

theorem toNat_unpackMantissa (b : BitVec binary64.numBits) :
    (unpackMantissa b).toNat = b.toNat % 2 ^ 52 := by
  simp [unpackMantissa, BitVec.extractLsb]

theorem toNat_unpackExponent (b : BitVec binary64.numBits) :
    (unpackExponent b).toNat = b.toNat / 2 ^ 52 % 2 ^ 11 := by
  simp [unpackExponent, BitVec.extractLsb, Nat.shiftRight_eq_div_pow]

theorem toNat_unpackSign (b : BitVec binary64.numBits) :
    (unpackSign b).toNat = b.toNat / 2 ^ 63 := by
  have h : b.toNat < 2 ^ 64 := b.isLt
  simp [unpackSign, BitVec.extractLsb, Nat.shiftRight_eq_div_pow]
  omega

theorem toNat_packComponents (s : Sign) (e : BitVec 11) (m : BitVec 52) :
    (packComponents binary64 s e m).toNat = s.toBitVec.toNat * 2 ^ 63 + e.toNat * 2 ^ 52 + m.toNat := by
  rw [packComponents, BitVec.toNat_append, BitVec.toNat_append,
    ← Nat.shiftLeft_add_eq_or_of_lt e.isLt, ← Nat.shiftLeft_add_eq_or_of_lt m.isLt,
    Nat.shiftLeft_eq, Nat.shiftLeft_eq]
  show (s.toBitVec.toNat * 2 ^ 11 + e.toNat) * 2 ^ 52 + m.toNat = _
  omega

/-- The sign in the first bit. -/
def signOf (bits : Nat) : Sign :=
  if bits / 2 ^ 63 = 0 then .positive else .negative

/-- The sign bit of a sign. -/
def signBit : Sign → Nat
  | .positive => 0
  | .negative => 1

theorem ofBitVec_unpackSign (b : BitVec binary64.numBits) :
    Sign.ofBitVec (unpackSign b) = signOf b.toNat := by
  rw [Sign.ofBitVec, signOf, ← toNat_unpackSign]
  simp [← BitVec.toNat_inj]

/-- **What the bits of a float stand for.** -/
theorem unpack_eq (b : BitVec binary64.numBits) :
    UnpackedFloat.unpack binary64 b =
      if b.toNat / 2 ^ 52 % 2 ^ 11 = 2047 then
        if b.toNat % 2 ^ 52 = 0 then .infinity (signOf b.toNat) else .notANumber
      else if b.toNat / 2 ^ 52 % 2 ^ 11 = 0 then
        if h : b.toNat % 2 ^ 52 = 0 then .zero (signOf b.toNat)
        else .finite (signOf b.toNat) (b.toNat % 2 ^ 52) (-1074) (Nat.pos_of_ne_zero h)
      else .finite (signOf b.toNat) (2 ^ 52 + b.toNat % 2 ^ 52)
        (((b.toNat / 2 ^ 52 % 2 ^ 11 : Nat) : Int) - 1075) (by omega) := by
  have hones : unpackExponent b = (-1#_) ↔ b.toNat / 2 ^ 52 % 2 ^ 11 = 2047 := by
    rw [← BitVec.toNat_inj, toNat_unpackExponent]
    rfl
  have hzero : unpackExponent b = 0#_ ↔ b.toNat / 2 ^ 52 % 2 ^ 11 = 0 := by
    rw [← BitVec.toNat_inj, toNat_unpackExponent]
    rfl
  have hmantissa : unpackMantissa b = 0#_ ↔ b.toNat % 2 ^ 52 = 0 := by
    rw [← BitVec.toNat_inj, toNat_unpackMantissa]
    rfl
  have happend : (1#1 ++ unpackMantissa b).toNat = 2 ^ 52 + b.toNat % 2 ^ 52 := by
    rw [BitVec.toNat_append, ← Nat.shiftLeft_add_eq_or_of_lt (unpackMantissa b).isLt,
      Nat.shiftLeft_eq, toNat_unpackMantissa]
    show 1 * 2 ^ 52 + _ = _
    omega
  rw [UnpackedFloat.unpack]
  simp only [hones, hzero, hmantissa, ofBitVec_unpackSign, happend, toNat_unpackMantissa, toNat_unpackExponent]
  have hbias : ((binary64.exponentBias : Nat) : Int) + (52 : Nat) = 1075 := rfl
  rw [hbias]
  split
  · rfl
  · split
    · rename_i hp
      split
      · rfl
      · congr 1
        rw [hp]
        rfl
    · rfl

theorem toNat_toBitVec (s : Sign) : s.toBitVec.toNat = signBit s := by
  cases s <;> rfl

/-- The bits of a finite number whose mantissa and exponent are in the form of the format. -/
theorem toNat_pack_finite {s : Sign} {m : Nat} {e : Int} (hm : 0 < m)
    (h : m < 2 ^ 53) (he : -1074 ≤ e) (he' : e ≤ 971) :
    (UnpackedFloat.pack binary64 (.finite s m e hm)).toNat =
      signBit s * 2 ^ 63 + (if 2 ^ 52 ≤ m then (e + 1075).toNat else 0) * 2 ^ 52 + m % 2 ^ 52 := by
  have hlog : m.log2 + 1 = 53 ↔ 2 ^ 52 ≤ m := by
    rw [Nat.succ_inj, Nat.log2_eq_iff (Nat.pos_iff_ne_zero.1 hm)]
    omega
  have hbias : (e + ((binary64.exponentBias : Nat) : Int) + (52 : Nat)) = e + 1075 := by
    have : ((binary64.exponentBias : Nat) : Int) = 1023 := rfl
    omega
  rw [UnpackedFloat.pack]
  simp only [hbias]
  rw [if_neg (by show ¬ 2 ^ 11 ≤ _; omega)]
  have hbits : binary64.mantissaBits = 53 := rfl
  rw [hbits]
  by_cases hn : 2 ^ 52 ≤ m
  · rw [if_pos (hlog.2 hn), if_pos hn, toNat_packComponents, toNat_toBitVec, BitVec.toNat_ofNat,
      BitVec.toNat_ofNat]
    show _ + (e + 1075).toNat % 2 ^ 11 * _ + m % 2 ^ 52 = _
    rw [Nat.mod_eq_of_lt (by omega)]
  · rw [if_neg (fun h => hn (hlog.1 h)), if_neg hn, toNat_packComponents, toNat_toBitVec,
      BitVec.toNat_ofNat, BitVec.toNat_ofNat]

theorem signOf_signBit {s : Sign} {p f : Nat} (hp : p < 2 ^ 11) (hf : f < 2 ^ 52) :
    signOf (signBit s * 2 ^ 63 + p * 2 ^ 52 + f) = s := by
  rw [signOf]
  cases s with
  | positive => exact if_pos (by simp only [signBit]; omega)
  | negative => exact if_neg (by simp only [signBit]; omega)

theorem signBit_signOf {n : Nat} (h : n < 2 ^ 64) : signBit (signOf n) = n / 2 ^ 63 := by
  rw [signOf]
  split
  · rename_i hn
    rw [hn]
    rfl
  · rw [signBit]
    omega

/-- **A number that has the form of the format is kept** by packing. -/
theorem unpack_pack_finite {s : Sign} {m : Nat} {e : Int} (hm : 0 < m)
    (h : m < 2 ^ 53) (he : -1074 ≤ e) (he' : e ≤ 971) (hform : 2 ^ 52 ≤ m ∨ e = -1074) :
    UnpackedFloat.unpack binary64 (UnpackedFloat.pack binary64 (.finite s m e hm)) = .finite s m e hm := by
  rw [unpack_eq]
  have hf : m % 2 ^ 52 < 2 ^ 52 := Nat.mod_lt _ (by decide)
  have hb : signBit s ≤ 1 := by cases s <;> decide
  have hn := toNat_pack_finite (s := s) hm h he he'
  by_cases hnormal : 2 ^ 52 ≤ m
  · rw [if_pos hnormal] at hn
    have hpower : (UnpackedFloat.pack binary64 (.finite s m e hm)).toNat / 2 ^ 52 % 2 ^ 11 =
        (e + 1075).toNat := by omega
    have hfraction : (UnpackedFloat.pack binary64 (.finite s m e hm)).toNat % 2 ^ 52 = m % 2 ^ 52 := by
      omega
    have hsign : signOf (UnpackedFloat.pack binary64 (.finite s m e hm)).toNat = s := by
      rw [hn]
      exact signOf_signBit (by omega) hf
    rw [if_neg (by omega), if_neg (by omega)]
    simp only [hsign, hfraction, hpower]
    congr 1 <;> omega
  · rw [if_neg hnormal] at hn
    have hmod : m % 2 ^ 52 = m := Nat.mod_eq_of_lt (by omega)
    have hfraction : (UnpackedFloat.pack binary64 (.finite s m e hm)).toNat % 2 ^ 52 = m := by omega
    have hsign : signOf (UnpackedFloat.pack binary64 (.finite s m e hm)).toNat = s := by
      rw [hn]
      exact signOf_signBit (by decide) hf
    rw [if_neg (by omega), if_pos (by omega), dif_neg (by omega)]
    simp only [hsign, hfraction]
    congr 1
    omega

/-! ## Numbers that the format has room for -/

/-- Has the format room for the number, in the form that it has there? -/
def Proper : UnpackedFloat → Prop
  | .finite _ m e _ => m < 2 ^ 53 ∧ -1074 ≤ e ∧ e ≤ 971 ∧ (2 ^ 52 ≤ m ∨ e = -1074)
  | _ => True

/-- Every float is proper. -/
theorem proper_unpack (b : BitVec binary64.numBits) : Proper (UnpackedFloat.unpack binary64 b) := by
  rw [unpack_eq]
  split
  · split <;> trivial
  · split
    · split
      · trivial
      · exact ⟨by omega, by omega, by omega, .inr rfl⟩
    · exact ⟨by omega, by omega, by omega, .inl (by omega)⟩

/-- **Packing keeps what is proper.** -/
theorem unpack_pack {u : UnpackedFloat} (h : Proper u) :
    UnpackedFloat.unpack binary64 (UnpackedFloat.pack binary64 u) = u := by
  cases u with
  | infinity s => cases s <;> rfl
  | notANumber => rfl
  | zero s => cases s <;> rfl
  | finite s m e hm =>
    obtain ⟨h, he, he', hform⟩ := h
    exact unpack_pack_finite hm h he he' hform

/-! ## Floats -/

/-- What a float stands for. -/
def unpacked (x : Float) : UnpackedFloat :=
  x.toModel.unpack

theorem proper_unpacked (x : Float) : Proper (unpacked x) :=
  proper_unpack _

/-- **Floats that stand for the same are the same.** -/
theorem eq_of_unpacked_eq {x y : Float} (h : unpacked x = unpacked y) : x = y := by
  refine Float.toBits_inj.1 (UInt64.toBitVec_inj.1 ?_)
  exact (unpack_inj_of_valid x.toModel.valid y.toModel.valid).1 h

/-- A float that is made of something proper stands for it. -/
theorem unpacked_ofModel_pack {u : UnpackedFloat} (h : Proper u) :
    unpacked (.ofModel (.pack u)) = u :=
  unpack_pack h

theorem unpacked_neg (x : Float) : unpacked (-x) = (unpacked x).neg := by
  refine unpacked_ofModel_pack ?_
  have h := proper_unpacked x
  show Proper (unpacked x).neg
  cases hu : unpacked x <;> rw [hu] at h <;> trivial

theorem unpacked_abs (x : Float) : unpacked x.abs = (unpacked x).abs := by
  refine unpacked_ofModel_pack ?_
  have h := proper_unpacked x
  show Proper (unpacked x).abs
  cases hu : unpacked x <;> rw [hu] at h <;> trivial

/-- The sign of what is no NaN. -/
def sign? : UnpackedFloat → Option Sign
  | .infinity s | .zero s | .finite s _ _ _ => some s
  | .notANumber => none

/-- The sign bit of a float is its sign. -/
theorem isNegative_of_sign? {x : Float} {s : Sign} (h : sign? (unpacked x) = some s) :
    isNegative x = (s == .negative) := by
  have hlt : x.toBits.toNat < 2 ^ 64 := x.toBits.toNat_lt
  have hs : s = signOf x.toBits.toNat := by
    have hu : unpacked x = _ := unpack_eq x.toModel.toBits.toBitVec
    rw [hu] at h
    split at h
    · split at h
      · exact (Option.some.inj h).symm
      · cases h
    · split at h
      · split at h <;> exact (Option.some.inj h).symm
      · exact (Option.some.inj h).symm
  have hbit := signBit_signOf hlt
  rw [← hs] at hbit
  show decide (x.toBits.toNat / 2 ^ 63 = 1) = _
  rw [← hbit]
  cases s <;> rfl

theorem Binary.ofFloat_eq (x : Float) : Binary.ofFloat x =
    { negative := decide (x.toBits.toNat / 2 ^ 63 = 1)
      mantissa :=
        if x.toBits.toNat / 2 ^ 52 % 2 ^ 11 = 0 then x.toBits.toNat % 2 ^ 52
        else x.toBits.toNat % 2 ^ 52 + 2 ^ 52
      exponent := (max (x.toBits.toNat / 2 ^ 52 % 2 ^ 11) 1 : Nat) - 1075 } :=
  rfl

theorem Binary.ratio_eq (b : Binary) :
    b.ratio = (b.mantissa * 2 ^ b.exponent.toNat, 2 ^ (-b.exponent).toNat) :=
  rfl

/-- **The exact fraction of a finite float** is what its bits stand for. -/
theorem ofFloat_of_finite {x : Float} {s : Sign} {m : Nat} {e : Int} {hm : 0 < m}
    (h : unpacked x = .finite s m e hm) :
    (Binary.ofFloat x).mantissa = m ∧ (Binary.ofFloat x).exponent = e := by
  have hu : unpacked x = _ := unpack_eq x.toModel.toBits.toBitVec
  rw [h] at hu
  split at hu
  · split at hu <;> cases hu
  · split at hu
    · rename_i hp
      split at hu
      · cases hu
      · cases hu
        have hp' : x.toBits.toNat / 2 ^ 52 % 2 ^ 11 = 0 := hp
        simp only [Binary.ofFloat_eq, hp']
        exact ⟨rfl, rfl⟩
    · rename_i hp
      cases hu
      have hp' : x.toBits.toNat / 2 ^ 52 % 2 ^ 11 ≠ 0 := hp
      simp only [Binary.ofFloat_eq, if_neg hp']
      exact ⟨Nat.add_comm _ _, by
        rw [Nat.max_eq_left (by omega)]
        rfl⟩

theorem ofFloat_of_zero {x : Float} {s : Sign} (h : unpacked x = .zero s) :
    (Binary.ofFloat x).mantissa = 0 := by
  have hu : unpacked x = _ := unpack_eq x.toModel.toBits.toBitVec
  rw [h] at hu
  split at hu
  · split at hu <;> cases hu
  · split at hu
    · rename_i hp
      split at hu
      · rename_i hf
        have hp' : x.toBits.toNat / 2 ^ 52 % 2 ^ 11 = 0 := hp
        simp only [Binary.ofFloat_eq, hp']
        exact hf
      · cases hu
    · cases hu

end FieldQuery.Number
