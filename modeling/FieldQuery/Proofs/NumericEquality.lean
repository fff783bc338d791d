import FieldQuery.Proofs.Collections
import FieldQuery.Proofs.RoundedIntegers
import FieldQuery.Proofs.Symmetry

/-!
# Equality of integers and floats

An integer is equal to the float that it is rounded to.  For integers of up to 53 digits this is
the float that stands for the same number.  A larger integer may be equal to a float that stands
for another number, and so may be its neighbours, so that equality is not transitive.

* `Value.Equates` — comparing two values says that they are equal.
* `Value.equates_integer_float`, `Value.equates_float_integer` — an integer and a float.
* `Value.equates_rounded` — what such an equality says about the numbers.
* `Value.equates_neighbours` — two integers that are equal to one float.
-/

namespace FieldQuery.Value

open Reading Number

/-- Comparing two values says that they are equal, whatever was read before. -/
def Equates (left right : Value) : Prop :=
  Ensures (· = .ok true) (left.equivalent right).run

variable {v w : Value}

theorem IsScalar.equates_iff (hv : v.IsScalar) (hw : w.IsScalar) :
    v.Equates w ↔ v.numericallySame w = true := by
  have hresult := IsScalar.ensures_equivalent hv hw
  constructor
  · intro h
    exact Except.ok.inj ((hresult ⟨0, []⟩).symm.trans (h ⟨0, []⟩))
  · intro h
    rw [h] at hresult
    exact hresult

/-- **An integer and a float are equal** if the float is the one that the integer is rounded to. -/
theorem equates_integer_float (a : Int64) (b : Float) :
    (Value.integer a).Equates (.float b) ↔ NearestEven b a.toInt := by
  rw [IsScalar.equates_iff (.integer a) (.float b)]
  exact (nearestEven_floatOfInt a).beq_iff

theorem equates_float_integer (a : Int64) (b : Float) :
    (Value.float b).Equates (.integer a) ↔ NearestEven b a.toInt := by
  rw [IsScalar.equates_iff (.float b) (.integer a), numericallySame_comm,
    ← IsScalar.equates_iff (.integer a) (.float b), equates_integer_float]

/-- **Equality of integers and floats is equality after rounding.**  Comparing an integer and a
float has an answer, the same from either side, and they are equal exactly if the float is the one
that the integer is rounded to.  So a float that stands for the integer is equal to it; what is
equal to an integer of up to 53 digits stands for it, and what is equal to a larger one is off by
one part in `2 ^ 53` at most.  Two integers that are equal to one float are the same, or have more
digits and differ by no more than the two errors. -/
theorem equates_rounded (a c : Int64) (b : Float) :
    (∃ found, Ensures (· = .ok found) ((Value.integer a).equivalent (.float b)).run ∧
      Ensures (· = .ok found) ((Value.float b).equivalent (.integer a)).run ∧
      (found = true ↔ NearestEven b a.toInt)) ∧
    (b.isFinite = true → value b = a.toInt → (Value.integer a).Equates (.float b)) ∧
    ((Value.integer a).Equates (.float b) →
      (a.toInt.natAbs ≤ 2 ^ 53 → value b = a.toInt) ∧
      |value b - a.toInt| ≤ |(a.toInt : ℚ)| / 2 ^ 53) ∧
    ((Value.integer a).Equates (.float b) → (Value.float b).Equates (.integer c) →
      a = c ∨ 2 ^ 53 ≤ a.toInt.natAbs ∧ 2 ^ 53 ≤ c.toInt.natAbs ∧
        2 ^ 53 * (a.toInt - c.toInt).natAbs ≤ a.toInt.natAbs + c.toInt.natAbs) := by
  have hequates := equates_integer_float a b
  have hforth := IsScalar.ensures_equivalent (.integer a) (.float b)
  have hback := IsScalar.ensures_equivalent (.float b) (.integer a)
  rw [numericallySame_comm] at hback
  refine ⟨⟨_, hforth, hback, ?_⟩, fun hfinite hvalue => ?_, fun hab => ?_, fun hab hbc => ?_⟩
  · exact (nearestEven_floatOfInt a).beq_iff
  · exact hequates.2 (nearestEven_of_exact hfinite hvalue)
  · have hnearest := hequates.1 hab
    exact ⟨hnearest.exact, hnearest.near (natAbs_toInt_lt a)⟩
  · have ha := hequates.1 hab
    have hc := (equates_float_integer c b).1 hbc
    rcases ha.eq_or_large hc with hsame | ⟨hlarge, hlarge'⟩
    · exact .inl (Int64.toInt_inj.1 hsame)
    · exact .inr ⟨hlarge, hlarge', ha.gap hc (natAbs_toInt_lt a) (natAbs_toInt_lt c)⟩

/-- The greatest integer and a smaller one are equal to a float that is greater than both. -/
theorem equates_rounded_greatest :
    (Value.integer 9223372036854775807).Equates (.float 9223372036854775808) ∧
    (Value.float 9223372036854775808).Equates (.integer 9223372036854775296) ∧
    |value 9223372036854775808 - (9223372036854775807 : Int64).toInt| ≤
      |((9223372036854775807 : Int64).toInt : ℚ)| / 2 ^ 53 ∧
    2 ^ 53 * ((9223372036854775807 : Int64).toInt - (9223372036854775296 : Int64).toInt).natAbs ≤
      (9223372036854775807 : Int64).toInt.natAbs + (9223372036854775296 : Int64).toInt.natAbs := by
  have hab : (Value.integer 9223372036854775807).Equates (.float 9223372036854775808) :=
    (IsScalar.equates_iff (.integer _) (.float _)).2 (by decide +kernel)
  have hbc : (Value.float 9223372036854775808).Equates (.integer 9223372036854775296) :=
    (IsScalar.equates_iff (.float _) (.integer _)).2 (by decide +kernel)
  obtain ⟨-, -, hnear, hgap⟩ :=
    equates_rounded 9223372036854775807 9223372036854775296 9223372036854775808
  exact ⟨hab, hbc, (hnear hab).2, ((hgap hab hbc).resolve_left (by decide)).2.2⟩

/-- **An integer can be equal to a float that stands for its neighbour**, and equality is not
transitive. -/
theorem equates_neighbours :
    (Value.integer 9007199254740993).Equates (.float 9007199254740992) ∧
    (Value.float 9007199254740992).Equates (.integer 9007199254740992) ∧
    (9007199254740993 : Int64) ≠ 9007199254740992 ∧
    value 9007199254740992 = (9007199254740992 : Int64).toInt := by
  have hback : (Value.float 9007199254740992).Equates (.integer 9007199254740992) :=
    (IsScalar.equates_iff (.float _) (.integer _)).2 (by decide +kernel)
  refine ⟨(IsScalar.equates_iff (.integer _) (.float _)).2 (by decide +kernel), hback, by decide, ?_⟩
  exact ((equates_float_integer _ _).1 hback).exact (by decide)

end FieldQuery.Value
