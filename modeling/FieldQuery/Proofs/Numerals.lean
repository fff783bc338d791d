import FieldQuery.Number.Digits
import Mathlib.Algebra.Group.Nat.Defs

/-!
# Numerals

Numbers are read back from their digits, and zeros in front of a numeral do not count.

* `isDigit_of_mem_toDigits` — the digits of a number are digits.
* `ofDigits_base`, `ofDigits_toDigits` — a number is read back from its digits, in base ten and in
  others.
* `ofDigits_zeros` — zeros in front do not count.
* `ofDigits_append_zeros` — zeros behind a numeral multiply it by a power of ten.
-/

namespace FieldQuery.Number

theorem toDigits_ne_nil (n : Nat) : toDigits n ≠ [] :=
  Nat.toDigits_ne_nil

/-- The digits of a number are digits. -/
theorem isDigit_of_mem_toDigits {n : Nat} {c : Char} (h : c ∈ toDigits n) : isDigit c = true := by
  have hd : c.isDigit = true := Nat.isDigit_of_mem_toDigits (by decide) (by decide) h
  simp only [Char.isDigit, Bool.and_eq_true, decide_eq_true_eq] at hd
  simp only [isDigit, Bool.and_eq_true, decide_eq_true_eq]
  exact hd

theorem digitValue_table : ∀ d ∈ List.range 16, digitValue (Nat.digitChar d) = d := by
  decide

theorem digitValue_digitChar {d : Nat} (h : d < 16) : digitValue (Nat.digitChar d) = d :=
  digitValue_table d (List.mem_range.2 h)

/-- A further digit multiplies what stands before it by the base. -/
theorem ofDigits_concat (base : Nat) (digits : List Char) (c : Char) :
    ofDigits base (digits ++ [c]) = ofDigits base digits * base + digitValue c := by
  simp [ofDigits]

/-- A number is read back from its digits in any base up to sixteen. -/
theorem ofDigits_base {base : Nat} (hlow : 1 < base) (hhigh : base ≤ 16) (n : Nat) :
    ofDigits base (Nat.toDigits base n) = n := by
  induction n using Nat.base_induction base hlow with
  | single m hm =>
    rw [Nat.toDigits_of_lt_base hm, ← List.nil_append [m.digitChar], ofDigits_concat,
      digitValue_digitChar (Nat.lt_of_lt_of_le hm hhigh)]
    exact (congrArg (· + m) (Nat.zero_mul base)).trans (Nat.zero_add m)
  | digit m k hk hm ih =>
    rw [← Nat.toDigits_append_toDigits hlow hm hk, Nat.toDigits_of_lt_base hk, ofDigits_concat, ih,
      digitValue_digitChar (Nat.lt_of_lt_of_le hk hhigh), Nat.mul_comm]

/-- A number is read back from its digits. -/
theorem ofDigits_toDigits (n : Nat) : ofDigits 10 (toDigits n) = n :=
  ofDigits_base (by decide) (by decide) n

/-- Zeros in front of a numeral do not count. -/
theorem ofDigits_zeros (base count : Nat) (digits : List Char) :
    ofDigits base (List.replicate count '0' ++ digits) = ofDigits base digits := by
  have hzeros : ofDigits base (List.replicate count '0') = 0 := by
    induction count with
    | zero => rfl
    | succ count ih =>
      rw [List.replicate_succ', ofDigits_concat, ih, Nat.zero_mul]
      rfl
  rw [ofDigits, List.foldl_append]
  exact congrArg (List.foldl _ · digits) hzeros

/-- Zeros behind a numeral multiply it by a power of ten. -/
theorem ofDigits_append_zeros (digits : List Char) (count : Nat) :
    ofDigits 10 (digits ++ List.replicate count '0') = ofDigits 10 digits * 10 ^ count := by
  induction count with
  | zero => simp
  | succ count ih =>
    have hstep : ofDigits 10 (digits ++ List.replicate count '0' ++ ['0']) =
        ofDigits 10 (digits ++ List.replicate count '0') * 10 := by
      simp [ofDigits, digitValue, isDigit]
    rw [List.replicate_succ', ← List.append_assoc, hstep, ih, Nat.pow_succ, Nat.mul_assoc]

end FieldQuery.Number
