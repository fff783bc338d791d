import FieldQuery.Proofs.Binary64

/-!
# The order of floats

Floats are compared by what they stand for, and there is one comparison behind `<` and `==`: two
floats are in some order, or one of them is NaN.  Two zeros are equal whatever their signs.

* `compare_swap` — comparing the other way round has the opposite outcome.
* `lt_iff_compare`, `beq_iff_compare` — `<` and `==` are two of the outcomes.
* `beq_comm` — which float is first does not matter to `==`.
-/

open Float.Model
open Float.Model.UnpackedFloat hiding unpack pack neg abs isNaN isInf isFinite compare

namespace FieldQuery.Number

/-! ## Comparing what floats stand for -/

theorem sign_compare_swap (s t : Sign) : (Ord.compare s t).swap = Ord.compare t s := by
  cases s <;> cases t <;> rfl

/-- Two numbers of one sign are compared by their exponents first. -/
theorem magnitude_compare_swap (e₁ e₂ : Int) (m₁ m₂ : Nat) :
    ((Ord.compare e₁ e₂).then (Ord.compare m₁ m₂)).swap =
      (Ord.compare e₂ e₁).then (Ord.compare m₂ m₁) := by
  rw [Ordering.swap_then, Int.compare_swap, Nat.compare_swap]

/-- **Comparing the other way round** has the opposite outcome, if it has any. -/
theorem compare_swap (a b : UnpackedFloat) :
    b.compare a = (a.compare b).map Ordering.swap := by
  cases a with
  | notANumber => cases b <;> rfl
  | infinity s =>
    cases b with
    | infinity t => exact congrArg some (sign_compare_swap s t).symm
    | _ => cases s <;> rfl
  | zero s =>
    cases b with
    | infinity t => cases t <;> rfl
    | finite t m e hm => cases t <;> rfl
    | _ => rfl
  | finite s m e hm =>
    cases b with
    | infinity t => cases t <;> rfl
    | zero t => cases s <;> rfl
    | notANumber => rfl
    | finite t m' e' hm' =>
      cases s with
      | positive =>
        cases t with
        | positive => exact congrArg some (magnitude_compare_swap e e' m m').symm
        | negative => rfl
      | negative =>
        cases t with
        | positive => rfl
        | negative =>
          exact congrArg (fun found => some found.swap) (magnitude_compare_swap e e' m m').symm

/-! ## Comparing floats -/

theorem lt_iff_compare {x y : Float} :
    x < y ↔ (unpacked x).compare (unpacked y) = some .lt := by
  show decide ((unpacked x).lt (unpacked y) = true) = true ↔ _
  rw [decide_eq_true_iff, UnpackedFloat.lt, beq_iff_eq]

theorem beq_iff_compare {x y : Float} :
    (x == y) = true ↔ (unpacked x).compare (unpacked y) = some .eq := by
  show (unpacked x).beq (unpacked y) = true ↔ _
  rw [UnpackedFloat.beq, beq_iff_eq]

/-- Which float is first does not matter to `==`. -/
theorem beq_comm (x y : Float) : (x == y) = (y == x) := by
  rw [Bool.eq_iff_iff, beq_iff_compare, beq_iff_compare, compare_swap (unpacked x) (unpacked y)]
  cases (unpacked x).compare (unpacked y) with
  | none => simp
  | some found => cases found <;> simp

end FieldQuery.Number
