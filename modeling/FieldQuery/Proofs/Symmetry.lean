import FieldQuery.Proofs.FloatOrder
import FieldQuery.Proofs.Repetition

/-!
# Equality has no direction

The search for equal candidates walks the left side and copies the right one first, and a value
that is missing ends it on either side.  Nevertheless both directions find the same: values are
equal if some leaves of them are, and the equality of leaves is symmetric.

* `Value.same_comm`, `Value.numericallySame_comm` — equality of structure, and of numbers in it.
* `Value.ensures_equivalent_comm` — equality of values, whatever their candidates.
* `Expr.solve_equal_comm` — comparing two expressions either way has one answer.
-/

namespace FieldQuery

open Reading Judging

namespace Value

/-! ## Structure -/

mutual

/-- Which value is first does not matter to structural equality. -/
theorem same_comm (v w : Value) : v.same w = w.same v := by
  cases v with
  | boolean a =>
    cases w with
    | boolean b => exact Bool.beq_comm
    | _ => rfl
  | float x =>
    cases w with
    | float y => exact Number.beq_comm x y
    | _ => rfl
  | integer a =>
    cases w with
    | integer b => exact Bool.beq_comm
    | _ => rfl
  | string a =>
    cases w with
    | string b => exact Bool.beq_comm
    | _ => rfl
  | array items =>
    cases w with
    | array items' => exact sameItems_comm items items'
    | _ => rfl
  | object fields =>
    cases w with
    | object fields' => exact sameFields_comm fields fields'
    | _ => rfl
  | record a _ _ =>
    cases w with
    | record b _ _ => exact Bool.beq_comm
    | _ => rfl
  | superposition a _ =>
    cases w with
    | superposition b _ => exact Bool.beq_comm
    | _ => rfl
  | null => cases w <;> rfl

theorem sameItems_comm (vs ws : List Value) : sameItems vs ws = sameItems ws vs := by
  cases vs with
  | nil => cases ws <;> rfl
  | cons v vs =>
    cases ws with
    | nil => rfl
    | cons w ws => rw [sameItems, sameItems, same_comm v w, sameItems_comm vs ws]

theorem sameFields_comm (fs gs : List (String × Value)) : sameFields fs gs = sameFields gs fs := by
  cases fs with
  | nil => cases gs <;> rfl
  | cons f fs =>
    cases gs with
    | nil => rfl
    | cons g gs =>
      rw [sameFields, sameFields, Bool.beq_comm, same_comm f.2 g.2, sameFields_comm fs gs]

end

/-! ## Numbers in a structure -/

mutual

/-- Which value is first does not matter where integers and floats are compared as numbers. -/
theorem numericallySame_comm (v w : Value) : v.numericallySame w = w.numericallySame v := by
  cases v with
  | integer a =>
    cases w with
    | integer b => exact same_comm (.integer a) (.integer b)
    | _ => rfl
  | float x =>
    cases w with
    | float y => exact same_comm (.float x) (.float y)
    | _ => rfl
  | array items =>
    cases w with
    | array items' => exact numericallySameItems_comm items items'
    | _ => rfl
  | _ => cases w <;> exact same_comm _ _

theorem numericallySameItems_comm (vs ws : List Value) :
    numericallySameItems vs ws = numericallySameItems ws vs := by
  cases vs with
  | nil => cases ws <;> rfl
  | cons v vs =>
    cases ws with
    | nil => rfl
    | cons w ws =>
      rw [numericallySameItems, numericallySameItems, numericallySame_comm v w,
        numericallySameItems_comm vs ws]

end

/-! ## Candidates -/

/-- Are some leaves of two values the same? -/
def meets (left right : Value) : Bool :=
  (left.leaves ×ˢ right.leaves).any fun pair => numericallySame pair.1 pair.2

theorem meets_comm (left right : Value) : left.meets right = right.meets left := by
  have hle : ∀ v w : Value, v.meets w = true → w.meets v = true := by
    intro v w h
    obtain ⟨⟨a, b⟩, hmem, hsame⟩ := List.any_eq_true.1 h
    obtain ⟨ha, hb⟩ := List.mem_product.1 hmem
    rw [numericallySame_comm] at hsame
    exact List.any_eq_true.2 ⟨(b, a), List.mem_product.2 ⟨hb, ha⟩, hsame⟩
  exact Bool.eq_iff_iff.2 ⟨hle left right, hle right left⟩

/-- **Equality of values has no direction**, whatever was read before. -/
theorem ensures_equivalent_comm {left right : Value} (hleft : left.IsReadable)
    (hright : right.IsReadable) :
    Ensures (· = .ok (left.meets right)) (equivalent left right).run ∧
      Ensures (· = .ok (left.meets right)) (equivalent right left).run := by
  constructor
  · exact ensures_equivalent hleft hright
  · rw [meets_comm]
    exact ensures_equivalent hright hleft

end Value

/-! ## Expressions -/

namespace Expr

variable {app : Application} {scope : Value} {a b : Expr} {ledger ledger' after after' : Ledger}
  {l r : Solution}

/-- Expressions that once had values are equal or not as these values are, whenever they are
compared. -/
theorem ensures_equal (hpure : app.IsPure) (hscope : scope.IsReadable) (ha : a.IsReadable)
    (hb : b.IsReadable) (hl : (a.solve app scope).run ledger = (.ok l, after))
    (hr : (b.solve app scope).run ledger' = (.ok r, after')) :
    Ensures (· = .ok (.plainBool (l.value.meets r.value)))
      ((Expr.compare .equal a b).solve app scope).run := by
  intro now
  obtain ⟨l', hl', hleft⟩ := (concur_solve hpure ha (.same hscope)).ok hl now
  obtain ⟨r', hr', hright⟩ := (concur_solve hpure hb (.same hscope)).ok hr _
  -- the values are others than before, but they are alike
  have hmeets : l'.value.meets r'.value = l.value.meets r.value := by
    rw [Value.meets, Value.meets, hleft.value.leaves_eq, hright.value.leaves_eq]
  have hholds : Ensures (· = .ok (l.value.meets r.value))
      (Comparison.equal.holds l'.value r'.value).run := by
    rw [← hmeets]
    exact Value.ensures_equivalent hleft.value.symm.readable hright.value.symm.readable
  exact solve_compare (Prod.ext hl' rfl) (Prod.ext hr' rfl) hholds

/-- **Comparing for equality has one answer in both directions**: for values, and for expressions
that have values in a scope. -/
theorem solve_equal_comm :
    (∀ left right : Value, left.IsReadable → right.IsReadable → ∃ found : Bool,
      Ensures (· = .ok found) (left.equivalent right).run ∧
      Ensures (· = .ok found) (right.equivalent left).run) ∧
    ∀ (app : Application) (scope : Value) (a b : Expr), app.IsPure → scope.IsReadable →
      a.IsReadable → b.IsReadable →
      (∃ ledger l after, (a.solve app scope).run ledger = (.ok l, after)) →
      (∃ ledger r after, (b.solve app scope).run ledger = (.ok r, after)) →
      ∃ found : Bool,
        Ensures (· = .ok (.plainBool found)) ((Expr.compare .equal a b).solve app scope).run ∧
        Ensures (· = .ok (.plainBool found)) ((Expr.compare .equal b a).solve app scope).run := by
  constructor
  · intro left right hleft hright
    exact ⟨_, Value.ensures_equivalent_comm hleft hright⟩
  · rintro app scope a b hpure hscope ha hb ⟨_, l, _, hl⟩ ⟨_, r, _, hr⟩
    refine ⟨l.value.meets r.value, ensures_equal hpure hscope ha hb hl hr, ?_⟩
    rw [Value.meets_comm]
    exact ensures_equal hpure hscope hb ha hr hl

/-- One field with candidates of candidates, and one whose only candidate is a float. -/
def shelf : Value :=
  .object [("layers", layered), ("number", .superposition ⟨3, .supplied⟩ [.float 1])]

/-- The integer one below the candidates is equal to the float, from either side. -/
theorem solve_equal_comm_shelf :
    (∃ found : Bool, Ensures (· = .ok found) (layered.equivalent (.float 1)).run ∧
      Ensures (· = .ok found) ((Value.float 1).equivalent layered).run) ∧
    Ensures (· = .ok (.plainBool true)) ((Expr.compare .equal (.field ⟨["layers"]⟩)
      (.field ⟨["number"]⟩)).solve .standard shelf).run ∧
    Ensures (· = .ok (.plainBool true)) ((Expr.compare .equal (.field ⟨["number"]⟩)
      (.field ⟨["layers"]⟩)).solve .standard shelf).run := by
  obtain ⟨hvalues, hexprs⟩ := solve_equal_comm
  refine ⟨hvalues layered (.float 1) isReadable_layered (Value.isReadable_float 1), ?_⟩
  have hshelf : shelf.IsReadable := by simp [shelf, isReadable_layered]
  obtain ⟨found, hforth, hback⟩ := hexprs .standard shelf (.field ⟨["layers"]⟩)
    (.field ⟨["number"]⟩) Application.isPure_standard hshelf (isReadable_field _)
    (isReadable_field _) ⟨⟨4, []⟩, _, _, rfl⟩ ⟨⟨4, []⟩, _, _, rfl⟩
  have hfound : (Except.ok (.plainBool found) : Except SolveError Solution) =
      .ok (.plainBool true) := (hforth ⟨4, []⟩).symm
  obtain rfl : found = true := by
    simpa [Solution.plainBool, Solution.plain] using hfound
  exact ⟨hforth, hback⟩

end Expr

end FieldQuery
