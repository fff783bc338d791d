import FieldQuery.Proofs.Effects
import FieldQuery.Proofs.FloatOrder

/-!
# Orders and equality

The order of values and their equality are found in different ways.  The one ends at the first
pair of leaves that has no order, the other goes on; and a missing value is a leaf of neither.
Where two values have an order, they are equal in it exactly if they are the same.

* `Value.floatOrder_eq_compare` — the order of two floats is the outcome of one comparison.
* `Value.order_eq_iff` — equal in the order, and the same.
* `Judging.firstDecided_eq_false_iff` — a search that finds nothing has looked at all there is.
* `Expr.solve_atLeast_iff` — at least as great is greater or equal.
-/

namespace FieldQuery

open Reading Judging

/-! ## Searches and what they looked at -/

namespace Judging

/-- A search that finds nothing has looked at all there is. -/
theorem firstDecided_eq_false_iff {outcomes : List (Except Fault Bool)} :
    firstDecided outcomes = .ok false ↔ ∀ x ∈ outcomes, x = .ok false := by
  refine ⟨fun h => ?_, firstDecided_of_forall⟩
  induction outcomes with
  | nil => exact List.forall_mem_nil _
  | cons x xs ih =>
    by_cases hx : x = .ok false
    · subst hx
      exact List.forall_mem_cons.2 ⟨rfl, ih h⟩
    · rw [firstDecided_cons hx] at h
      exact absurd h hx

/-- What a search ends with is one of the outcomes, unless it finds nothing. -/
theorem firstDecided_mem {outcomes : List (Except Fault Bool)} {x : Except Fault Bool}
    (h : firstDecided outcomes = x) (hx : x ≠ .ok false) : x ∈ outcomes := by
  induction outcomes with
  | nil => exact absurd h.symm hx
  | cons y ys ih =>
    by_cases hy : y = .ok false
    · subst hy
      exact List.mem_cons_of_mem _ (ih h)
    · rw [firstDecided_cons hy] at h
      exact h ▸ List.mem_cons_self

end Judging

namespace Value

/-! ## The order of two leaves -/

/-- The order of two floats is the outcome of one comparison of what they stand for. -/
theorem floatOrder_eq_compare (x y : Float) :
    order.floatOrder x y = (Number.unpacked x).compare (Number.unpacked y) := by
  unfold order.floatOrder
  simp only [Number.lt_iff_compare, Number.beq_iff_compare,
    Number.compare_swap (Number.unpacked x) (Number.unpacked y)]
  cases (Number.unpacked x).compare (Number.unpacked y) with
  | none => rfl
  | some found => cases found <;> rfl

theorem floatOrder_eq_iff {x y : Float} :
    order.floatOrder x y = some .eq ↔ (x == y) = true := by
  rw [floatOrder_eq_compare, Number.beq_iff_compare]

/-- **Values that have an order are equal in it exactly if they are the same.** -/
theorem order_eq_iff {a b : Value} {found : Option Ordering} (ha : a.isNull = false)
    (h : order a b = .ok found) : found = some .eq ↔ numericallySame a b = true := by
  cases a with
  | null => cases ha
  | integer m =>
    cases b with
    | integer n =>
      cases h
      rw [Option.some.injEq, Int.compare_eq_eq, Int64.toInt_inj]
      exact beq_iff_eq.symm
    | float y =>
      cases h
      exact floatOrder_eq_iff
    | null =>
      cases h
      exact ⟨nofun, nofun⟩
    | _ => cases h
  | float x =>
    cases b with
    | integer n =>
      cases h
      exact floatOrder_eq_iff.trans (by rw [Number.beq_comm]; rfl)
    | float y =>
      cases h
      exact floatOrder_eq_iff
    | null =>
      cases h
      exact ⟨nofun, nofun⟩
    | _ => cases h
  | string s =>
    cases b with
    | string t =>
      cases h
      rw [Option.some.injEq, Std.LawfulEqCmp.compare_eq_iff_eq]
      exact beq_iff_eq.symm
    | null =>
      cases h
      exact ⟨nofun, nofun⟩
    | _ => cases h
  | _ =>
    cases b with
    | null =>
      cases h
      exact ⟨nofun, nofun⟩
    | _ => cases h

/-- Where values are not at least as great, they are neither greater nor the same. -/
theorem outcome_of_less {a b : Value} (ha : a.isNull = false)
    (h : orderOutcome (· != .lt) a b = .ok false) :
    orderOutcome (· == .gt) a b = .ok false ∧ numericallySame a b = false := by
  unfold orderOutcome at h ⊢
  cases horder : order a b with
  | error fault =>
    rw [horder] at h
    cases h
  | ok found =>
    rw [horder] at h
    have hne : found ≠ some .eq := by
      rintro rfl
      cases h
    refine ⟨?_, Bool.eq_false_iff.2 fun hsame => hne ((order_eq_iff ha horder).2 hsame)⟩
    cases found with
    | none => rfl
    | some found =>
      cases found with
      | lt => rfl
      | eq => exact absurd rfl hne
      | gt => cases h

/-- Where they are at least as great, they are greater or the same. -/
theorem outcome_of_atLeast {a b : Value} (ha : a.isNull = false)
    (h : orderOutcome (· != .lt) a b = .ok true) :
    orderOutcome (· == .gt) a b = .ok true ∨ numericallySame a b = true := by
  unfold orderOutcome at h ⊢
  cases horder : order a b with
  | error fault =>
    rw [horder] at h
    cases h
  | ok found =>
    rw [horder] at h
    cases found with
    | none => cases h
    | some found =>
      cases found with
      | lt => cases h
      | eq => exact .inr ((order_eq_iff ha horder).1 rfl)
      | gt => exact .inl rfl

/-! ## The order of values -/

/-- The outcomes of asking for an order, pair by pair of leaves. -/
def orderOutcomes (accepts : Ordering → Bool) (left right : Value) : List (Except Fault Bool) :=
  (left.leaves ×ˢ right.leaves).map fun pair => orderOutcome accepts pair.1 pair.2

/-- Asking for an order has an answer unless the types of some leaves do not fit. -/
theorem exists_answer {accepts : Ordering → Bool} {left right : Value}
    (h : ∀ cause, firstDecided (orderOutcomes accepts left right) ≠ .error (.type cause)) :
    ∃ found, firstDecided (orderOutcomes accepts left right) = .ok found := by
  cases hsearch : firstDecided (orderOutcomes accepts left right) with
  | ok found => exact ⟨found, rfl⟩
  | error fault =>
    obtain ⟨⟨a, b⟩, -, hfault⟩ := List.mem_map.1 (firstDecided_mem hsearch nofun)
    unfold orderOutcome at hfault
    cases horder : order a b with
    | ok found =>
      rw [horder] at hfault
      cases hfault
    | error fault' =>
      rw [horder] at hfault
      cases hfault
      have htype := isType_of_order horder
      cases fault with
      | type cause => exact absurd hsearch (h cause)
      | _ => exact htype.elim

/-- **At least as great is greater or the same**, where both orders have an answer. -/
theorem atLeast_iff {left right : Value} {more least : Bool}
    (hmore : firstDecided (orderOutcomes (· == .gt) left right) = .ok more)
    (hleast : firstDecided (orderOutcomes (· != .lt) left right) = .ok least) :
    least = true ↔ more = true ∨ ∃ a ∈ left.leaves, ∃ b ∈ right.leaves,
      a.numericallySame b = true := by
  cases least with
  | true =>
    refine ⟨fun _ => ?_, fun _ => rfl⟩
    obtain ⟨⟨a, b⟩, hmem, hpair⟩ := List.mem_map.1 (firstDecided_mem hleast nofun)
    obtain ⟨ha, hb⟩ := List.mem_product.1 hmem
    rcases outcome_of_atLeast (isSingle_of_mem_leaves ha).2 hpair with hgreater | hsame
    · left
      -- the search for something greater does not miss this pair
      refine Bool.of_not_eq_false fun hnone => ?_
      rw [hnone, firstDecided_eq_false_iff] at hmore
      have hfalse := hmore _ (List.mem_map.2 ⟨(a, b), hmem, rfl⟩)
      rw [hgreater] at hfalse
      cases hfalse
    · exact .inr ⟨a, ha, b, hb, hsame⟩
  | false =>
    refine ⟨nofun, fun h => ?_⟩
    have hless : ∀ a ∈ left.leaves, ∀ b ∈ right.leaves,
        orderOutcome (· == .gt) a b = .ok false ∧ numericallySame a b = false := by
      intro a ha b hb
      refine outcome_of_less (isSingle_of_mem_leaves ha).2 ?_
      exact firstDecided_eq_false_iff.1 hleast _
        (List.mem_map.2 ⟨(a, b), List.mem_product.2 ⟨ha, hb⟩, rfl⟩)
    rcases h with rfl | ⟨a, ha, b, hb, hsame⟩
    · obtain ⟨⟨a, b⟩, hmem, hpair⟩ := List.mem_map.1 (firstDecided_mem hmore nofun)
      obtain ⟨ha, hb⟩ := List.mem_product.1 hmem
      rw [(hless a ha b hb).1] at hpair
      cases hpair
    · rw [(hless a ha b hb).2] at hsame
      cases hsame

end Value

/-! ## Expressions -/

namespace Expr

variable {app : Application} {left right : Expr} {scope : Value}
  {ledger ledger₁ ledger₂ : Ledger} {l r : Solution}

/-- What an order of operands comes to. -/
theorem solve_order {relation : Comparison} {accepts : Ordering → Bool}
    (hrelation : relation.holds = Value.ordered accepts)
    (hl : (left.solve app scope).run ledger = (.ok l, ledger₁))
    (hr : (right.solve app scope).run ledger₁ = (.ok r, ledger₂))
    (hleft : l.value.IsReadable) (hright : r.value.IsReadable) :
    (((Expr.compare relation left right).solve app scope).run ledger).1 =
      ((firstDecided (Value.orderOutcomes accepts l.value r.value)).map .plainBool).mapError
        (.at (.compare relation left right)) := by
  refine solve_compare hl hr ?_
  rw [hrelation]
  exact Value.ensures_ordered accepts hleft hright

/-- **At least as great is greater or equal.**  Where neither order fails for the types of the
operands, all three comparisons have a truth value, and that of `>=` is true exactly if that of
`>` or of `==` is. -/
theorem solve_atLeast_iff
    (hl : (left.solve app scope).run ledger = (.ok l, ledger₁))
    (hr : (right.solve app scope).run ledger₁ = (.ok r, ledger₂))
    (hleft : l.value.IsReadable) (hright : r.value.IsReadable)
    (hgreater : ∀ cause, (((Expr.compare .greater left right).solve app scope).run ledger).1 ≠
      .error (.at (.compare .greater left right) (.type cause)))
    (hatLeast : ∀ cause, (((Expr.compare .atLeast left right).solve app scope).run ledger).1 ≠
      .error (.at (.compare .atLeast left right) (.type cause))) :
    ∃ more least equal : Bool,
      (((Expr.compare .greater left right).solve app scope).run ledger).1 =
        .ok (.plainBool more) ∧
      (((Expr.compare .atLeast left right).solve app scope).run ledger).1 =
        .ok (.plainBool least) ∧
      (((Expr.compare .equal left right).solve app scope).run ledger).1 =
        .ok (.plainBool equal) ∧
      (least = true ↔ more = true ∨ equal = true) := by
  have hequal : Ensures (· = _) (Comparison.equal.holds l.value r.value).run :=
    Value.ensures_equivalent hleft hright
  rw [solve_order rfl hl hr hleft hright] at hgreater hatLeast
  obtain ⟨more, hmore⟩ := Value.exists_answer fun cause h => hgreater cause (by rw [h]; rfl)
  obtain ⟨least, hleast⟩ := Value.exists_answer fun cause h => hatLeast cause (by rw [h]; rfl)
  refine ⟨more, least, _, ?_, ?_, solve_compare hl hr hequal, ?_⟩
  · rw [solve_order rfl hl hr hleft hright, hmore]
    rfl
  · rw [solve_order rfl hl hr hleft hright, hleast]
    rfl
  · rw [Value.atLeast_iff hmore hleast]
    simp only [List.any_eq_true, Prod.exists, List.mem_product, and_assoc, exists_and_left]

/-- An integer, and below another candidate NaN and a float. -/
def mixed : Value :=
  .superposition ⟨0, .supplied⟩
    [.integer 1, .superposition ⟨1, .supplied⟩ [.float (0 / 0), .null, .float 2]]

/-- No candidate is greater than the integer two, and one is at least two, so that it is equal. -/
theorem solve_atLeast_iff_mixed :
    (((Expr.compare .greater (.literal mixed) (.literal (.integer 2))).solve
        .standard .null).run ⟨2, []⟩).1 = .ok (.plainBool false) ∧
    (((Expr.compare .atLeast (.literal mixed) (.literal (.integer 2))).solve
        .standard .null).run ⟨2, []⟩).1 = .ok (.plainBool true) ∧
    (((Expr.compare .equal (.literal mixed) (.literal (.integer 2))).solve
        .standard .null).run ⟨2, []⟩).1 = .ok (.plainBool true) := by
  have hmixed : mixed.IsReadable := by simp [mixed]
  have hleft : ((Expr.literal mixed).solve .standard .null).run ⟨2, []⟩ =
      (.ok (.plain mixed), ⟨2, []⟩) := rfl
  have hright : ((Expr.literal (.integer 2)).solve .standard .null).run ⟨2, []⟩ =
      (.ok (.plain (.integer 2)), ⟨2, []⟩) := rfl
  have hmore : (((Expr.compare .greater (.literal mixed) (.literal (.integer 2))).solve
      .standard .null).run ⟨2, []⟩).1 = .ok (.plainBool false) := by
    have hsearch : firstDecided (Value.orderOutcomes (· == .gt) (Solution.plain mixed).value
        (Solution.plain (.integer 2)).value) = .ok false := by decide +kernel
    rw [solve_order rfl hleft hright hmixed (Value.isReadable_integer 2), hsearch]
    rfl
  have hleast : (((Expr.compare .atLeast (.literal mixed) (.literal (.integer 2))).solve
      .standard .null).run ⟨2, []⟩).1 = .ok (.plainBool true) := by
    have hsearch : firstDecided (Value.orderOutcomes (· != .lt) (Solution.plain mixed).value
        (Solution.plain (.integer 2)).value) = .ok true := by decide +kernel
    rw [solve_order rfl hleft hright hmixed (Value.isReadable_integer 2), hsearch]
    rfl
  obtain ⟨more, least, equal, hmore', hleast', hequal, hiff⟩ := solve_atLeast_iff hleft hright
    hmixed (Value.isReadable_integer 2) (by rw [hmore]; exact nofun) (by rw [hleast]; exact nofun)
  rw [hmore] at hmore'
  rw [hleast] at hleast'
  cases hmore'
  cases hleast'
  obtain rfl : equal = true := (hiff.1 rfl).resolve_left nofun
  exact ⟨hmore, hleast, hequal⟩

end Expr

end FieldQuery
