import FieldQuery.Proofs.Readable
import FieldQuery.Solve
import Mathlib.Data.List.ProdSigma

/-!
# Comparisons look at leaves

A superposition may have superpositions among its candidates.  Its leaves are the single
values that are found below it, in order, with no value left out.  Comparing two values
searches the pairs of their leaves, and nothing else about how candidates are nested counts.

* `Value.leaves` — the leaves of a value.
* `Value.ensures_search` — the search for a pair of candidates is one for a pair of leaves.
* `Value.ensures_matched` — so is the search for a candidate in which a pattern is found.
* `Expr.solve_compare_leaves` — what comparisons of operands come to, in terms of leaves.
-/

namespace FieldQuery

open Reading Judging

namespace Value

/-! ## Leaves -/

mutual

/-- The single values below a superposition; no value has none, and any other is its own. -/
def leaves : Value → List Value
  | .null => []
  | .superposition _ candidates => leavesOfAll candidates
  | v => [v]

/-- The leaves of some values, one after another. -/
def leavesOfAll : List Value → List Value
  | [] => []
  | v :: vs => leaves v ++ leavesOfAll vs

end

theorem leavesOfAll_eq (vs : List Value) : leavesOfAll vs = vs.flatMap leaves := by
  induction vs with
  | nil => rfl
  | cons v vs ih => rw [leavesOfAll, ih, List.flatMap_cons]

@[simp] theorem leaves_null : Value.null.leaves = [] := by
  simp [leaves]

@[simp] theorem leaves_superposition (handle : Handle) (candidates : List Value) :
    (Value.superposition handle candidates).leaves = candidates.flatMap leaves := by
  rw [leaves, leavesOfAll_eq]

theorem leaves_of_isNull {v : Value} (h : v.isNull = true) : v.leaves = [] := by
  cases v with
  | null => simp
  | _ => simp [isNull] at h

theorem leaves_of_isSingle {v : Value} (h : v.IsSingle) (hnull : v.isNull = false) :
    v.leaves = [v] := by
  cases v with
  | null => simp [isNull] at hnull
  | superposition => exact absurd rfl (h _ _)
  | _ => simp [leaves]

theorem Alike.leaves_eq {v w : Value} (h : Alike v w) : v.leaves = w.leaves := by
  cases h with
  | same _ => rfl
  | copies _ => simp

/-- Where candidates are put together, so are their leaves. -/
theorem ensures_ofCandidates (candidates : List Value) :
    Ensures (fun v => v.leaves = candidates.flatMap leaves) (ofCandidates candidates) := by
  intro ledger
  match candidates with
  | [] => exact leaves_null
  | [v] => exact (List.flatMap_singleton _ _).symm
  | _ :: _ :: _ => exact leaves_superposition _ _

/-- What is put together of candidates can be opened again as they can. -/
theorem ensures_ofCandidates_reopens {candidates : List Value} (h : ∀ c ∈ candidates, c.Reopens) :
    Ensures Reopens (ofCandidates candidates) := by
  intro ledger
  match candidates with
  | [] => exact .single (by rintro _ _ ⟨⟩)
  | [v] => exact h v (by simp)
  | _ :: _ :: _ => exact .superposition (by simp) h

/-- A copy can be opened again and has the leaves of what is copied. -/
theorem Reopens.ensures_settle {v : Value} (h : v.Reopens) :
    Ensures (fun copy => copy.Reopens ∧ copy.leaves = v.leaves) v.settle := by
  cases h with
  | single hsingle =>
    rw [settle_of_isSingle hsingle]
    exact ensures_pure ⟨.single hsingle, rfl⟩
  | superposition hhandle hcandidates =>
    refine (ensures_readAll hhandle _).bind ?_
    rintro _ rfl
    rw [leaves_superposition]
    intro ledger
    exact ⟨ensures_ofCandidates_reopens hcandidates ledger, ensures_ofCandidates _ ledger⟩

/-- A copy of what can be read again can be. -/
theorem ensures_settle {v : Value} (h : v.IsReadable) :
    Ensures (fun copy => copy.IsReadable ∧ copy.leaves = v.leaves) v.settle := by
  intro ledger
  exact ⟨((agree_settle (.same h)).ensures ledger).readable,
    (h.reopens.ensures_settle ledger).2⟩

/-! ## Pairs of leaves -/

section

variable {ignores : Value → Bool} {test : Value → Value → Judging Bool}

theorem searchRightAll_eq (left : Value) (handle : Handle) (candidates : List Value) :
    searchRightAll ignores test left handle candidates =
      firstTrue handle.take (searchRight ignores test left) candidates := by
  induction candidates with
  | nil => rw [searchRightAll, firstTrue]
  | cons c cs ih => rw [searchRightAll, firstTrue, ih]

theorem searchAll_eq (handle : Handle) (right : Value) (candidates : List Value) :
    searchAll ignores test handle right candidates =
      firstTrue handle.take (fun c => search ignores test c right) candidates := by
  induction candidates with
  | nil => rw [searchAll, firstTrue]
  | cons c cs ih => rw [searchAll, firstTrue, ih]

theorem searchRight_of_isSingle (left : Value) {right : Value} (h : right.IsSingle) :
    searchRight ignores test left right =
      if ignores right then return false else test left right := by
  cases right with
  | superposition => exact absurd rfl (h _ _)
  | _ => rfl

theorem search_of_isSingle {left : Value} (h : left.IsSingle) (right : Value) :
    search ignores test left right =
      if ignores left then return false else searchRight ignores test left right := by
  cases left with
  | superposition => exact absurd rfl (h _ _)
  | _ => rfl

variable (ignores test) in
/-- A test with known outcomes, for which no value is never found: it is ignored or it fails
the test, on both sides. -/
structure HasOutcome (outcome : Value → Value → Except Fault Bool) : Prop where
  /-- The outcome of the test. -/
  ensures_test : ∀ left right, Ensures (· = outcome left right) (test left right).run
  /-- Nothing but no value is ignored. -/
  isNull_of_ignores : ∀ v, ignores v = true → v.isNull = true
  /-- No value fails the test on the left. -/
  null_left : ∀ right, ignores .null = false → outcome .null right = .ok false
  /-- No value fails the test on the right. -/
  null_right : ∀ left, ignores .null = false → outcome left .null = .ok false

variable {outcome : Value → Value → Except Fault Bool}

theorem ensures_searchRight (h : HasOutcome ignores test outcome) (left : Value) {right : Value}
    (hright : right.Reopens) :
    Ensures (· = firstDecided (right.leaves.map (outcome left)))
      (searchRight ignores test left right).run := by
  induction right using candidates_induction with
  | single right hsingle =>
    rw [searchRight_of_isSingle left hsingle]
    by_cases hnull : right.isNull = true
    · rw [leaves_of_isNull hnull, List.map_nil, firstDecided_nil]
      split
      · exact ensures_pure rfl
      · rename_i hkept
        cases right with
        | null =>
          rw [← h.null_right left (by simpa using hkept)]
          exact h.ensures_test left .null
        | _ => simp [isNull] at hnull
    · have hkept : ¬ ignores right = true := fun hig => hnull (h.isNull_of_ignores _ hig)
      rw [if_neg hkept, leaves_of_isSingle hsingle (by simpa using hnull)]
      rw [List.map_singleton, firstDecided_singleton]
      exact h.ensures_test left right
  | superposition handle candidates ih =>
    rw [reopens_superposition] at hright
    rw [searchRight, searchRightAll_eq, leaves_superposition, List.map_flatMap,
      ← firstDecided_flatMap]
    refine ensures_lift (ensures_ask hright.1) ?_
    rintro _ rfl
    exact ensures_firstTrue fun c hc => ih c hc (hright.2 c hc)

/-- The search for a pair of candidates that passes a test goes through the pairs of leaves,
those of the first leaf on the left first. -/
theorem ensures_search (h : HasOutcome ignores test outcome) {left right : Value}
    (hleft : left.Reopens) (hright : right.Reopens) :
    Ensures (· = firstDecided ((left.leaves ×ˢ right.leaves).map fun pair =>
      outcome pair.1 pair.2)) (search ignores test left right).run := by
  induction left using candidates_induction generalizing right with
  | single left hsingle =>
    rw [search_of_isSingle hsingle]
    by_cases hnull : left.isNull = true
    · rw [leaves_of_isNull hnull, List.nil_product, List.map_nil, firstDecided_nil]
      split
      · exact ensures_pure rfl
      · rename_i hkept
        cases left with
        | null =>
          have hfalse : firstDecided (right.leaves.map (outcome .null)) = .ok false :=
            firstDecided_of_forall <| List.forall_mem_map.2 fun leaf _ =>
              h.null_left leaf (by simpa using hkept)
          rw [← hfalse]
          exact ensures_searchRight h .null hright
        | _ => simp [isNull] at hnull
    · have hkept : ¬ ignores left = true := fun hig => hnull (h.isNull_of_ignores _ hig)
      rw [if_neg hkept, leaves_of_isSingle hsingle (by simpa using hnull), List.product_cons,
        List.nil_product, List.append_nil, List.map_map]
      exact ensures_searchRight h left hright
  | superposition handle candidates ih =>
    rw [reopens_superposition] at hleft
    rw [search]
    by_cases hig : ignores right = true
    · rw [if_pos hig, leaves_of_isNull (h.isNull_of_ignores _ hig), List.product_nil]
      exact ensures_pure rfl
    · rw [if_neg hig]
      -- the copy of the right side may be nested in another way, but its leaves are the same
      refine ensures_lift (hright.ensures_settle) ?_
      rintro copy ⟨hcopy, hleaves⟩
      refine ensures_lift (ensures_ask hleft.1) ?_
      rintro _ rfl
      rw [if_pos rfl, searchAll_eq, ← hleaves]
      have hall : Ensures _ (firstTrue handle.take _ candidates).run :=
        ensures_firstTrue fun c hc => ih c hc (hleft.2 c hc) hcopy
      rw [firstDecided_flatMap] at hall
      rw [leaves_superposition]
      refine hall.mono ?_
      rintro _ rfl
      simp only [SProd.sprod, List.product, List.flatMap_assoc, List.map_flatMap]

end

/-- Values are equal when some leaf of one is the same as some leaf of the other. -/
theorem Reopens.ensures_equivalent {left right : Value} (hleft : left.Reopens)
    (hright : right.Reopens) :
    Ensures (· = .ok ((left.leaves ×ˢ right.leaves).any fun pair =>
      numericallySame pair.1 pair.2)) (equivalent left right).run := by
  have houtcome : HasOutcome isNull (fun a b => return numericallySame a b)
      fun a b => .ok (numericallySame a b) := by
    refine ⟨fun a b => ensures_pure rfl, fun v hv => hv, ?_, ?_⟩ <;>
      exact fun _ hkept => absurd hkept (by simp [isNull])
  have hsearch := ensures_search houtcome hleft hright
  rwa [firstDecided_ok fun pair : Value × Value => numericallySame pair.1 pair.2] at hsearch

theorem ensures_equivalent {left right : Value} (hleft : left.IsReadable)
    (hright : right.IsReadable) :
    Ensures (· = .ok ((left.leaves ×ˢ right.leaves).any fun pair =>
      numericallySame pair.1 pair.2)) (equivalent left right).run :=
  hleft.reopens.ensures_equivalent hright.reopens

/-- The outcome for two plain values of asking for an order that is accepted. -/
def orderOutcome (accepts : Ordering → Bool) (left right : Value) : Except Fault Bool :=
  (order left right).map fun found => found.any accepts

theorem orderOutcome_null_right (accepts : Ordering → Bool) (left : Value) :
    orderOutcome accepts left .null = .ok false := by
  cases left <;> rfl

/-- The order of values is that of the first pair of leaves that is accepted or has none. -/
theorem ensures_ordered (accepts : Ordering → Bool) {left right : Value}
    (hleft : left.IsReadable) (hright : right.IsReadable) :
    Ensures (· = firstDecided ((left.leaves ×ˢ right.leaves).map fun pair =>
      orderOutcome accepts pair.1 pair.2)) (ordered accepts left right).run := by
  have houtcome : HasOutcome (fun _ => false)
      (fun a b => return (← order a b).any accepts) (orderOutcome accepts) := by
    refine ⟨fun a b => ?_, fun v hv => by simp at hv, fun b _ => rfl,
      fun a _ => orderOutcome_null_right accepts a⟩
    unfold orderOutcome
    cases order a b with
    | ok found => exact ensures_pure rfl
    | error fault => exact ensures_pure rfl
  exact ensures_search houtcome hleft.reopens hright.reopens

/-! ## Patterns -/

/-- The outcome for a plain value of searching for a pattern. -/
def patternOutcome (pattern : Pattern) : Value → Except Fault Bool
  | .string s => .ok (pattern.foundIn s.toList)
  | .integer n => .ok (pattern.foundIn (bareText (.integer n)).toList)
  | .float x => .ok (pattern.foundIn (bareText (.float x)).toList)
  | .boolean b => .ok (pattern.foundIn (bareText (.boolean b)).toList)
  | v => .error (.type (.noSubject v.typeName))

theorem matchedAny_eq (pattern : Pattern) (handle : Handle) (candidates : List Value) :
    matchedAny pattern handle candidates =
      firstTrue handle.take (matched pattern) candidates := by
  induction candidates with
  | nil => rw [matchedAny, firstTrue]
  | cons c cs ih => rw [matchedAny, firstTrue, ih]

/-- The search for a pattern goes through the leaves. -/
theorem ensures_matched (pattern : Pattern) {subject : Value} (h : subject.IsReadable) :
    Ensures (· = firstDecided (subject.leaves.map (patternOutcome pattern)))
      (matched pattern subject).run := by
  induction subject using candidates_induction with
  | single subject hsingle =>
    cases subject with
    | null => rw [leaves_null]; exact ensures_pure rfl
    | superposition => exact absurd rfl (hsingle _ _)
    | _ =>
      rw [leaves_of_isSingle hsingle rfl, List.map_singleton, firstDecided_singleton]
      exact ensures_pure rfl
  | superposition handle candidates ih =>
    rw [isReadable_superposition] at h
    rw [matched, matchedAny_eq, leaves_superposition, List.map_flatMap, ← firstDecided_flatMap]
    refine ensures_lift (ensures_ask h.1) ?_
    rintro _ rfl
    exact ensures_firstTrue fun c hc => ih c hc (h.2 c hc)

end Value

namespace Expr

variable {app : Application} {left right : Expr} {scope : Value}
  {ledger ledger₁ ledger₂ : Ledger} {l r : Solution}

theorem run_judge (node : Expr) {judging : Judging Bool} {outcome : Except Fault Bool}
    (h : judging.run ledger = (outcome, ledger₁)) :
    (Solving.judge node judging).run ledger = (outcome.mapError (.at node), ledger₁) := by
  show (((judging.run ledger).1.mapError (.at node), (judging.run ledger).2) :
    Except SolveError Bool × Ledger) = _
  rw [h]

/-- A comparison of operands that have values comes to what is judged of these values. -/
theorem run_compare {relation : Comparison} {outcome : Except Fault Bool} {ledger₃ : Ledger}
    (hl : (left.solve app scope).run ledger = (.ok l, ledger₁))
    (hr : (right.solve app scope).run ledger₁ = (.ok r, ledger₂))
    (h : (relation.holds l.value r.value).run ledger₂ = (outcome, ledger₃)) :
    ((Expr.compare relation left right).solve app scope).run ledger =
      ((outcome.map .plainBool).mapError (.at (.compare relation left right)), ledger₃) := by
  have hjudge := run_judge (.compare relation left right) h
  rw [solve, run_bind_of_ok hl, run_bind_of_ok hr]
  cases outcome with
  | ok found => exact run_bind_of_ok hjudge
  | error fault => exact run_bind_of_error hjudge

/-- So it comes to the outcome for these values, if that does not depend on the ledger. -/
theorem solve_compare {relation : Comparison} {outcome : Except Fault Bool}
    (hl : (left.solve app scope).run ledger = (.ok l, ledger₁))
    (hr : (right.solve app scope).run ledger₁ = (.ok r, ledger₂))
    (h : Ensures (· = outcome) (relation.holds l.value r.value).run) :
    (((Expr.compare relation left right).solve app scope).run ledger).1 =
      (outcome.map .plainBool).mapError (.at (.compare relation left right)) := by
  rw [run_compare hl hr (Prod.ext (h ledger₂) rfl)]

/-- **Comparisons of operands are searches through their leaves.**  Equality holds if some pair
of leaves is the same; an order has the outcome of the first pair of leaves, those of the first
left leaf first, that is in the order or has none; and a pattern is found as the first leaf says
that it is found in or that is no subject for it. -/
theorem solve_compare_leaves
    (hl : (left.solve app scope).run ledger = (.ok l, ledger₁))
    (hr : (right.solve app scope).run ledger₁ = (.ok r, ledger₂))
    (hleft : l.value.IsReadable) (hright : r.value.IsReadable) :
    (∃ found, (((Expr.compare .equal left right).solve app scope).run ledger).1 =
        .ok (.plainBool found) ∧
      (found = true ↔ ∃ a ∈ l.value.leaves, ∃ b ∈ r.value.leaves, a.numericallySame b = true)) ∧
    (((Expr.compare .greater left right).solve app scope).run ledger).1 =
      ((firstDecided ((l.value.leaves ×ˢ r.value.leaves).map fun pair =>
        Value.orderOutcome (· == .gt) pair.1 pair.2)).map .plainBool).mapError
          (.at (.compare .greater left right)) ∧
    (((Expr.compare .atLeast left right).solve app scope).run ledger).1 =
      ((firstDecided ((l.value.leaves ×ˢ r.value.leaves).map fun pair =>
        Value.orderOutcome (· != .lt) pair.1 pair.2)).map .plainBool).mapError
          (.at (.compare .atLeast left right)) ∧
    ∀ text pattern, r.value = .string text → Pattern.ofText? text.toList = some pattern →
      (((Expr.compare .search left right).solve app scope).run ledger).1 =
        ((firstDecided (l.value.leaves.map (Value.patternOutcome pattern))).map .plainBool).mapError
          (.at (.compare .search left right)) := by
  refine ⟨?equal, ?greater, ?atLeast, ?search⟩
  case equal =>
    have hholds : Ensures (· = _) (Comparison.equal.holds l.value r.value).run :=
      Value.ensures_equivalent hleft hright
    refine ⟨_, solve_compare hl hr hholds, ?_⟩
    simp only [List.any_eq_true, Prod.exists, List.mem_product]
    constructor
    · rintro ⟨a, b, ⟨ha, hb⟩, hab⟩
      exact ⟨a, ha, b, hb, hab⟩
    · rintro ⟨a, ha, b, hb, hab⟩
      exact ⟨a, b, ⟨ha, hb⟩, hab⟩
  case greater =>
    exact solve_compare hl hr (Value.ensures_ordered _ hleft hright)
  case atLeast =>
    exact solve_compare hl hr (Value.ensures_ordered _ hleft hright)
  case search =>
    intro text pattern htext hpattern
    refine solve_compare hl hr ?_
    show Ensures _ (Value.searched l.value r.value).run
    rw [htext]
    unfold Value.searched
    simp only [hpattern]
    exact Value.ensures_matched pattern hleft

/-- A value with two leaves, one and true, below candidates of candidates. -/
def layered : Value :=
  .superposition ⟨0, .supplied⟩
    [.null, .superposition ⟨1, .supplied⟩ [.integer 1, .superposition ⟨2, .owned⟩ []],
      .boolean true]

theorem isReadable_layered : layered.IsReadable := by
  simp [layered]

/-- One is not greater than one, so that the order of true and one is asked for; one is at
least one, so that it is not. -/
theorem solve_compare_leaves_layered :
    (∃ found, (((Expr.compare .equal (.literal layered) (.literal (.integer 1))).solve
        .standard .null).run ⟨3, []⟩).1 = .ok (.plainBool found) ∧ found = true) ∧
    (((Expr.compare .greater (.literal layered) (.literal (.integer 1))).solve
        .standard .null).run ⟨3, []⟩).1 =
      .error (.at (.compare .greater (.literal layered) (.literal (.integer 1)))
        (.type (.noOrder "boolean" "integer"))) ∧
    (((Expr.compare .atLeast (.literal layered) (.literal (.integer 1))).solve
        .standard .null).run ⟨3, []⟩).1 = .ok (.plainBool true) := by
  have hleft : ((Expr.literal layered).solve .standard .null).run ⟨3, []⟩ =
      (.ok (.plain layered), ⟨3, []⟩) := rfl
  have hright : ((Expr.literal (.integer 1)).solve .standard .null).run ⟨3, []⟩ =
      (.ok (.plain (.integer 1)), ⟨3, []⟩) := rfl
  obtain ⟨⟨found, hfound, hiff⟩, hgreater, hatLeast, -⟩ :=
    solve_compare_leaves hleft hright isReadable_layered (Value.isReadable_integer 1)
  refine ⟨⟨found, hfound, hiff.2 ⟨.integer 1, ?_, .integer 1, ?_, rfl⟩⟩, ?_, ?_⟩
  · simp [Solution.plain, layered, Value.leaves, Value.leavesOfAll]
  · simp [Solution.plain, Value.leaves]
  · rw [hgreater]
    rfl
  · rw [hatLeast]
    rfl

end Expr

end FieldQuery
