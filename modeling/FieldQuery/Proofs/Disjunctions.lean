import FieldQuery.Proofs.Branches
import FieldQuery.Proofs.Duality

/-!
# The grouping of a disjunction

A disjunction has the value of the operand that decides it.  However a chain of operands is put
together of disjunctions, they are solved one after another, up to the first that fails or is true
or up to the last one, and what the tree comes to is the value of that operand, with its branch or
the operand itself for a branch.

The tree may ask more than once for the truth of the operand that decides: a disjunction hands on a
value whose truth it was asked for, and the disjunction around it asks again.  A superposition that
the operand came to without a copy must not be single-pass, or the second answer is another one.

* `Expr.Disjoins` — a tree of disjunctions over some operands.
* `Expr.SolvesFirst` — operands are solved in order up to the one that decides.
* `Expr.SolvesFirst.unique` — there is one outcome of that.
* `Expr.solvesFirst_of_disjoins` — that is what solving a tree does.
* `Expr.solve_disjunction` — so the grouping makes no difference, if no operand comes to a
  superposition that cannot be asked twice.
* `Expr.solve_disjunction_of_isReadable` — that is so wherever everything can be read again.
-/

namespace FieldQuery

open Reading Judging

/-- The solution that an operand gives to a disjunction, which has the operand for a branch unless
the operand has one of its own. -/
def Solution.credit (operand : Expr) (solution : Solution) : Solution :=
  ⟨solution.value, some (solution.branch.getD operand)⟩

namespace Expr

/-- The expression is a tree of disjunctions over these operands, from left to right. -/
inductive Disjoins : Expr → List Expr → Prop where
  /-- An operand. -/
  | operand (e : Expr) : Disjoins e [e]
  /-- A disjunction has the operands of its left side and then those of its right side. -/
  | or {left right : Expr} {lefts rights : List Expr} (hleft : Disjoins left lefts)
    (hright : Disjoins right rights) : Disjoins (.or left right) (lefts ++ rights)

/-- Operands are solved in order, each once, up to the first that fails or is true, or up to the
last one.  Between two operands the truth of the first is asked for, and behind one that is true any
number of times. -/
inductive SolvesFirst (app : Application) (scope : Value) :
    Ledger → List Expr → Except SolveError Solution → Ledger → Prop where
  /-- The last operand has a value. -/
  | last {ledger after : Ledger} {e : Expr} {solution : Solution}
    (h : (solve app e scope).run ledger = (.ok solution, after)) :
    SolvesFirst app scope ledger [e] (.ok (solution.credit e)) after
  /-- An operand fails. -/
  | fails {ledger after : Ledger} {e : Expr} {es : List Expr} {err : SolveError}
    (h : (solve app e scope).run ledger = (.error err, after)) :
    SolvesFirst app scope ledger (e :: es) (.error err) after
  /-- An operand is true. -/
  | holds {ledger middle after : Ledger} {e : Expr} {es : List Expr} {solution : Solution}
    (h : (solve app e scope).run ledger = (.ok solution, middle))
    (htrue : (solution.value.isTruthy.run middle).1 = true)
    (hreads : middle.Extends Event.IsRead after) :
    SolvesFirst app scope ledger (e :: es) (.ok (solution.credit e)) after
  /-- An operand is false, and the next ones are solved. -/
  | passes {ledger middle next after : Ledger} {e : Expr} {es : List Expr} {solution : Solution}
    {outcome : Except SolveError Solution}
    (h : (solve app e scope).run ledger = (.ok solution, middle))
    (hfalse : solution.value.isTruthy.run middle = (false, next))
    (rest : SolvesFirst app scope next es outcome after) :
    SolvesFirst app scope ledger (e :: es) outcome after

/-- An operand has one truth value if no superposition that it can come to without a copy is
single-pass: one that was copied can be asked again. -/
theorem ensures_isTruthy_of_solve {app : Application} {e : Expr} {scope : Value}
    {ledger after : Ledger} {solution : Solution}
    (huncopied : ∀ handle, e.Uncopied scope handle → handle.source ≠ .singlePass)
    (h : (solve app e scope).run ledger = (.ok solution, after)) :
    Ensures (· = solution.value.truth) solution.value.isTruthy := by
  refine Value.ensures_isTruthy_of_source fun handle candidates hvalue => ?_
  have hhandle : handle ∈ solution.value.outermost := by
    rw [hvalue]
    exact List.mem_singleton_self _
  rcases owned_or_uncopied h handle hhandle with howned | hhandle
  · rw [howned]
    decide
  · exact huncopied handle hhandle

namespace SolvesFirst

variable {app : Application} {scope : Value} {ledger middle next after after' : Ledger}
  {es more : List Expr} {solution : Solution} {outcome outcome' : Except SolveError Solution}

/-- **What the operands come to is determined by them.** -/
theorem unique (h : SolvesFirst app scope ledger es outcome after)
    (h' : SolvesFirst app scope ledger es outcome' after') : outcome = outcome' := by
  induction h generalizing outcome' after' with
  | last h =>
    cases h' with
    | last h' | holds h' =>
      cases h.symm.trans h'
      rfl
    | fails h' => cases h.symm.trans h'
    | passes _ _ rest => cases rest
  | fails h =>
    cases h' with
    | fails h' =>
      cases h.symm.trans h'
      rfl
    | last h' | holds h' | passes h' => cases h.symm.trans h'
  | holds h htrue =>
    cases h' with
    | last h' | holds h' =>
      cases h.symm.trans h'
      rfl
    | fails h' => cases h.symm.trans h'
    | passes h' hfalse' =>
      cases h.symm.trans h'
      rw [hfalse'] at htrue
      cases htrue
  | passes h hfalse rest ih =>
    cases h' with
    | last h' => cases rest
    | fails h' => cases h.symm.trans h'
    | holds h' htrue' =>
      cases h.symm.trans h'
      rw [hfalse] at htrue'
      cases htrue'
    | passes h' hfalse' rest' =>
      cases h.symm.trans h'
      cases hfalse.symm.trans hfalse'
      exact ih rest'

/-- Whoever fails before further operands fails. -/
theorem append_error {err : SolveError} (h : SolvesFirst app scope ledger es (.error err) after)
    (more : List Expr) : SolvesFirst app scope ledger (es ++ more) (.error err) after := by
  generalize hfailed : (Except.error err : Except SolveError Solution) = outcome at h
  induction h with
  | last => cases hfailed
  | fails h => exact .fails h
  | holds => cases hfailed
  | passes h hfalse _ ih => exact .passes h hfalse (ih hfailed)

/-- What is true before further operands decides. -/
theorem append_true (h : SolvesFirst app scope ledger es (.ok solution) middle)
    (htrue : solution.value.isTruthy.run middle = (true, after)) (more : List Expr) :
    SolvesFirst app scope ledger (es ++ more) (.ok solution) after := by
  have hreads : middle.Extends Event.IsRead after := by
    have happends := Value.appends_isTruthy solution.value.permits_isRead middle
    rwa [htrue] at happends
  generalize hvalue : (Except.ok solution : Except SolveError Solution) = outcome at h
  induction h with
  | last h =>
    cases hvalue
    exact .holds h (congrArg Prod.fst htrue) hreads
  | fails => cases hvalue
  | holds h htrue' hreads' =>
    cases hvalue
    exact .holds h htrue' (hreads'.trans hreads)
  | passes h hfalse _ ih => exact .passes h hfalse (ih htrue hreads hvalue)

/-- What is false before further operands leaves it to them. -/
theorem append_false (huncopied : ∀ e ∈ es, ∀ handle, e.Uncopied scope handle →
      handle.source ≠ .singlePass)
    (h : SolvesFirst app scope ledger es (.ok solution) middle)
    (hfalse : solution.value.isTruthy.run middle = (false, next))
    (hmore : SolvesFirst app scope next more outcome after) :
    SolvesFirst app scope ledger (es ++ more) outcome after := by
  generalize hvalue : (Except.ok solution : Except SolveError Solution) = outcome' at h
  induction h with
  | last h =>
    cases hvalue
    exact .passes h hfalse hmore
  | fails => cases hvalue
  | @holds _ _ _ e _ solution h htrue _ =>
    -- the operand was true before, and it would be true again
    cases hvalue
    have htruth := ensures_isTruthy_of_solve (huncopied e (by simp)) h
    have hfalse' : (solution.value.isTruthy.run _).1 = false := congrArg Prod.fst hfalse
    rw [htruth] at htrue hfalse'
    rw [htrue] at hfalse'
    cases hfalse'
  | passes h hfalse' _ ih =>
    exact .passes h hfalse' (ih (fun e he => huncopied e (by simp [he])) hfalse hvalue)

end SolvesFirst

variable {app : Application} {scope : Value} {t : Expr} {es : List Expr}

/-- **Solving a tree of disjunctions solves its operands in order.** -/
theorem solvesFirst_of_disjoins (h : t.Disjoins es)
    (huncopied : ∀ e ∈ es, ∀ handle, e.Uncopied scope handle → handle.source ≠ .singlePass)
    {ledger after : Ledger} {outcome : Except SolveError Solution}
    (hrun : (solve app t scope).run ledger = (outcome, after)) :
    SolvesFirst app scope ledger es (outcome.map (Solution.credit t)) after := by
  induction h generalizing ledger after outcome with
  | operand e =>
    cases outcome with
    | error err => exact .fails hrun
    | ok solution => exact .last hrun
  | @or left right lefts rights _ _ ihLeft ihRight =>
    rw [List.forall_mem_append] at huncopied
    rcases hleft : (solve app left scope).run ledger with ⟨err | first, middle⟩
    · rw [solve, run_bind_of_error hleft] at hrun
      cases hrun
      exact (ihLeft huncopied.1 hleft).append_error rights
    have hfirst := ihLeft huncopied.1 hleft
    rcases htruth : first.value.isTruthy.run middle with ⟨_ | _, next⟩
    · rw [solve, run_bind_of_ok hleft, run_lift_bind, htruth, if_neg Bool.false_ne_true] at hrun
      refine hfirst.append_false huncopied.1 htruth ?_
      rcases hright : (solve app right scope).run next with ⟨err | second, last⟩
      · rw [run_bind_of_error hright] at hrun
        cases hrun
        exact ihRight huncopied.2 hright
      · rw [run_bind_of_ok hright] at hrun
        cases hrun
        exact ihRight huncopied.2 hright
    · rw [solve, run_bind_of_ok hleft, run_lift_bind, htruth, if_pos rfl] at hrun
      cases hrun
      exact hfirst.append_true htruth rights

/-- A tree of several operands comes to a solution with a branch. -/
theorem map_credit_of_disjoins (h : t.Disjoins es) (hcount : 2 ≤ es.length)
    {ledger after : Ledger} {outcome : Except SolveError Solution}
    (hrun : (solve app t scope).run ledger = (outcome, after)) :
    outcome.map (Solution.credit t) = outcome := by
  cases h with
  | operand => simp at hcount
  | or =>
    cases outcome with
    | error => rfl
    | ok solution =>
      rcases solve_or_eq_ok hrun with ⟨_, _, _, _, rfl⟩ | ⟨_, _, _, _, rfl⟩ <;> rfl

/-- **The grouping of a disjunction makes no difference.**  However two or more operands are put
together, they are solved in order up to the first that fails or is true or up to the last one, and
the tree fails with it or has its value, with its branch or the operand itself for a branch.  So
every tree over the same operands comes to the same solution.  What it takes is that no
superposition that an operand can come to without a copy is single-pass. -/
theorem solve_disjunction (app : Application) {t : Expr} {es : List Expr} {scope : Value}
    (h : t.Disjoins es) (hcount : 2 ≤ es.length)
    (huncopied : ∀ e ∈ es, ∀ handle, e.Uncopied scope handle → handle.source ≠ .singlePass)
    (ledger : Ledger) :
    ∃ outcome after, (solve app t scope).run ledger = (outcome, after) ∧
      SolvesFirst app scope ledger es outcome after ∧
      ∀ t', Disjoins t' es → ((solve app t' scope).run ledger).1 = outcome := by
  have hsolves : ∀ t, Disjoins t es → SolvesFirst app scope ledger es
      ((solve app t scope).run ledger).1 ((solve app t scope).run ledger).2 := by
    intro t h
    have hrun := (Prod.eta ((solve app t scope).run ledger)).symm
    have hfirst := solvesFirst_of_disjoins h huncopied hrun
    rwa [map_credit_of_disjoins h hcount hrun] at hfirst
  exact ⟨_, _, rfl, hsolves t h, fun t' h' => (hsolves t' h').unique (hsolves t h)⟩

/-- The exception: a single-pass superposition in a literal is found to be true and asked again by
the grouping to the left, which then goes on to the next operand. -/
example :
    let once := Expr.literal (.superposition ⟨0, .singlePass⟩ [.integer 1])
    let zero := Expr.literal (.integer 0)
    let three := Expr.literal (.integer 3)
    ((solve .standard (.or (.or once zero) three) .null).run ⟨1, []⟩).1 =
        .ok ⟨.integer 3, some three⟩ ∧
      ((solve .standard (.or once (.or zero three)) .null).run ⟨1, []⟩).1 =
        .ok ⟨.superposition ⟨0, .singlePass⟩ [.integer 1], some once⟩ :=
  ⟨rfl, rfl⟩

/-- In what can be read again, no superposition is single-pass. -/
theorem IsReadable.not_singlePass_of_uncopied {e : Expr} (he : e.IsReadable)
    (hscope : scope.IsReadable) {handle : Handle} (h : e.Uncopied scope handle) :
    handle.source ≠ .singlePass := by
  rcases h with h | ⟨v, hv, h⟩
  · exact hscope handle (Value.stacked_subset scope h)
  · refine he v hv handle ?_
    exact List.append_subset.2 ⟨Value.outermost_subset v, Value.stacked_subset v⟩ h

/-- **Where everything can be read again, the grouping of a disjunction makes no difference**,
whatever superpositions the scope and the operands hold and however they are nested. -/
theorem solve_disjunction_of_isReadable (app : Application) {t : Expr} {es : List Expr}
    {scope : Value} (hscope : scope.IsReadable) (hoperands : ∀ e ∈ es, e.IsReadable)
    (h : t.Disjoins es) (hcount : 2 ≤ es.length) (ledger : Ledger) :
    ∃ outcome after, (solve app t scope).run ledger = (outcome, after) ∧
      SolvesFirst app scope ledger es outcome after ∧
      ∀ t', Disjoins t' es → ((solve app t' scope).run ledger).1 = outcome := by
  refine solve_disjunction app h hcount ?_ ledger
  intro e he handle huncopied
  exact (hoperands e he).not_singlePass_of_uncopied hscope huncopied

/-- The first field is a superposition that another one stands for, so that it is not copied, and it
is asked once or twice. -/
theorem solve_disjunction_relayed :
    let f := Expr.field ⟨["f"]⟩
    let g := Expr.field ⟨["g"]⟩
    let three := Expr.literal (.integer 3)
    relayed.IsReadable ∧ (∀ e ∈ [f, g, three], e.IsReadable) ∧
      ∃ outcome after, (solve .standard (.or (.or f g) three) relayed).run ⟨2, []⟩ =
          (outcome, after) ∧
        SolvesFirst .standard relayed ⟨2, []⟩ [f, g, three] outcome after ∧
        ((solve .standard (.or f (.or g three)) relayed).run ⟨2, []⟩).1 = outcome := by
  intro f g three
  have hscope : relayed.IsReadable := by simp [relayed]
  have hoperands : ∀ e ∈ [f, g, three], e.IsReadable := by simp [f, g, three]
  have hleft : Disjoins (.or (.or f g) three) [f, g, three] :=
    .or (.or (.operand f) (.operand g)) (.operand three)
  have hright : Disjoins (.or f (.or g three)) [f, g, three] :=
    .or (.operand f) (.or (.operand g) (.operand three))
  obtain ⟨outcome, after, hrun, hsolves, hsame⟩ :=
    solve_disjunction_of_isReadable .standard hscope hoperands hleft (by simp) ⟨2, []⟩
  exact ⟨hscope, hoperands, outcome, after, hrun, hsolves, hsame _ hright⟩

end Expr

end FieldQuery
