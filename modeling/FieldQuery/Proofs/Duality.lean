import FieldQuery.Proofs.Composition
import FieldQuery.Proofs.Kinds

/-!
# Moving negations inwards

The negation of a quantifier is the other quantifier of the negated condition, and the negation of
a chain is the other chain of the negated operands.  Both sides come to the same and read the
same, one read after another.

There is one exception.  A disjunction has the value of the operand that decides it, and whoever
negates the disjunction asks for the truth of this value again, while the other side has a truth
value by then.  Nobody notices if the value was copied, but a superposition that is a candidate of
another one, or a literal, is what an expression can come to without having been copied.

* `Value.stacked` — the superpositions that are candidates somewhere in a value.
* `Expr.Uncopied` — the superpositions that an expression can come to without a copy.
* `Expr.yields_solve_surfaces` — it comes to no other superpositions of the application.
* `Expr.accord_quantified`, `Expr.accord_and` — the two sides have opposite truth values.
* `Expr.solve_dual` — what the negations come to.
* `Expr.reads_not_or_ne` — where the exception is noticed.
-/

namespace FieldQuery

open Reading Judging

/-! ## Superpositions without a copy -/

namespace Value

mutual

/-- The handles of the superpositions that are candidates of superpositions somewhere in a value.
The elements of arrays and the values of fields are not among them. -/
def stacked : Value → List Handle
  | .array items => itemsStacked items
  | .object fields => fieldsStacked fields
  | .record _ _ fields => fieldsStacked fields
  | .superposition _ candidates => candidates.flatMap outermost ++ itemsStacked candidates
  | _ => []

/-- The handles of the superpositions that are candidates somewhere in some values. -/
def itemsStacked : List Value → List Handle
  | [] => []
  | v :: vs => stacked v ++ itemsStacked vs

/-- The handles of the superpositions that are candidates somewhere in some named values. -/
def fieldsStacked : List (String × Value) → List Handle
  | [] => []
  | (_, v) :: fields => stacked v ++ fieldsStacked fields

end

theorem outermost_subset (v : Value) : v.outermost ⊆ v.handles := by
  cases v with
  | superposition handle candidates => simp [outermost, handles]
  | _ => exact List.nil_subset _

theorem flatMap_outermost_subset (vs : List Value) : vs.flatMap outermost ⊆ itemHandles vs := by
  induction vs with
  | nil => exact List.Subset.refl _
  | cons v vs ih =>
    rw [List.flatMap_cons, itemHandles]
    exact List.append_subset.2
      ⟨List.Subset.trans (outermost_subset v) (List.subset_append_left _ _),
        List.Subset.trans ih (List.subset_append_right _ _)⟩

mutual

theorem stacked_subset : (v : Value) → v.stacked ⊆ v.handles
  | .array items => itemsStacked_subset items
  | .object fields => fieldsStacked_subset fields
  | .record _ _ fields => fieldsStacked_subset fields
  | .superposition _ candidates =>
    List.Subset.trans (List.append_subset.2 ⟨flatMap_outermost_subset candidates,
      itemsStacked_subset candidates⟩) (List.subset_cons_self _ _)
  | .null | .boolean _ | .integer _ | .float _ | .string _ => List.Subset.refl _

theorem itemsStacked_subset : (vs : List Value) → itemsStacked vs ⊆ itemHandles vs
  | [] => List.Subset.refl _
  | v :: vs => List.append_subset.2
      ⟨List.Subset.trans (stacked_subset v) (List.subset_append_left _ _),
        List.Subset.trans (itemsStacked_subset vs) (List.subset_append_right _ _)⟩

theorem fieldsStacked_subset :
    (fields : List (String × Value)) → fieldsStacked fields ⊆ fieldHandles fields
  | [] => List.Subset.refl _
  | (_, v) :: fields => List.append_subset.2
      ⟨List.Subset.trans (stacked_subset v) (List.subset_append_left _ _),
        List.Subset.trans (fieldsStacked_subset fields) (List.subset_append_right _ _)⟩

end

section

variable (ok : Handle → Prop) (v : Value)

/-- Every superposition that is a candidate somewhere in the value is of a kind. -/
def Stacks : Prop :=
  ∀ handle ∈ v.stacked, ok handle

/-- So is the value itself if it is a superposition. -/
def Surfaces : Prop :=
  ∀ handle ∈ v.outermost ++ v.stacked, ok handle

end

variable {ok : Handle → Prop} {v w : Value}

theorem Surfaces.stacks (h : v.Surfaces ok) : v.Stacks ok :=
  fun handle hhandle => h handle (List.mem_append_right _ hhandle)

theorem Stacks.surfaces (h : v.Stacks ok) (hsingle : v.IsSingle) : v.Surfaces ok := by
  cases v with
  | superposition => exact absurd rfl (hsingle _ _)
  | _ => exact h

theorem stacks_superposition {handle : Handle} {candidates : List Value} :
    (Value.superposition handle candidates).Stacks ok ↔ ∀ c ∈ candidates, c.Surfaces ok := by
  have hitems (vs : List Value) :
      (∀ handle ∈ itemsStacked vs, ok handle) ↔ ∀ c ∈ vs, c.Stacks ok := by
    induction vs with
    | nil => simp [itemsStacked]
    | cons c cs ih => rw [itemsStacked, List.forall_mem_append, ih, List.forall_mem_cons, Stacks]
  unfold Stacks Surfaces
  rw [stacked, List.forall_mem_append, hitems, List.forall_mem_flatMap]
  simp only [List.forall_mem_append, Stacks, forall_and]

theorem surfaces_superposition {handle : Handle} {candidates : List Value} :
    (Value.superposition handle candidates).Surfaces ok ↔
      ok handle ∧ ∀ c ∈ candidates, c.Surfaces ok :=
  List.forall_mem_cons.trans (and_congr_right' stacks_superposition)

theorem surfaces_of_handles (h : v.handles = []) : v.Surfaces ok := by
  have hstacks : v.Stacks ok := by
    intro handle hhandle
    have hmem := stacked_subset v hhandle
    rw [h] at hmem
    exact absurd hmem List.not_mem_nil
  refine hstacks.surfaces ?_
  rintro handle candidates rfl
  simp [handles] at h

@[simp] theorem surfaces_null : Value.null.Surfaces ok :=
  surfaces_of_handles rfl

@[simp] theorem surfaces_boolean (b : Bool) : (Value.boolean b).Surfaces ok :=
  surfaces_of_handles rfl

/-! ### Following paths -/

theorem stacked_sublist_of_lookup {name : String} {fields : List (String × Value)}
    (h : lookup name fields = some v) : v.stacked.Sublist (fieldsStacked fields) := by
  induction fields with
  | nil => simp [lookup] at h
  | cons field fields ih =>
    obtain ⟨key, w⟩ := field
    unfold lookup at h
    split at h
    · obtain rfl := Option.some.inj h
      exact List.sublist_append_left _ _
    · exact (ih h).trans (List.sublist_append_right _ _)

theorem Stacks.next? {name : String} (hv : v.Stacks ok) (h : v.next? name = some w) :
    w.Stacks ok := by
  have hsublist : w.stacked.Sublist v.stacked := by
    obtain rfl | ⟨fields, hfound, rfl | ⟨identity, typeName, rfl⟩⟩ := next?_cases h
    · exact List.Sublist.refl _
    · exact stacked_sublist_of_lookup hfound
    · exact stacked_sublist_of_lookup hfound
  exact fun handle hhandle => hv handle (hsublist.subset hhandle)

/-- What is followed and copied surfaces as the superpositions that were stacked. -/
theorem carries_surfaces (howned : ∀ i, ok ⟨i, .owned⟩) : Carries (Stacks ok) (Surfaces ok) where
  context_of_result _ := Surfaces.stacks
  result_of_isSingle _ hsingle h := h.surfaces hsingle
  null := surfaces_null
  next? := Stacks.next?
  candidates := stacks_superposition.1
  made i _ _ h := surfaces_superposition.2 ⟨howned i, h⟩

end Value

/-! ## Opposite truth values -/

/-- The solutions are opposite truth values. -/
def Solution.Opposite (s s' : Solution) : Prop :=
  ∃ b : Bool, s.value = .boolean b ∧ s'.value = .boolean !b

/-- The solutions are one truth value. -/
def Solution.SameBool (s s' : Solution) : Prop :=
  ∃ b : Bool, s.value = .boolean b ∧ s'.value = .boolean b

open Solution

namespace Solving

/-- The negation of a solution. -/
def negated (m : Solving Solution) : Solving Solution := do
  let solution ← m
  return .plainBool !(← solution.value.isTruthy)

/-- A truth value is asked for its truth without reading. -/
theorem truth_of_boolean {β : Type} {v : Value} {b : Bool} (h : v = .boolean b)
    (f : Bool → Solving β) : (liftM v.isTruthy >>= f) = f b := by
  subst h
  rfl

@[simp] theorem truth_plainBool {β : Type} (b : Bool) (f : Bool → Solving β) :
    (liftM (plainBool b).value.isTruthy >>= f) = f b :=
  truth_of_boolean rfl f

end Solving

namespace Quantifier

/-- The quantifier for negated conditions. -/
def dual : Quantifier → Quantifier
  | .any => .each
  | .each => .any

theorem decided_dual (quantifier : Quantifier) : quantifier.dual.decided = !quantifier.decided := by
  cases quantifier <;> rfl

theorem decidedBy_dual (quantifier : Quantifier) (holds : Bool) :
    quantifier.dual.decidedBy (!holds) = quantifier.decidedBy holds := by
  cases quantifier <;> simp [dual, decidedBy]

variable {quantifier : Quantifier} {solveBody : Value → Solving Solution} {body body' : Expr}

/-- Candidate by candidate, a condition decides the quantifier when its negation decides the dual
one. -/
theorem accord_run {take : Reading Unit} (htake : Composed take)
    (hbody : ∀ c, Composed (solveBody c).run) (index : Nat) (candidates : List Value) :
    Accord Opposite (quantifier.run take solveBody body index candidates)
      (quantifier.dual.run take (fun c => Solving.negated (solveBody c)) body' index
        candidates) := by
  induction candidates generalizing index with
  | nil =>
    refine accord_pure ⟨!quantifier.decided, rfl, ?_⟩
    rw [decided_dual]
    rfl
  | cons c cs ih =>
    rw [run, run]
    refine accord_lift htake.inStep fun _ _ _ => ?_
    rw [Solving.negated, bind_assoc]
    refine (accord_of_composed (hbody c)).bind ?_
    rintro solution _ rfl
    refine accord_note_left id ?_
    rw [bind_assoc]
    refine accord_lift (composed_isTruthy solution.value).inStep ?_
    rintro holds _ rfl
    rw [pure_bind]
    refine accord_note_right id ?_
    rw [Solving.truth_plainBool, decidedBy_dual]
    split
    · refine accord_pure ⟨quantifier.decided, rfl, ?_⟩
      rw [decided_dual]
    · exact ih _

theorem accord_across (hbody : ∀ c, Composed (solveBody c).run) (v : Value) :
    Accord Opposite (quantifier.across solveBody body v)
      (quantifier.dual.across (fun c => Solving.negated (solveBody c)) body' v) := by
  rcases Value.isSingle_or v with hsingle | ⟨handle, candidates, rfl⟩
  · rw [across_of_isSingle hsingle, across_of_isSingle hsingle]
    exact accord_run (.pure _) hbody 0 _
  · unfold across
    refine accord_lift (Composed.ask handle).inStep ?_
    rintro answer _ rfl
    split <;> exact accord_run (composed_take handle) hbody 0 _

end Quantifier

namespace Expr

variable (app : Application)

theorem solve_not (operand : Expr) (scope : Value) :
    solve app (.not operand) scope = Solving.negated (solve app operand scope) := by
  rw [solve]
  rfl

/-- **A quantifier and the dual one of the negated condition have opposite truth values.** -/
theorem accord_quantified (quantifier : Quantifier) (context body : Expr) (scope : Value) :
    Accord Opposite (solve app (.quantified quantifier context body) scope)
      (solve app (.quantified quantifier.dual context (.not body)) scope) := by
  have hnot : solve app (.not body) = fun c => Solving.negated (solve app body c) :=
    funext fun c => solve_not app body c
  rw [solve_quantified, solve_quantified, hnot]
  refine (accord_of_composed (composed_subject app (composed_solve app context scope))).bind ?_
  rintro v _ rfl
  exact Quantifier.accord_across (composed_solve app body) v

/-- **A conjunction and the disjunction of the negated operands have opposite truth values.** -/
theorem accord_and (left right : Expr) (scope : Value) :
    Accord Opposite (solve app (.and left right) scope)
      (solve app (.or (.not left) (.not right)) scope) := by
  rw [solve, solve, solve_not, solve_not, Solving.negated, bind_assoc]
  refine (accord_of_composed (composed_solve app left scope)).bind ?_
  rintro first _ rfl
  rw [bind_assoc]
  refine accord_lift (composed_isTruthy first.value).inStep ?_
  rintro holds _ rfl
  rw [pure_bind, Solving.truth_plainBool]
  cases holds with
  | false => exact accord_pure ⟨false, rfl, rfl⟩
  | true =>
    rw [if_pos rfl, if_neg (by simp), Solving.negated, bind_assoc]
    refine (accord_of_composed (composed_solve app right scope)).bind ?_
    rintro second _ rfl
    rw [bind_assoc]
    refine accord_lift (composed_isTruthy second.value).inStep ?_
    rintro holds _ rfl
    exact accord_pure ⟨holds, rfl, rfl⟩

variable {app}

/-- The negation of one of two opposite truth values is the other one. -/
theorem accord_not {e e' : Expr} {scope : Value}
    (h : Accord Opposite (solve app e scope) (solve app e' scope)) :
    Accord SameBool (solve app (.not e) scope) (solve app e' scope) := by
  rw [solve_not, Solving.negated, ← bind_pure (solve app e' scope)]
  refine h.bind ?_
  rintro s s' ⟨b, hs, hs'⟩
  rw [Solving.truth_of_boolean hs]
  exact accord_pure ⟨!b, rfl, hs'⟩

/-! ## What an expression comes to -/

/-- Can a superposition be what the expression comes to in a context, without having been copied?
This is so for a candidate of another superposition, and for a literal. -/
def Uncopied (e : Expr) (scope : Value) (handle : Handle) : Prop :=
  handle ∈ scope.stacked ∨ ∃ v, .literal v ∈ e.parts ∧ handle ∈ v.outermost ++ v.stacked

section

variable {ok : Handle → Prop}

/-- Every superposition that is a literal, or a candidate somewhere in one, is of a kind. -/
def LiteralsSurface (ok : Handle → Prop) (e : Expr) : Prop :=
  ∀ v, .literal v ∈ e.parts → v.Surfaces ok

theorem preserves_surfaces (howned : ∀ i, ok ⟨i, .owned⟩) :
    Preserves (Value.Stacks ok) (Value.Surfaces ok) :=
  (Value.carries_surfaces howned).preserves Value.surfaces_boolean fun _ hcomputed =>
    Value.surfaces_of_handles hcomputed.handles

/-- **What an expression comes to was copied, or it is a superposition that was uncopied.** -/
theorem yields_solve_surfaces (howned : ∀ i, ok ⟨i, .owned⟩) {e : Expr}
    (he : e.LiteralsSurface ok) {scope : Value} (hscope : scope.Stacks ok) :
    Yields (fun solution => solution.value.Surfaces ok) (solve app e scope) :=
  (preserves_surfaces howned).yields_solve he hscope

end

end Expr

/-! ## Negated disjunctions -/

namespace Value

/-- A value that is true is true again if it can be read again.  A superposition of the
application is asked again, and a candidate of it taken. -/
theorem isTruthy_again {v : Value} {ledger ledger' : Ledger}
    (hv : ∀ handle ∈ v.outermost, handle.source ≠ .singlePass)
    (h : v.isTruthy.run ledger = (true, ledger')) :
    v.isTruthy.run ledger' = (true, ledger') ∨
      ∃ handle ∈ v.outermost, handle.source = .supplied ∧ v.isTruthy.run ledger' =
        (true, (ledger'.note (.asked handle.identity)).note (.taken handle.identity)) := by
  cases v with
  | superposition handle candidates =>
    obtain ⟨i, source⟩ := handle
    have hsource : source ≠ .singlePass := hv ⟨i, source⟩ (List.mem_singleton_self _)
    cases source with
    | singlePass => exact absurd rfl hsource
    | owned =>
      cases candidates with
      | nil => cases h
      | cons c cs => exact .inl rfl
    | supplied =>
      cases candidates with
      | nil => cases h
      | cons c cs => exact .inr ⟨_, List.mem_singleton_self _, rfl, rfl⟩
  | _ =>
    have hanswer := congrArg Prod.fst h
    exact .inl (Prod.ext hanswer rfl)

end Value

namespace Solving

/-- From a ledger on, two computations come to the same truth value or fail in the same way. -/
def SameAnswer (ledger : Ledger) (m m' : Solving Solution) : Prop :=
  ∃ answer : Except SolveError Bool, (m.run ledger).1.map Solution.value = answer.map .boolean ∧
    (m'.run ledger).1.map Solution.value = answer.map .boolean

/-- From a ledger on, two computations come to the same truth value or fail in the same way, and
they read the same candidates of the same superpositions in the same order. -/
structure Interchangeable (ledger : Ledger) (m m' : Solving Solution) : Prop where
  /-- The answer is the same. -/
  answer : SameAnswer ledger m m'
  /-- So are the reads. -/
  reads : (m.run ledger).2.reads = (m'.run ledger).2.reads

variable {m m' : Solving Solution} {ledger : Ledger}

theorem sameAnswer_of_run (answer : Except SolveError Bool) {after after' : Ledger}
    (h : m.run ledger = (answer.map .plainBool, after))
    (h' : m'.run ledger = (answer.map .plainBool, after')) : SameAnswer ledger m m' := by
  refine ⟨answer, ?_, ?_⟩
  · rw [h]
    cases answer <;> rfl
  · rw [h']
    cases answer <;> rfl

/-- Each superposition is asked as often, and as many of its candidates are taken. -/
theorem Interchangeable.asks_takes_eq (h : Interchangeable ledger m m') (i : Identity) :
    (m.run ledger).2.asks i = (m'.run ledger).2.asks i ∧
      (m.run ledger).2.takes i = (m'.run ledger).2.takes i :=
  ⟨Ledger.asks_eq_of_reads h.reads i, Ledger.takes_eq_of_reads h.reads i⟩

theorem interchangeable_of_accord (h : Accord SameBool m m') : Interchangeable ledger m m' := by
  have hanswer : ∀ {x y : Except SolveError Solution}, Outcomes SameBool x y →
      ∃ answer : Except SolveError Bool, x.map Solution.value = answer.map .boolean ∧
        y.map Solution.value = answer.map .boolean := by
    rintro _ _ (⟨b, hs, hs'⟩ | e)
    · exact ⟨.ok b, congrArg Except.ok hs, congrArg Except.ok hs'⟩
    · exact ⟨.error e, rfl, rfl⟩
  obtain ⟨houtcomes, hsame⟩ := h ledger ledger (Ledger.sameReads_refl ledger)
  exact ⟨hanswer houtcomes, hsame.reads⟩

end Solving

open Solving

namespace Expr

variable {app : Application} {left right : Expr} {scope : Value} {ledger : Ledger}

theorem run_not {operand : Expr} {solution : Solution} {middle after : Ledger} {holds : Bool}
    (hsolve : (solve app operand scope).run ledger = (.ok solution, middle))
    (htruth : solution.value.isTruthy.run middle = (holds, after)) :
    (solve app (.not operand) scope).run ledger = (.ok (.plainBool !holds), after) := by
  rw [solve, run_bind_of_ok hsolve, run_lift_bind, htruth]
  rfl

theorem run_not_of_error {operand : Expr} {e : SolveError} {after : Ledger}
    (hsolve : (solve app operand scope).run ledger = (.error e, after)) :
    (solve app (.not operand) scope).run ledger = (.error e, after) := by
  rw [solve, run_bind_of_error hsolve]

/-- A negated disjunction and the conjunction of the negated operands run alike, unless the left
operand is true: then the disjunction asks for its truth once more. -/
theorem run_not_or (left right : Expr) (scope : Value) (ledger : Ledger) :
    (∃ first middle after, (solve app left scope).run ledger = (.ok first, middle) ∧
      first.value.isTruthy.run middle = (true, after) ∧
      (solve app (.and (.not left) (.not right)) scope).run ledger =
        (.ok (.plainBool false), after) ∧
      ∀ holds last, first.value.isTruthy.run after = (holds, last) →
        (solve app (.not (.or left right)) scope).run ledger = (.ok (.plainBool !holds), last)) ∨
    ∃ (answer : Except SolveError Bool) (after : Ledger),
      (solve app (.not (.or left right)) scope).run ledger = (answer.map .plainBool, after) ∧
      (solve app (.and (.not left) (.not right)) scope).run ledger =
        (answer.map .plainBool, after) := by
  rcases hleft : (solve app left scope).run ledger with ⟨e | first, middle⟩
  · refine .inr ⟨.error e, middle, run_not_of_error ?_, ?_⟩
    · rw [solve, run_bind_of_error hleft]
    · rw [solve, run_bind_of_error (run_not_of_error hleft)]
      rfl
  rcases htruth : first.value.isTruthy.run middle with ⟨_ | _, after⟩
  · -- the left operand is false, so that the right one decides
    rcases hright : (solve app right scope).run after with ⟨e | second, last⟩
    · refine .inr ⟨.error e, last, run_not_of_error ?_, ?_⟩
      · rw [solve, run_bind_of_ok hleft, run_lift_bind, htruth]
        exact run_bind_of_error hright
      · rw [solve, run_bind_of_ok (run_not hleft htruth), truth_plainBool, if_pos (Bool.not_false)]
        exact run_bind_of_error (run_not_of_error hright)
    · rcases hsecond : second.value.isTruthy.run last with ⟨holds, final⟩
      refine .inr ⟨.ok !holds, final, ?_, ?_⟩
      · have hor : (solve app (.or left right) scope).run ledger =
            (.ok ⟨second.value, some (second.branch.getD right)⟩, last) := by
          rw [solve, run_bind_of_ok hleft, run_lift_bind, htruth]
          exact run_bind_of_ok hright
        exact run_not hor hsecond
      · rw [solve, run_bind_of_ok (run_not hleft htruth), truth_plainBool, if_pos (Bool.not_false)]
        exact run_bind_of_ok (run_not hright hsecond)
  · refine .inl ⟨first, middle, after, rfl, htruth, ?_, fun holds last hagain => ?_⟩
    · rw [solve, run_bind_of_ok (run_not hleft htruth)]
      rfl
    · have hor : (solve app (.or left right) scope).run ledger =
          (.ok ⟨first.value, some (first.branch.getD left)⟩, after) := by
        rw [solve, run_bind_of_ok hleft, run_lift_bind, htruth]
        rfl
      exact run_not hor hagain

/-- An expression comes to a copy, or to a superposition that it can come to without one. -/
theorem owned_or_uncopied {e : Expr} {solution : Solution} {after : Ledger}
    (h : (solve app e scope).run ledger = (.ok solution, after)) :
    ∀ handle ∈ solution.value.outermost, handle.source = .owned ∨ e.Uncopied scope handle := by
  have hsurfaces : solution.value.Surfaces
      (fun handle => handle.source = .owned ∨ e.Uncopied scope handle) := by
    refine yields_solve_surfaces (fun _ => .inl rfl) (fun v hv handle hhandle => ?_)
      (fun handle hhandle => ?_) ledger solution (congrArg Prod.fst h)
    · exact .inr (.inr ⟨v, hv, hhandle⟩)
    · exact .inr (.inl hhandle)
  exact fun handle hhandle => hsurfaces handle (List.mem_append_left _ hhandle)

/-- **Negations move inwards.**  The negation of a quantifier is the dual one of the negated
condition, and the negation of a conjunction is the disjunction of the negated operands: whatever
the scope and the application, the answers and the reads are the same.  The negation of a
disjunction is the conjunction of the negated operands, if no superposition that the left operand
can come to without a copy is single-pass.  The answers are the same then, and so are the reads
unless the left operand does come to such a superposition, which is read once more. -/
theorem solve_dual (app : Application) (context body left right : Expr) (scope : Value)
    (ledger : Ledger) :
    Interchangeable ledger (solve app (.not (.quantified .any context body)) scope)
        (solve app (.quantified .each context (.not body)) scope) ∧
      Interchangeable ledger (solve app (.not (.quantified .each context body)) scope)
        (solve app (.quantified .any context (.not body)) scope) ∧
      Interchangeable ledger (solve app (.not (.and left right)) scope)
        (solve app (.or (.not left) (.not right)) scope) ∧
      ((∀ handle, left.Uncopied scope handle → handle.source ≠ .singlePass) →
        let negated := solve app (.not (.or left right)) scope
        let moved := solve app (.and (.not left) (.not right)) scope
        SameAnswer ledger negated moved ∧
          ((negated.run ledger).2.reads = (moved.run ledger).2.reads ∨
            ∃ handle, left.Uncopied scope handle ∧ handle.source = .supplied ∧
              (negated.run ledger).2.reads = .taken handle.identity :: .asked handle.identity ::
                (moved.run ledger).2.reads)) := by
  refine ⟨?any, ?each, ?and, ?or⟩
  case any =>
    exact interchangeable_of_accord (accord_not (accord_quantified app .any context body scope))
  case each =>
    exact interchangeable_of_accord (accord_not (accord_quantified app .each context body scope))
  case and =>
    exact interchangeable_of_accord (accord_not (accord_and app left right scope))
  case or =>
    intro huncopied
    dsimp only
    rcases run_not_or left right scope ledger with
      ⟨first, middle, after, hleft, htruth, hmoved, hnegated⟩ | ⟨answer, after, hnegated, hmoved⟩
    · -- the left operand is true, and its truth is asked for once more
      have hcopied := owned_or_uncopied hleft
      have hreadable : ∀ handle ∈ first.value.outermost, handle.source ≠ .singlePass := by
        intro handle hhandle
        rcases hcopied handle hhandle with howned | hhandle
        · rw [howned]
          decide
        · exact huncopied handle hhandle
      rcases Value.isTruthy_again hreadable htruth with hagain | ⟨handle, hhandle, hsupplied, hagain⟩
      · have hnegated := hnegated _ _ hagain
        exact ⟨sameAnswer_of_run (.ok false) hnegated hmoved, .inl (by rw [hnegated, hmoved])⟩
      · have hnegated := hnegated _ _ hagain
        refine ⟨sameAnswer_of_run (.ok false) hnegated hmoved, .inr ⟨handle, ?_, hsupplied, ?_⟩⟩
        · exact (hcopied handle hhandle).resolve_left (by rw [hsupplied]; decide)
        · rw [hnegated, hmoved]
          simp [Ledger.reads_note, Event.IsRead]
    · exact ⟨sameAnswer_of_run answer hnegated hmoved, .inl (by rw [hnegated, hmoved])⟩

/-- Guests that are read once, and two fields beside them that are read once. -/
def guests : Value :=
  .object [("guests", .superposition ⟨0, .singlePass⟩
      [.object [("here", .boolean true)], .object [("here", .integer 0)]]),
    ("late", .superposition ⟨1, .singlePass⟩ [.integer 1, .integer 2]),
    ("lost", .superposition ⟨2, .singlePass⟩ [])]

theorem solve_dual_guests :
    let here := Expr.field ⟨["here"]⟩
    let late := Expr.field ⟨["late"]⟩
    let lost := Expr.field ⟨["lost"]⟩
    (∀ handle, late.Uncopied guests handle → handle.source ≠ .singlePass) ∧
      Interchangeable ⟨3, []⟩
        (solve .standard (.not (.quantified .each (.field ⟨["guests"]⟩) here)) guests)
        (solve .standard (.quantified .any (.field ⟨["guests"]⟩) (.not here)) guests) ∧
      SameAnswer ⟨3, []⟩ (solve .standard (.not (.or late lost)) guests)
        (solve .standard (.and (.not late) (.not lost)) guests) := by
  intro here late lost
  have huncopied : ∀ handle, late.Uncopied guests handle → handle.source ≠ .singlePass := by
    simp [Uncopied, late, parts, guests, Value.stacked, Value.fieldsStacked, Value.itemsStacked,
      Value.outermost]
  obtain ⟨-, heach, -, hor⟩ :=
    solve_dual .standard (.field ⟨["guests"]⟩) here late lost guests ⟨3, []⟩
  exact ⟨huncopied, heach, (hor huncopied).1⟩

/-- A superposition that another one stands for, which is its only candidate. -/
def relayed : Value :=
  .object [("f", .superposition ⟨0, .supplied⟩
    [.superposition ⟨1, .supplied⟩ [.integer 1, .integer 2]]), ("g", .boolean false)]

/-- The exception: nothing is single-pass, and there are no literals, but the negated disjunction
reads the inner superposition twice and the conjunction of the negated operands once. -/
theorem reads_not_or_ne :
    let f := Expr.field ⟨["f"]⟩
    let g := Expr.field ⟨["g"]⟩
    let negated := ((solve .standard (.not (.or f g)) relayed).run ⟨2, []⟩).2
    let moved := ((solve .standard (.and (.not f) (.not g)) relayed).run ⟨2, []⟩).2
    relayed.IsReadable ∧ (negated.asks 1 = 2 ∧ negated.takes 1 = 2) ∧
      moved.asks 1 = 1 ∧ moved.takes 1 = 1 := by
  refine ⟨?_, ⟨rfl, rfl⟩, rfl, rfl⟩
  simp [relayed]

end Expr

end FieldQuery
