import FieldQuery.Proofs.Composition
import FieldQuery.Proofs.SinglePass

/-!
# Quantifiers stop at what decides them

A quantifier over a field goes through the superposition that the field leads to, without a copy of
it.  The superposition is asked once, and candidates are taken one by one up to the first one that
decides the quantifier or for which the body fails.  Whatever other candidates there are, or if there
are none, makes no difference: any superposition that begins with the same candidates has the same
outcome.

* `Reading.Overlooks` — a reading does not read some superpositions.
* `Reading.Composed.replay` — what overlooks superpositions does not notice how they were read.
* `Value.Leads` — a path leads to a value through fields only.
* `Quantifier.Judges` — the candidates that a quantifier sees, and what it comes to.
* `Quantifier.Judges.run_eq`, `Quantifier.exists_judges` — that is what going through them does.
* `Quantifier.Judges.reads` — each candidate seen was taken once.
* `Quantifier.Judges.replay` — the same candidates of another superposition come to the same.
* `Expr.solve_quantified_lazy` — so a quantifier over a field depends on what it has seen.
-/

namespace FieldQuery

open Reading Judging

/-! ## Overlooking superpositions -/

/-- Is the event a read of one of these superpositions? -/
def Event.Reads (those : Identity → Prop) : Event → Prop
  | .asked i | .taken i => those i
  | _ => False

namespace Ledger

/-- The ledgers differ in nothing that a computation could notice which reads none of these
superpositions. -/
structure SameApart (those : Identity → Prop) (ledger ledger' : Ledger) : Prop where
  /-- The next free identity is the same. -/
  fresh : ledger.fresh = ledger'.fresh
  /-- Any other superposition was asked in both or in neither. -/
  wasAsked : ∀ i, ¬ those i → ledger.wasAsked i = ledger'.wasAsked i

variable {those : Identity → Prop} {ledger ledger' ledger'' : Ledger}

theorem sameApart_refl (ledger : Ledger) : ledger.SameApart those ledger :=
  ⟨rfl, fun _ _ => rfl⟩

theorem SameApart.symm (h : ledger.SameApart those ledger') : ledger'.SameApart those ledger :=
  ⟨h.fresh.symm, fun i hi => (h.wasAsked i hi).symm⟩

theorem SameApart.trans (h : ledger.SameApart those ledger')
    (h' : ledger'.SameApart those ledger'') : ledger.SameApart those ledger'' :=
  ⟨h.fresh.trans h'.fresh, fun i hi => (h.wasAsked i hi).trans (h'.wasAsked i hi)⟩

theorem SameApart.note (h : ledger.SameApart those ledger') (event : Event) :
    (ledger.note event).SameApart those (ledger'.note event) := by
  refine ⟨h.fresh, fun i hi => ?_⟩
  rw [Ledger.wasAsked, Ledger.wasAsked, Ledger.note, Ledger.note, List.any_cons, List.any_cons]
  exact congrArg _ (h.wasAsked i hi)

/-- Reads of these superpositions are not noticed. -/
theorem sameApart_note {event : Event} (hevent : event.Reads those) (ledger : Ledger) :
    ledger.SameApart those (ledger.note event) := by
  refine ⟨rfl, fun i hi => ?_⟩
  rw [Ledger.wasAsked, Ledger.wasAsked, Ledger.note, List.any_cons]
  cases event with
  | asked j =>
    have hne : (j == i) = false := beq_eq_false_iff_ne.2 fun hji => hi (hji ▸ hevent)
    simp only [hne, Bool.false_or]
  | taken j => rfl
  | _ => exact hevent.elim

/-- Where a superposition is not read, the counts of its reads stay as they are. -/
theorem Extends.counts_eq {i : Identity}
    (h : ledger.Extends (fun event => ¬ event.Reads (· = i)) ledger') :
    ledger'.asks i = ledger.asks i ∧ ledger'.takes i = ledger.takes i := by
  obtain ⟨new, hnew, hreads⟩ := h
  rw [asks, asks, takes, takes, hnew, List.countP_append, List.countP_append, Nat.add_eq_right,
    Nat.add_eq_right, List.countP_eq_zero, List.countP_eq_zero]
  constructor <;> intro event hevent <;> have hne := hreads event hevent <;>
    cases event <;> simp_all [Event.Reads]

end Ledger

namespace Reading

variable {α β : Type} {those others : Identity → Prop}

/-- None of these superpositions is read, whatever was read before. -/
def Overlooks (those : Identity → Prop) (m : Reading α) : Prop :=
  Appends (fun event => ¬ event.Reads those) m

/-- What overlooks some superpositions and others overlooks all of them. -/
theorem Overlooks.or {m : Reading α} (h : Overlooks those m) (h' : Overlooks others m) :
    Overlooks (fun i => those i ∨ others i) m := by
  intro ledger
  obtain ⟨new, hnew, hthose⟩ := h ledger
  obtain ⟨new', hnew', hothers⟩ := h' ledger
  obtain rfl : new = new' := List.append_cancel_right (hnew.symm.trans hnew')
  refine ⟨new, hnew, fun event hevent hreads => ?_⟩
  have hthose := hthose event hevent
  have hothers := hothers event hevent
  cases event with
  | asked i | taken i => exact hreads.elim hthose hothers
  | _ => exact hreads

theorem replay_ask {handle : Handle} {ledger ledger' : Ledger}
    (h : ledger.SameApart those ledger')
    (hoverlooks : ledger.Extends (fun event => ¬ event.Reads those) (handle.ask.run ledger).2) :
    (handle.ask.run ledger).1 = (handle.ask.run ledger').1 ∧
      (handle.ask.run ledger).2.SameApart those (handle.ask.run ledger').2 := by
  obtain ⟨i, source⟩ := handle
  cases source with
  | owned => exact ⟨rfl, h⟩
  | supplied => exact ⟨rfl, h.note _⟩
  | singlePass =>
    have hi : ¬ those i := by
      obtain ⟨new, hnew, havoids⟩ := hoverlooks
      obtain rfl : [Event.asked i] = new := List.append_cancel_right hnew
      exact havoids (.asked i) (List.mem_singleton_self _)
    refine ⟨?_, h.note _⟩
    show (!ledger.wasAsked i) = !ledger'.wasAsked i
    rw [h.wasAsked i hi]

/-- **What overlooks some superpositions does not notice how they were read.**  Where it reads none
of them from one state of the ledger, it finds the same from any state that differs in their reads
only. -/
theorem Composed.replay {m : Reading α} (h : Composed m) {ledger ledger' : Ledger}
    (hsame : ledger.SameApart those ledger')
    (hoverlooks : ledger.Extends (fun event => ¬ event.Reads those) (m.run ledger).2) :
    (m.run ledger).1 = (m.run ledger').1 ∧
      (m.run ledger).2.SameApart those (m.run ledger').2 := by
  induction h generalizing ledger ledger' with
  | pure a => exact ⟨rfl, hsame⟩
  | @bind _ _ m f first rest ihFirst ihRest =>
    obtain ⟨hfirst, hrest⟩ := hoverlooks.split (first.appends ledger)
      ((rest (m.run ledger).1).appends (m.run ledger).2)
    obtain ⟨hresult, hafter⟩ := ihFirst hsame hfirst
    show ((f (m.run ledger).1).run (m.run ledger).2).1 =
        ((f (m.run ledger').1).run (m.run ledger').2).1 ∧
      Ledger.SameApart those ((f (m.run ledger).1).run (m.run ledger).2).2
        ((f (m.run ledger').1).run (m.run ledger').2).2
    rw [← hresult]
    exact ihRest (m.run ledger).1 hafter hrest
  | note event => exact ⟨rfl, hsame.note event⟩
  | ask handle => exact replay_ask hsame hoverlooks
  | ofCandidates candidates =>
    match candidates with
    | [] | [_] => exact ⟨rfl, hsame⟩
    | c :: d :: cs =>
      refine ⟨?_, congrArg (· + 1) hsame.fresh, hsame.wasAsked⟩
      show Value.superposition ⟨ledger.fresh, .owned⟩ _ = .superposition ⟨ledger'.fresh, .owned⟩ _
      rw [hsame.fresh]

end Reading

/-! ## What a quantifier sees -/

namespace Handle

/-- The candidates that a superposition yields: none if it is single-pass and was asked before. -/
def yielded (handle : Handle) (ledger : Ledger) (candidates : List Value) : List Value :=
  if (handle.ask.run ledger).1 then candidates else []

theorem run_ask_of_ne {handle : Handle} (h : handle.source ≠ .owned) (ledger : Ledger) :
    (handle.ask.run ledger).2 = ledger.note (.asked handle.identity) := by
  obtain ⟨i, source⟩ := handle
  cases source with
  | owned => exact absurd rfl h
  | supplied | singlePass => rfl

theorem run_take_of_ne {handle : Handle} (h : handle.source ≠ .owned) (ledger : Ledger) :
    (handle.take.run ledger).2 = ledger.note (.taken handle.identity) := by
  obtain ⟨i, source⟩ := handle
  cases source with
  | owned => exact absurd rfl h
  | supplied | singlePass => rfl

theorem sameApart_ask {those : Identity → Prop} {handle : Handle} (h : those handle.identity)
    (ledger : Ledger) : ledger.SameApart those (handle.ask.run ledger).2 := by
  obtain ⟨i, source⟩ := handle
  have hreads : (Event.asked i).Reads those := h
  cases source with
  | owned => exact ledger.sameApart_refl
  | supplied | singlePass => exact Ledger.sameApart_note hreads ledger

theorem sameApart_take {those : Identity → Prop} {handle : Handle} (h : those handle.identity)
    (ledger : Ledger) : ledger.SameApart those (handle.take.run ledger).2 := by
  obtain ⟨i, source⟩ := handle
  have hreads : (Event.taken i).Reads those := h
  cases source with
  | owned => exact ledger.sameApart_refl
  | supplied | singlePass => exact Ledger.sameApart_note hreads ledger

end Handle

namespace Quantifier

/-- Judges one candidate: solves the body and tells the truth of its value. -/
def judge (quantifier : Quantifier) (solveBody : Value → Solving Solution) (index : Nat)
    (candidate : Value) : Solving (Solution × Bool) := do
  let solution ← solveBody candidate
  modify (Ledger.note (.judged quantifier index solution.value))
  return (solution, ← solution.value.isTruthy)

/-- The candidates that a quantifier sees, whether it stopped at the last one of them, what it comes
to, and the ledger before and behind. -/
inductive Judges (quantifier : Quantifier) (take : Reading Unit)
    (solveBody : Value → Solving Solution) (body : Expr) :
    Nat → Ledger → List Value → Bool → Except SolveError Solution → Ledger → Prop where
  /-- There is no candidate left, and none decided. -/
  | none {index : Nat} {ledger : Ledger} :
    Judges quantifier take solveBody body index ledger [] false
      (.ok (.plainBool !quantifier.decided)) ledger
  /-- The body fails for a candidate. -/
  | fails {index : Nat} {ledger after : Ledger} {candidate : Value} {e : SolveError}
    (h : (quantifier.judge solveBody index candidate).run (take.run ledger).2 = (.error e, after)) :
    Judges quantifier take solveBody body index ledger [candidate] true (.error e) after
  /-- A candidate decides. -/
  | decides {index : Nat} {ledger after : Ledger} {candidate : Value} {solution : Solution}
    {holds : Bool}
    (h : (quantifier.judge solveBody index candidate).run (take.run ledger).2 =
      (.ok (solution, holds), after)) (hdecides : quantifier.decidedBy holds = true) :
    Judges quantifier take solveBody body index ledger [candidate] true
      (.ok ⟨.boolean quantifier.decided, some (solution.branch.getD body)⟩) after
  /-- A candidate does not decide, and the next ones are judged. -/
  | passes {index : Nat} {ledger middle after : Ledger} {candidate : Value} {solution : Solution}
    {holds : Bool} {seen : List Value} {stopped : Bool} {outcome : Except SolveError Solution}
    (h : (quantifier.judge solveBody index candidate).run (take.run ledger).2 =
      (.ok (solution, holds), middle)) (hdecides : quantifier.decidedBy holds = false)
    (rest : Judges quantifier take solveBody body (index + 1) middle seen stopped outcome after) :
    Judges quantifier take solveBody body index ledger (candidate :: seen) stopped outcome after

/-- The candidates seen are the first ones, and all of them unless the quantifier stopped. -/
def StopsIn (seen : List Value) (stopped : Bool) (candidates : List Value) : Prop :=
  if stopped then seen <+: candidates else seen = candidates

theorem StopsIn.subset {seen candidates : List Value} {stopped : Bool}
    (h : StopsIn seen stopped candidates) : seen ⊆ candidates := by
  cases stopped with
  | true => exact List.IsPrefix.subset h
  | false => exact (show seen = candidates from h) ▸ List.Subset.refl _

theorem stopsIn_cons {c : Value} {seen candidates : List Value} {stopped : Bool} :
    StopsIn (c :: seen) stopped (c :: candidates) ↔ StopsIn seen stopped candidates := by
  cases stopped with
  | true => exact List.prefix_cons_inj c
  | false => exact List.cons_inj_right c

variable {quantifier : Quantifier} {take : Reading Unit} {solveBody : Value → Solving Solution}
  {body : Expr} {index : Nat} {ledger after : Ledger} {seen candidates : List Value}
  {stopped : Bool} {outcome : Except SolveError Solution}

theorem run_cons (c : Value) (cs : List Value) :
    quantifier.run take solveBody body index (c :: cs) = (do
      take
      let judgement ← quantifier.judge solveBody index c
      if quantifier.decidedBy judgement.2 then
        return ⟨.boolean quantifier.decided, some (judgement.1.branch.getD body)⟩
      else quantifier.run take solveBody body (index + 1) cs) := by
  rw [run, judge]
  simp only [bind_assoc, pure_bind]

/-- **Going through candidates comes to what is judged of those seen.** -/
theorem Judges.run_eq
    (h : Judges quantifier take solveBody body index ledger seen stopped outcome after)
    (hstops : StopsIn seen stopped candidates) :
    (quantifier.run take solveBody body index candidates).run ledger = (outcome, after) := by
  induction h generalizing candidates with
  | none =>
    obtain rfl : [] = candidates := hstops
    rfl
  | @fails index ledger after c e h =>
    obtain ⟨back, rfl⟩ : [c] <+: candidates := hstops
    rw [List.singleton_append, run_cons, run_lift_bind, run_bind_of_error h]
  | @decides index ledger after c solution holds h hdecides =>
    obtain ⟨back, rfl⟩ : [c] <+: candidates := hstops
    rw [List.singleton_append, run_cons, run_lift_bind, run_bind_of_ok h, if_pos hdecides]
    rfl
  | @passes index ledger middle after c solution holds seen stopped outcome h hdecides _ ih =>
    obtain ⟨cs, rfl, hcs⟩ : ∃ cs, candidates = c :: cs ∧ StopsIn seen stopped cs := by
      cases stopped with
      | true =>
        obtain ⟨back, rfl⟩ : c :: seen <+: candidates := hstops
        exact ⟨seen ++ back, rfl, List.prefix_append seen back⟩
      | false => exact ⟨seen, hstops.symm, rfl⟩
    rw [run_cons, run_lift_bind, run_bind_of_ok h, if_neg (by simp [hdecides])]
    exact ih hcs

/-- Some first candidates decide, or all of them are seen. -/
theorem exists_judges (quantifier : Quantifier) (take : Reading Unit)
    (solveBody : Value → Solving Solution) (body : Expr) (index : Nat) (ledger : Ledger)
    (candidates : List Value) :
    ∃ seen stopped outcome after, StopsIn seen stopped candidates ∧
      Judges quantifier take solveBody body index ledger seen stopped outcome after := by
  induction candidates generalizing index ledger with
  | nil => exact ⟨[], false, _, _, rfl, .none⟩
  | cons c cs ih =>
    rcases hjudge : (quantifier.judge solveBody index c).run (take.run ledger).2 with
      ⟨e | ⟨solution, holds⟩, middle⟩
    · exact ⟨[c], true, _, _, ⟨cs, rfl⟩, .fails hjudge⟩
    cases hdecides : quantifier.decidedBy holds with
    | true => exact ⟨[c], true, _, _, ⟨cs, rfl⟩, .decides hjudge hdecides⟩
    | false =>
      obtain ⟨seen, stopped, outcome, after, hstops, hrest⟩ := ih (index + 1) middle
      exact ⟨c :: seen, stopped, outcome, after, stopsIn_cons.2 hstops,
        .passes hjudge hdecides hrest⟩

theorem composed_judge (hbody : ∀ c, Composed (solveBody c).run) (c : Value) :
    Composed (quantifier.judge solveBody index c).run := by
  refine composed_run_bind (hbody c) fun solution => ?_
  refine composed_lift (.note _) fun _ => ?_
  exact composed_lift (composed_isTruthy solution.value) fun _ => .pure _

/-- A candidate is judged in the same way, from whichever superposition it is taken. -/
theorem replay_judge {those : Identity → Prop} {take' : Reading Unit} {ledger' : Ledger}
    {c : Value} {judgement : Except SolveError (Solution × Bool)}
    (hsame : ledger.SameApart those ledger')
    (htake : ∀ l : Ledger, l.SameApart those (take.run l).2)
    (htake' : ∀ l : Ledger, l.SameApart those (take'.run l).2)
    (hbody : ∀ c, Composed (solveBody c).run)
    (hoverlooks : Overlooks those (quantifier.judge solveBody index c).run)
    (h : (quantifier.judge solveBody index c).run (take.run ledger).2 = (judgement, after)) :
    ∃ after', (quantifier.judge solveBody index c).run (take'.run ledger').2 =
      (judgement, after') ∧ after.SameApart those after' := by
  have hbefore : (take.run ledger).2.SameApart those (take'.run ledger').2 :=
    (htake ledger).symm.trans (hsame.trans (htake' ledger'))
  obtain ⟨hresult, hafter⟩ := (composed_judge hbody c).replay hbefore (hoverlooks _)
  obtain rfl : ((quantifier.judge solveBody index c).run (take.run ledger).2).2 = after :=
    congrArg Prod.snd h
  have hjudgement : ((quantifier.judge solveBody index c).run (take.run ledger).2).1 = judgement :=
    congrArg Prod.fst h
  refine ⟨((quantifier.judge solveBody index c).run (take'.run ledger').2).2, ?_, hafter⟩
  exact Prod.ext (hresult.symm.trans hjudgement) rfl

/-- **The same candidates come to the same**, from whichever superposition they are taken, if judging
them reads none of those that the ledgers differ in. -/
theorem Judges.replay {those : Identity → Prop} {take' : Reading Unit} {ledger' : Ledger}
    (h : Judges quantifier take solveBody body index ledger seen stopped outcome after)
    (hsame : ledger.SameApart those ledger')
    (htake : ∀ l : Ledger, l.SameApart those (take.run l).2)
    (htake' : ∀ l : Ledger, l.SameApart those (take'.run l).2)
    (hbody : ∀ c, Composed (solveBody c).run)
    (hoverlooks : ∀ c ∈ seen, ∀ index, Overlooks those (quantifier.judge solveBody index c).run) :
    ∃ after', Judges quantifier take' solveBody body index ledger' seen stopped outcome after' := by
  induction h generalizing ledger' with
  | none => exact ⟨ledger', .none⟩
  | @fails index _ _ c _ h =>
    obtain ⟨after', h', -⟩ :=
      replay_judge hsame htake htake' hbody (hoverlooks c (by simp) index) h
    exact ⟨after', .fails h'⟩
  | @decides index _ _ c _ _ h hdecides =>
    obtain ⟨after', h', -⟩ :=
      replay_judge hsame htake htake' hbody (hoverlooks c (by simp) index) h
    exact ⟨after', .decides h' hdecides⟩
  | @passes index _ _ _ c _ _ _ _ _ h hdecides _ ih =>
    rw [List.forall_mem_cons] at hoverlooks
    obtain ⟨middle', h', hmiddle⟩ :=
      replay_judge hsame htake htake' hbody (hoverlooks.1 index) h
    obtain ⟨after', hrest⟩ := ih hmiddle hoverlooks.2
    exact ⟨after', .passes h' hdecides hrest⟩

/-- Judging a candidate takes it, and nothing else of the superposition. -/
theorem counts_of_judge {handle : Handle} (hsource : handle.source ≠ .owned) {c : Value}
    {judgement : Except SolveError (Solution × Bool)}
    (hoverlooks : Overlooks (· = handle.identity) (quantifier.judge solveBody index c).run)
    (h : (quantifier.judge solveBody index c).run (handle.take.run ledger).2 =
      (judgement, after)) :
    after.asks handle.identity = ledger.asks handle.identity ∧
      after.takes handle.identity = ledger.takes handle.identity + 1 := by
  obtain rfl : ((quantifier.judge solveBody index c).run (handle.take.run ledger).2).2 = after :=
    congrArg Prod.snd h
  obtain ⟨hasks, htakes⟩ := (hoverlooks (handle.take.run ledger).2).counts_eq
  have hcounts : (handle.take.run ledger).2.asks handle.identity = ledger.asks handle.identity ∧
      (handle.take.run ledger).2.takes handle.identity = ledger.takes handle.identity + 1 := by
    rw [Handle.run_take_of_ne hsource]
    exact ⟨ledger.asks_note_taken _ _, by simp [Ledger.takes, Ledger.note]⟩
  exact ⟨hasks.trans hcounts.1, htakes.trans hcounts.2⟩

/-- **Each candidate that is seen was taken once**, and the superposition was not asked again. -/
theorem Judges.counts {handle : Handle} (hsource : handle.source ≠ .owned)
    (h : Judges quantifier handle.take solveBody body index ledger seen stopped outcome after)
    (hoverlooks : ∀ c ∈ seen, ∀ index,
      Overlooks (· = handle.identity) (quantifier.judge solveBody index c).run) :
    after.asks handle.identity = ledger.asks handle.identity ∧
      after.takes handle.identity = ledger.takes handle.identity + seen.length := by
  induction h with
  | none => exact ⟨rfl, rfl⟩
  | @fails index _ _ c _ h | @decides index _ _ c _ _ h _ =>
    exact counts_of_judge hsource (hoverlooks c (by simp) index) h
  | @passes index _ _ _ c _ _ seen _ _ h _ _ ih =>
    rw [List.forall_mem_cons] at hoverlooks
    obtain ⟨hasks, htakes⟩ := counts_of_judge hsource (hoverlooks.1 index) h
    obtain ⟨hasks', htakes'⟩ := ih hoverlooks.2
    refine ⟨hasks'.trans hasks, ?_⟩
    rw [htakes', htakes, List.length_cons]
    omega

end Quantifier

/-! ## Paths through fields -/

namespace Value

/-- A path leads from a value to another one through fields only. -/
inductive Leads : List String → Value → Value → Prop where
  /-- The end of the path. -/
  | here (v : Value) : Leads [] v v
  /-- A name leads to the value that the rest of the path is followed from. -/
  | step {name : String} {path : List String} {v next target : Value}
    (h : v.next? name = some next) (rest : Leads path next target) : Leads (name :: path) v target

/-- Where a path leads through fields, nothing is read on the way. -/
theorem Leads.run_resolve {path : List String} {v target : Value} (h : Leads path v target)
    (ledger : Ledger) : (resolve path v).run ledger = (target, ledger) := by
  induction h with
  | here v => rfl
  | @step name path v next target h _ ih =>
    have hsingle : v.IsSingle := by
      rintro handle candidates rfl
      cases h
    rw [resolve, descend_of_isSingle name _ hsingle, h]
    exact ih

end Value

/-! ## Quantifiers over fields -/

namespace Quantifier

theorem run_across_superposition {quantifier : Quantifier} {solveBody : Value → Solving Solution}
    {body : Expr} (handle : Handle) (candidates : List Value) (ledger : Ledger) :
    (quantifier.across solveBody body (.superposition handle candidates)).run ledger =
      (quantifier.run handle.take solveBody body 0 (handle.yielded ledger candidates)).run
        (handle.ask.run ledger).2 := by
  rw [across, run_lift_bind, Handle.yielded]
  split <;> rfl

end Quantifier

namespace Expr

theorem run_quantified_of_leads (app : Application) (quantifier : Quantifier) (body : Expr)
    {path : Path} {scope : Value} {handle : Handle} {candidates : List Value}
    (h : scope.Leads path.segments (.superposition handle candidates)) (ledger : Ledger) :
    ((Expr.quantified quantifier (.field path) body).solve app scope).run ledger =
      (quantifier.run handle.take (body.solve app) body 0 (handle.yielded ledger candidates)).run
        (handle.ask.run ledger).2 := by
  have hsubject : (subject app (.field path) scope).run ledger =
      (.ok (.superposition handle candidates), ledger) := by
    show (valueAt app path scope).run ledger = _
    rw [valueAt, run_lift_bind, h.run_resolve]
    rfl
  rw [solve_quantified, run_bind_of_ok hsubject, Quantifier.run_across_superposition]

/-- **A quantifier over a field sees its candidates up to the one that decides.**  Where the field
leads through fields to a superposition of the application, it is asked once, and the candidates
seen are those up to the first for which the body fails or that decides, or all that there are.
The outcome is that of the last one seen.  If judging them does not read the superposition, nothing
else is asked of it, one candidate is taken for each of them, and any other superposition that
yields them first comes to the same, as long as judging them does not read that one either; if none
of them decided, it has to yield no others. -/
theorem solve_quantified_lazy (app : Application) (quantifier : Quantifier) (body : Expr)
    {path : Path} {scope : Value} {handle : Handle} {candidates : List Value}
    (hleads : scope.Leads path.segments (.superposition handle candidates))
    (hsource : handle.source ≠ .owned) (ledger : Ledger) :
    ∃ seen stopped outcome after,
      Quantifier.StopsIn seen stopped (handle.yielded ledger candidates) ∧
      quantifier.Judges handle.take (body.solve app) body 0 (ledger.note (.asked handle.identity))
        seen stopped outcome after ∧
      ((Expr.quantified quantifier (.field path) body).solve app scope).run ledger =
        (outcome, after) ∧
      ((∀ c ∈ seen, ∀ index, Overlooks (· = handle.identity)
          (quantifier.judge (body.solve app) index c).run) →
        after.asks handle.identity = ledger.asks handle.identity + 1 ∧
        after.takes handle.identity = ledger.takes handle.identity + seen.length ∧
        ∀ {path' : Path} {scope' : Value} {other : Handle} {others : List Value},
          scope'.Leads path'.segments (.superposition other others) →
          Quantifier.StopsIn seen stopped (other.yielded ledger others) →
          (∀ c ∈ seen, ∀ index, Overlooks (· = other.identity)
            (quantifier.judge (body.solve app) index c).run) →
          (((Expr.quantified quantifier (.field path') body).solve app scope').run ledger).1 =
            outcome) := by
  rw [← Handle.run_ask_of_ne hsource]
  obtain ⟨seen, stopped, outcome, after, hstops, hjudges⟩ := Quantifier.exists_judges quantifier
    handle.take (body.solve app) body 0 (handle.ask.run ledger).2 (handle.yielded ledger candidates)
  have hrun := (run_quantified_of_leads app quantifier body hleads ledger).trans
    (hjudges.run_eq hstops)
  refine ⟨seen, stopped, outcome, after, hstops, hjudges, hrun, fun hoverlooks => ?_⟩
  obtain ⟨hasks, htakes⟩ := hjudges.counts hsource hoverlooks
  rw [Handle.run_ask_of_ne hsource] at hasks htakes
  refine ⟨?_, ?_, ?_⟩
  · rw [hasks, Ledger.asks_note_asked, List.count_singleton_self]
  · rw [htakes]
    rfl
  · intro path' scope' other others hleads' hstops' hoverlooks'
    obtain ⟨after', hjudges'⟩ := hjudges.replay
      ((Handle.sameApart_ask (.inl rfl) ledger).symm.trans (Handle.sameApart_ask (.inr rfl) ledger))
      (fun _ => Handle.sameApart_take (.inl rfl) _) (fun _ => Handle.sameApart_take (.inr rfl) _)
      (composed_solve app body)
      (fun c hc index => (hoverlooks c hc index).or (hoverlooks' c hc index))
    rw [run_quantified_of_leads app quantifier body hleads' ledger, hjudges'.run_eq hstops']

/-- Three candidates, the last of which has no order with a number, and the first two of them. -/
def scores : Value :=
  .object [("scores", .superposition ⟨0, .singlePass⟩ [.integer 1, .integer 2, .string "none"]),
    ("best", .superposition ⟨1, .supplied⟩ [.integer 1, .integer 2])]

/-- Is the score above one? -/
def aboveOne : Expr :=
  .compare .greater (.field ⟨[]⟩) (.literal (.integer 1))

/-- Judging a score reads nothing. -/
theorem overlooks_aboveOne (those : Identity → Prop) {c : Value}
    (hc : c ∈ [Value.integer 1, .integer 2, .string "none"]) (index : Nat) :
    Overlooks those (Quantifier.any.judge (aboveOne.solve .standard) index c).run := by
  intro ledger
  simp only [List.mem_cons, List.not_mem_nil, or_false] at hc
  rcases hc with rfl | rfl | rfl
  · exact ⟨[_], rfl, by simp [Event.Reads]⟩
  · exact ⟨[_], rfl, by simp [Event.Reads]⟩
  · exact ⟨[], rfl, by simp⟩

/-- The second score decides, so that nobody finds out what the third one is. -/
theorem solve_quantified_lazy_scores :
    ∃ after, ((Expr.quantified .any (.field ⟨["scores"]⟩) aboveOne).solve .standard scores).run
        ⟨2, []⟩ = (.ok ⟨.boolean true, some aboveOne⟩, after) ∧
      after.asks 0 = 1 ∧ after.takes 0 = 2 ∧
      (((Expr.quantified .any (.field ⟨["best"]⟩) aboveOne).solve .standard scores).run
        ⟨2, []⟩).1 = .ok ⟨.boolean true, some aboveOne⟩ := by
  have hscores : scores.Leads ["scores"]
      (.superposition ⟨0, .singlePass⟩ [.integer 1, .integer 2, .string "none"]) :=
    .step rfl (.here _)
  have hbest : scores.Leads ["best"] (.superposition ⟨1, .supplied⟩ [.integer 1, .integer 2]) :=
    .step rfl (.here _)
  obtain ⟨seen, stopped, outcome, after, hstops, -, hrun, hlazy⟩ :=
    solve_quantified_lazy .standard .any aboveOne hscores (by simp) ⟨2, []⟩
  have hyielded : Quantifier.StopsIn seen stopped [.integer 1, .integer 2, .string "none"] := hstops
  obtain ⟨hasks, htakes, hother⟩ :=
    hlazy fun c hc => overlooks_aboveOne _ (hyielded.subset hc)
  have hvalue : ((Expr.quantified .any (.field ⟨["scores"]⟩) aboveOne).solve .standard scores).run
      ⟨2, []⟩ = (.ok ⟨.boolean true, some aboveOne⟩, _) := rfl
  obtain ⟨rfl, rfl⟩ := Prod.mk.inj (hrun.symm.trans hvalue)
  have hlength : 2 = 0 + seen.length := htakes
  have hbegins : Quantifier.StopsIn seen stopped [.integer 1, .integer 2] := by
    cases stopped with
    | true =>
      have hseen : seen = _ := List.prefix_iff_eq_take.1 hyielded
      rw [← Nat.zero_add seen.length, ← hlength] at hseen
      exact hseen ▸ List.prefix_rfl
    | false =>
      obtain rfl : seen = _ := hyielded
      cases hlength
  exact ⟨_, hvalue, hasks, rfl, hother hbest hbegins fun c hc =>
    overlooks_aboveOne _ (hyielded.subset hc)⟩

end Expr

end FieldQuery
