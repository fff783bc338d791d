import FieldQuery.Proofs.Effects

/-!
# What solving looks at

Solving is made of a few kinds of steps, one behind the other.  None of them looks at the notes
in the ledger: whether a superposition answers is told from the reads, and new superpositions are
named after the last one.  Where two ledgers differ in their notes only, a solve finds the same
and reads the same.

* `Ledger.reads` — the events of reading superpositions.
* `Reading.InStep` — two readings find related results and read the same, whatever the notes.
* `Reading.Composed` — a reading is made of the steps that the solver knows.
* `Reading.Composed.inStep` — what is so made does not look at notes.
* `Expr.composed_solve` — solving is so made.
-/

namespace FieldQuery

open Reading Judging

/-! ## Reads -/

instance : DecidablePred Event.IsRead
  | .asked _ | .taken _ => .isTrue trivial
  | .started _ | .missing _ | .judged _ _ _ => .isFalse id

namespace Ledger

/-- The events of reading superpositions, last one first. -/
def reads (ledger : Ledger) : List Event :=
  ledger.events.filter (fun event => decide event.IsRead)

theorem wasAsked_iff {ledger : Ledger} {i : Identity} :
    ledger.wasAsked i = true ↔ 0 < ledger.asks i :=
  List.any_eq_true.trans List.countP_pos_iff.symm

section

variable {ledger ledger' : Ledger} (h : ledger.reads = ledger'.reads)
include h

/-- Where the reads are the same, there are as many of each kind. -/
theorem countP_eq_of_reads {p : Event → Bool} (hp : ∀ event, p event = true → event.IsRead) :
    ledger.events.countP p = ledger'.events.countP p := by
  have hreads (events : List Event) :
      (events.filter fun event => decide event.IsRead).countP p = events.countP p := by
    rw [List.countP_filter]
    refine congrArg (List.countP · events) (funext fun event => ?_)
    cases hevent : p event with
    | true => rw [decide_eq_true (hp event hevent), Bool.true_and]
    | false => rw [Bool.false_and]
  rw [← hreads ledger.events, ← hreads ledger'.events]
  exact congrArg (List.countP p) h

theorem asks_eq_of_reads (i : Identity) : ledger.asks i = ledger'.asks i :=
  countP_eq_of_reads h fun event hevent => by cases event <;> trivial

theorem takes_eq_of_reads (i : Identity) : ledger.takes i = ledger'.takes i :=
  countP_eq_of_reads h fun event hevent => by cases event <;> trivial

theorem wasAsked_eq_of_reads (i : Identity) : ledger.wasAsked i = ledger'.wasAsked i := by
  rw [Bool.eq_iff_iff, wasAsked_iff, wasAsked_iff, asks_eq_of_reads h]

end

/-- The ledgers differ in their notes only. -/
structure SameReads (ledger ledger' : Ledger) : Prop where
  /-- The next free identity is the same. -/
  fresh : ledger.fresh = ledger'.fresh
  /-- So are the reads. -/
  reads : ledger.reads = ledger'.reads

variable {ledger ledger' : Ledger}

theorem sameReads_refl (ledger : Ledger) : ledger.SameReads ledger :=
  ⟨rfl, rfl⟩

theorem reads_note (event : Event) (ledger : Ledger) :
    (ledger.note event).reads = if event.IsRead then event :: ledger.reads else ledger.reads := by
  simp [note, reads, List.filter_cons]

theorem SameReads.note (h : ledger.SameReads ledger') (event : Event) :
    (ledger.note event).SameReads (ledger'.note event) := by
  refine ⟨h.fresh, ?_⟩
  rw [reads_note, reads_note, h.reads]

theorem SameReads.note_left (h : ledger.SameReads ledger') {event : Event}
    (hevent : ¬ event.IsRead) : (ledger.note event).SameReads ledger' := by
  refine ⟨h.fresh, ?_⟩
  rw [reads_note, if_neg hevent, h.reads]

theorem SameReads.note_right (h : ledger.SameReads ledger') {event : Event}
    (hevent : ¬ event.IsRead) : ledger.SameReads (ledger'.note event) := by
  refine ⟨h.fresh, ?_⟩
  rw [reads_note, if_neg hevent, h.reads]

end Ledger

/-! ## Readings in step -/

namespace Reading

variable {α β γ δ : Type}

/-- Behind the same reads, two readings have related results and read the same. -/
def InStep (R : α → β → Prop) (m : Reading α) (m' : Reading β) : Prop :=
  ∀ ledger ledger' : Ledger, ledger.SameReads ledger' →
    R (m.run ledger).1 (m'.run ledger').1 ∧ (m.run ledger).2.SameReads (m'.run ledger').2

theorem inStep_pure {R : α → β → Prop} {a : α} {b : β} (h : R a b) :
    InStep R (pure a) (pure b) :=
  fun _ _ hsame => ⟨h, hsame⟩

theorem InStep.bind {R : α → β → Prop} {S : γ → δ → Prop} {m : Reading α} {m' : Reading β}
    {f : α → Reading γ} {g : β → Reading δ} (hm : InStep R m m')
    (hf : ∀ a b, R a b → InStep S (f a) (g b)) : InStep S (m >>= f) (m' >>= g) := by
  intro ledger ledger' hsame
  obtain ⟨hresult, hafter⟩ := hm ledger ledger' hsame
  exact hf _ _ hresult _ _ hafter

/-- Readings that are made of the steps that the solver knows: asking a superposition, making one
and putting events into the ledger. -/
inductive Composed : {α : Type} → Reading α → Prop where
  /-- Doing nothing. -/
  | pure {α : Type} (a : α) : Composed (pure a)
  /-- Doing one thing behind another. -/
  | bind {α β : Type} {m : Reading α} {f : α → Reading β} (first : Composed m)
    (rest : ∀ a, Composed (f a)) : Composed (m >>= f)
  /-- Putting an event into the ledger. -/
  | note (event : Event) : Composed (modify (Ledger.note event))
  /-- Asking a superposition for its candidates. -/
  | ask (handle : Handle) : Composed handle.ask
  /-- Making a superposition. -/
  | ofCandidates (candidates : List Value) : Composed (Value.ofCandidates candidates)

/-- What is made of the steps of the solver strikes nothing out of the ledger. -/
theorem Composed.appends {m : Reading α} (h : Composed m) : Appends (fun _ => True) m := by
  induction h with
  | pure a => exact appends_pure a
  | bind _ _ ihFirst ihRest => exact ihFirst.bind ihRest
  | note event => exact appends_note trivial
  | ask handle => exact Handle.appends_ask fun _ => ⟨trivial, trivial⟩
  | ofCandidates candidates => exact Value.appends_ofCandidates candidates

/-- Whether a superposition answers is told from the reads. -/
theorem inStep_ask (handle : Handle) : InStep Eq handle.ask handle.ask := by
  intro ledger ledger' hsame
  obtain ⟨i, source⟩ := handle
  cases source with
  | owned => exact ⟨rfl, hsame⟩
  | supplied => exact ⟨rfl, hsame.note _⟩
  | singlePass =>
    refine ⟨?_, hsame.note _⟩
    show (!ledger.wasAsked i) = !ledger'.wasAsked i
    rw [Ledger.wasAsked_eq_of_reads hsame.reads]

theorem inStep_ofCandidates (candidates : List Value) :
    InStep Eq (Value.ofCandidates candidates) (Value.ofCandidates candidates) := by
  intro ledger ledger' hsame
  match candidates with
  | [] | [_] => exact ⟨rfl, hsame⟩
  | c :: d :: cs =>
    refine ⟨?_, ⟨congrArg (· + 1) hsame.fresh, hsame.reads⟩⟩
    show Value.superposition ⟨ledger.fresh, .owned⟩ _ = .superposition ⟨ledger'.fresh, .owned⟩ _
    rw [hsame.fresh]

/-- **What is made of the steps of the solver does not look at notes.** -/
theorem Composed.inStep {m : Reading α} (h : Composed m) : InStep Eq m m := by
  induction h with
  | pure a => exact inStep_pure rfl
  | bind _ _ ihFirst ihRest => exact ihFirst.bind fun a _ hab => hab ▸ ihRest a
  | note event => exact fun _ _ hsame => ⟨rfl, hsame.note event⟩
  | ask handle => exact inStep_ask handle
  | ofCandidates candidates => exact inStep_ofCandidates candidates

end Reading

/-! ### Readings that can fail -/

namespace Judging

variable {ε α β γ δ : Type}

/-- Behind the same reads, two computations fail in the same way or succeed with related results,
and they read the same. -/
def Accord (R : α → β → Prop) (m : ExceptT ε Reading α) (m' : ExceptT ε Reading β) : Prop :=
  InStep (Outcomes R) m.run m'.run

theorem accord_pure {R : α → β → Prop} {a : α} {b : β} (h : R a b) :
    Accord (ε := ε) R (pure a) (pure b) :=
  inStep_pure (.ok h)

theorem Accord.bind {R : α → β → Prop} {S : γ → δ → Prop} {m : ExceptT ε Reading α}
    {m' : ExceptT ε Reading β} {f : α → ExceptT ε Reading γ} {g : β → ExceptT ε Reading δ}
    (hm : Accord R m m') (hf : ∀ a b, R a b → Accord S (f a) (g b)) :
    Accord S (m >>= f) (m' >>= g) := by
  unfold Accord
  rw [ExceptT.run_bind, ExceptT.run_bind]
  refine InStep.bind hm fun x y hxy => ?_
  cases hxy with
  | ok related => exact hf _ _ related
  | error e => exact inStep_pure (.error e)

/-- Readings in step may come first. -/
theorem accord_lift {R : α → β → Prop} {S : γ → δ → Prop} {m : Reading α} {m' : Reading β}
    {f : α → ExceptT ε Reading γ} {g : β → ExceptT ε Reading δ} (hm : InStep R m m')
    (hf : ∀ a b, R a b → Accord S (f a) (g b)) : Accord S (liftM m >>= f) (liftM m' >>= g) :=
  InStep.bind hm hf

/-- A note makes no difference. -/
theorem accord_note_left {S : γ → δ → Prop} {event : Event} (hevent : ¬ event.IsRead)
    {f : PUnit → ExceptT ε Reading γ} {m' : ExceptT ε Reading δ} (h : Accord S (f ⟨⟩) m') :
    Accord S (modify (Ledger.note event) >>= f) m' :=
  fun _ _ hsame => h _ _ (hsame.note_left hevent)

theorem accord_note_right {S : γ → δ → Prop} {event : Event} (hevent : ¬ event.IsRead)
    {m : ExceptT ε Reading γ} {g : PUnit → ExceptT ε Reading δ} (h : Accord S m (g ⟨⟩)) :
    Accord S m (modify (Ledger.note event) >>= g) :=
  fun _ _ hsame => h _ _ (hsame.note_right hevent)

/-- What is made of the steps of the solver accords with itself. -/
theorem accord_of_composed {m : ExceptT ε Reading α} (h : Composed m.run) : Accord Eq m m := by
  intro ledger ledger' hsame
  obtain ⟨hresult, hafter⟩ := h.inStep ledger ledger' hsame
  exact ⟨outcomes_eq.2 hresult, hafter⟩

end Judging

/-! ## The steps of the solver -/

namespace Reading

variable {α β : Type}

theorem composed_run_bind {ε : Type} {m : ExceptT ε Reading α} {f : α → ExceptT ε Reading β}
    (hm : Composed m.run) (hf : ∀ a, Composed (f a).run) : Composed (m >>= f).run := by
  rw [ExceptT.run_bind]
  refine hm.bind fun x => ?_
  cases x with
  | ok a => exact hf a
  | error e => exact .pure _

/-- A reading may come first. -/
theorem composed_lift {ε : Type} {m : Reading α} {f : α → ExceptT ε Reading β} (hm : Composed m)
    (hf : ∀ a, Composed (f a).run) : Composed (liftM m >>= f).run :=
  hm.bind hf

theorem composed_take (handle : Handle) : Composed handle.take := by
  obtain ⟨i, source⟩ := handle
  cases source with
  | owned => exact .pure _
  | supplied | singlePass => exact .note _

theorem composed_readAll (handle : Handle) (candidates : List Value) :
    Composed (handle.readAll candidates) := by
  have htakes : ∀ cs : List Value, Composed (cs.forM fun _ => handle.take) := by
    intro cs
    induction cs with
    | nil => exact .pure _
    | cons c cs ih => exact (composed_take handle).bind fun _ => ih
  refine (Composed.ask handle).bind fun answer => ?_
  split
  · exact (htakes candidates).bind fun _ => .pure _
  · exact .pure _

theorem composed_settle (v : Value) : Composed v.settle := by
  cases v with
  | superposition handle candidates =>
    exact (composed_readAll handle candidates).bind fun _ => .ofCandidates _
  | _ => exact .pure _

theorem composed_isTruthy (v : Value) : Composed v.isTruthy := by
  cases v with
  | superposition handle candidates =>
    refine (Composed.ask handle).bind fun answer => ?_
    split
    · cases candidates with
      | nil => exact .pure _
      | cons c cs => exact (composed_take handle).bind fun _ => .pure _
    · exact .pure _
  | _ => exact .pure _

theorem composed_firstTrue {take : Reading Unit} {test : α → Judging Bool}
    {candidates : List α} (htake : Composed take)
    (htest : ∀ c ∈ candidates, Composed (test c).run) :
    Composed (firstTrue take test candidates).run := by
  induction candidates with
  | nil => exact .pure _
  | cons c cs ih =>
    rw [List.forall_mem_cons] at htest
    refine composed_lift htake fun _ => composed_run_bind htest.1 fun found => ?_
    split
    · exact .pure _
    · exact ih htest.2

/-- Asking a superposition, and going on with its candidates if it answers. -/
theorem composed_ask {found : Judging Bool} (handle : Handle) (hfound : Composed found.run) :
    Composed (do if ← handle.ask then found else return false : Judging Bool).run := by
  refine composed_lift (.ask handle) fun answer => ?_
  split
  · exact hfound
  · exact .pure _

end Reading

/-! ## Comparing values -/

namespace Value

section

variable {ignores : Value → Bool} {test : Value → Value → Judging Bool}

theorem composed_searchRight (htest : ∀ a b, Composed (test a b).run) (left right : Value) :
    Composed (searchRight ignores test left right).run := by
  induction right using candidates_induction with
  | single right hsingle =>
    rw [searchRight_of_isSingle left hsingle]
    split
    · exact .pure _
    · exact htest left right
  | superposition handle candidates ih =>
    rw [searchRight, searchRightAll_eq]
    exact composed_ask handle (composed_firstTrue (composed_take handle) ih)

theorem composed_search (htest : ∀ a b, Composed (test a b).run) (left right : Value) :
    Composed (search ignores test left right).run := by
  induction left using candidates_induction generalizing right with
  | single left hsingle =>
    rw [search_of_isSingle hsingle]
    split
    · exact .pure _
    · exact composed_searchRight htest left right
  | superposition handle candidates ih =>
    rw [search]
    split
    · exact .pure _
    · refine composed_lift (composed_settle right) fun copy => ?_
      rw [searchAll_eq]
      exact composed_ask handle
        (composed_firstTrue (composed_take handle) fun c hc => ih c hc copy)

end

theorem composed_equivalent (left right : Value) : Composed (equivalent left right).run :=
  composed_search (fun _ _ => .pure _) left right

theorem composed_ordered (accepts : Ordering → Bool) (left right : Value) :
    Composed (ordered accepts left right).run := by
  refine composed_search (fun a b => ?_) left right
  cases order a b with
  | ok found => exact .pure _
  | error fault => exact .pure _

theorem composed_equivalentToAny (v : Value) (items : List Value) :
    Composed (equivalentToAny v items).run := by
  rw [equivalentToAny_eq]
  exact composed_firstTrue (.pure _) fun item _ => composed_equivalent v item

theorem composed_memberOf (needle haystack : Value) : Composed (memberOf needle haystack).run := by
  cases haystack with
  | null => exact .pure _
  | array items => exact composed_equivalentToAny needle items
  | superposition handle candidates =>
    rw [memberOf, candidateEquivalent_eq]
    exact composed_ask handle
      (composed_firstTrue (composed_take handle) fun c _ => composed_equivalent needle c)
  | _ => cases needle <;> exact .pure _

theorem composed_member (left right : Value) : Composed (member left right).run := by
  induction left using candidates_induction generalizing right with
  | single left hsingle =>
    rw [member_of_isSingle hsingle]
    split
    · exact .pure _
    · exact composed_memberOf left right
  | superposition handle candidates ih =>
    rw [member]
    split
    · exact .pure _
    · refine composed_lift (composed_settle right) fun copy => ?_
      rw [memberAll_eq]
      exact composed_ask handle
        (composed_firstTrue (composed_take handle) fun c hc => ih c hc copy)

theorem composed_elements (v : Value) : Composed v.elements := by
  cases v with
  | superposition handle candidates => exact composed_readAll handle candidates
  | _ => exact .pure _

theorem composed_allIn {take : Reading Unit} (htake : Composed take)
    (others elements : List Value) : Composed (allIn take others elements).run := by
  induction elements with
  | nil => exact .pure _
  | cons element rest ih =>
    refine composed_lift htake fun _ => ?_
    refine composed_run_bind (composed_equivalentToAny element others) fun found => ?_
    split
    · exact ih
    · exact .pure _

theorem composed_subset (left right : Value) : Composed (subset left right).run := by
  unfold subset
  cases left.isCollection with
  | false => exact .pure _
  | true =>
  cases right.isCollection with
  | false => exact .pure _
  | true =>
  refine composed_lift (composed_elements right) fun others => ?_
  cases left with
  | superposition handle candidates =>
    refine composed_lift (.ask handle) fun answer => ?_
    split
    · exact composed_allIn (composed_take handle) others candidates
    · exact .pure _
  | array items => exact composed_allIn (.pure _) others items
  | _ => exact .pure _

theorem composed_matched (pattern : Pattern) (v : Value) : Composed (matched pattern v).run := by
  induction v using candidates_induction with
  | single v hsingle =>
    cases v with
    | superposition => exact absurd rfl (hsingle _ _)
    | _ => exact .pure _
  | superposition handle candidates ih =>
    rw [matched, matchedAny_eq]
    exact composed_ask handle (composed_firstTrue (composed_take handle) ih)

theorem composed_searched (subject pattern : Value) : Composed (searched subject pattern).run := by
  cases pattern with
  | string s =>
    simp only [searched]
    cases Pattern.ofText? s.toList with
    | none => exact .pure _
    | some pattern => exact composed_matched pattern subject
  | _ => exact .pure _

theorem composed_holds (relation : Comparison) (left right : Value) :
    Composed (relation.holds left right).run := by
  cases relation with
  | equal => exact composed_equivalent left right
  | member => exact composed_member left right
  | subset => exact composed_subset left right
  | greater => exact composed_ordered _ left right
  | atLeast => exact composed_ordered _ left right
  | search => exact composed_searched left right

/-! ## Following paths -/

theorem composed_hits (v : Value) : Composed (hits v) := by
  cases v with
  | superposition handle candidates => exact composed_readAll handle candidates
  | _ => exact .pure _

theorem composed_descend {name : String} {follow : Value → Reading Value}
    (hfollow : ∀ v, Composed (follow v)) (v : Value) : Composed (descend name follow v) := by
  induction v using candidates_induction with
  | single v hsingle =>
    rw [descend_of_isSingle name follow hsingle]
    split
    · exact hfollow _
    · exact .pure _
  | superposition handle candidates ih =>
    have hall : Composed (descendAll name follow handle candidates) := by
      induction candidates with
      | nil => exact .pure _
      | cons c cs ihAll =>
        rw [List.forall_mem_cons] at ih
        rw [descendAll_cons]
        refine (composed_take handle).bind fun _ => ih.1.bind fun found => ?_
        exact (composed_hits found).bind fun _ => (ihAll ih.2).bind fun _ => .pure _
    rw [descend]
    refine (Composed.ask handle).bind fun answer => ?_
    split
    · exact hall.bind fun _ => .ofCandidates _
    · exact .pure _

theorem composed_resolve (path : List String) (v : Value) : Composed (resolve path v) := by
  induction path generalizing v with
  | nil => exact .pure _
  | cons name rest ih => exact composed_descend ih v

end Value

/-! ## Expressions -/

namespace Quantifier

variable {quantifier : Quantifier} {solveBody : Value → Solving Solution} {body : Expr}

theorem composed_run {take : Reading Unit} (htake : Composed take) {candidates : List Value}
    (hbody : ∀ c, Composed (solveBody c).run) (index : Nat) :
    Composed (quantifier.run take solveBody body index candidates).run := by
  induction candidates generalizing index with
  | nil => exact .pure _
  | cons c cs ih =>
    refine composed_lift htake fun _ => composed_run_bind (hbody c) fun solution => ?_
    refine composed_lift (.note _) fun _ => ?_
    refine composed_lift (composed_isTruthy solution.value) fun holds => ?_
    split
    · exact .pure _
    · exact ih _

theorem composed_across (hbody : ∀ c, Composed (solveBody c).run) (v : Value) :
    Composed (quantifier.across solveBody body v).run := by
  rcases Value.isSingle_or v with hsingle | ⟨handle, candidates, rfl⟩
  · rw [across_of_isSingle hsingle]
    exact composed_run (.pure _) hbody 0
  · unfold across
    refine composed_lift (.ask handle) fun answer => ?_
    split <;> exact composed_run (composed_take handle) hbody 0

end Quantifier

namespace Expr

variable (app : Application)

theorem composed_valueAt (path : Path) (scope : Value) : Composed (valueAt app path scope).run := by
  unfold valueAt
  refine composed_lift (Value.composed_resolve path.segments scope) fun v => ?_
  split
  · split
    · exact .pure _
    · exact composed_lift (.note _) fun _ => .pure _
  · exact .pure _

theorem composed_subject {context : Expr} {scope : Value}
    (hcontext : Composed (solve app context scope).run) :
    Composed (subject app context scope).run := by
  unfold subject
  split
  · exact composed_valueAt app _ scope
  · exact composed_run_bind hcontext fun _ => .pure _

/-- **Solving is made of the steps of the solver**, one case for each kind of expression. -/
theorem composed_solve (e : Expr) (scope : Value) : Composed (solve app e scope).run := by
  induction e generalizing scope with
  | literal v => exact .pure _
  | field path =>
    rw [solve]
    refine composed_run_bind (composed_valueAt app path scope) fun v => ?_
    exact composed_lift (composed_settle v) fun _ => .pure _
  | component name => exact .pure _
  | within context body ihContext ihBody =>
    rw [solve]
    exact composed_run_bind (ihContext scope) fun inner => ihBody inner.value
  | quantified quantifier context body ihContext ihBody =>
    rw [solve_quantified]
    refine composed_run_bind (composed_subject app (ihContext scope)) fun v => ?_
    exact Quantifier.composed_across (fun c => ihBody c) v
  | not operand ih =>
    rw [solve]
    refine composed_run_bind (ih scope) fun solution => ?_
    exact composed_lift (composed_isTruthy solution.value) fun _ => .pure _
  | and left right ihLeft ihRight =>
    rw [solve]
    refine composed_run_bind (ihLeft scope) fun first => ?_
    refine composed_lift (composed_isTruthy first.value) fun holds => ?_
    split
    · refine composed_run_bind (ihRight scope) fun second => ?_
      exact composed_lift (composed_isTruthy second.value) fun _ => .pure _
    · exact .pure _
  | or left right ihLeft ihRight =>
    rw [solve]
    refine composed_run_bind (ihLeft scope) fun first => ?_
    refine composed_lift (composed_isTruthy first.value) fun holds => ?_
    split
    · exact .pure _
    · exact composed_run_bind (ihRight scope) fun _ => .pure _
  | compare relation left right ihLeft ihRight =>
    rw [solve]
    refine composed_run_bind (ihLeft scope) fun l => composed_run_bind (ihRight scope) fun r => ?_
    refine composed_run_bind ?_ fun _ => .pure _
    exact (Value.composed_holds relation l.value r.value).bind fun _ => .pure _
  | isInstance subject typeName ih =>
    rw [solve]
    exact composed_run_bind (ih scope) fun _ => .pure _
  | arithmetic operation left right ihLeft ihRight =>
    rw [solve]
    refine composed_run_bind (ihLeft scope) fun l => composed_run_bind (ihRight scope) fun r => ?_
    cases operation.apply l.value r.value with
    | ok v => exact .pure _
    | error fault => exact .pure _

end Expr

end FieldQuery
