import FieldQuery.Proofs.Repetition

/-!
# What computations do besides giving a result

A computation can put events into the ledger, and it can fail.  Nothing is ever struck out of the
ledger, and of every part of a solve it is known which events it adds and which failures it can
end in.

* `Reading.Appends` — a reading keeps the events and adds none but some.
* `Judging.Confined` — a computation that can fail does the same, and fails in no other ways.
* `Event.IsRead` — the events of reading superpositions.
* `Value.nested` — the superpositions that are candidates or elements somewhere in a value.
* `Value.Permits` — reading a value adds no events but some.
* `Value.confined_holds` — comparing values takes reading them, and fails as the kind of
  comparison can.
* `Value.appends_isTruthy`, `Value.appends_resolve` — so does telling truth and following a path,
  which never fails.
* `Arithmetic.canRaise_of_apply` — how arithmetic can fail.
-/

namespace FieldQuery

/-! ## Events and failures -/

/-- Is the event one of reading a superposition? -/
def Event.IsRead : Event → Prop
  | .asked _ | .taken _ => True
  | _ => False

/-- Do the operands have the wrong types? -/
def Fault.IsType : Fault → Prop
  | .type _ => True
  | _ => False

/-- Can a comparison fail in this way?  Equality never does, and only a search has a pattern. -/
def Comparison.CanRaise : Comparison → Fault → Prop
  | .equal, _ => False
  | _, .type _ => True
  | .search, .badPattern => True
  | _, _ => False

/-- Can arithmetic fail in this way?  Only division has a divisor. -/
def Arithmetic.CanRaise : Arithmetic → Fault → Prop
  | _, .type _ | _, .overflow => True
  | .divide, .divisionByZero => True
  | _, _ => False

/-- Is the second state of the ledger the first one with further events, all of a kind that is
allowed? -/
def Ledger.Extends (allowed : Event → Prop) (ledger after : Ledger) : Prop :=
  ∃ new, after.events = new ++ ledger.events ∧ ∀ event ∈ new, allowed event

namespace Ledger

variable {allowed : Event → Prop} {first second third : Ledger}

theorem extends_refl (ledger : Ledger) : ledger.Extends allowed ledger :=
  ⟨[], rfl, by simp⟩

theorem Extends.trans (h : first.Extends allowed second) (h' : second.Extends allowed third) :
    first.Extends allowed third := by
  obtain ⟨new, hnew, hallowed⟩ := h
  obtain ⟨new', hnew', hallowed'⟩ := h'
  refine ⟨new' ++ new, ?_, List.forall_mem_append.2 ⟨hallowed', hallowed⟩⟩
  rw [hnew', hnew, List.append_assoc]

/-- What is added up to a later state is added up to each state on the way and from there on. -/
theorem Extends.split (h : first.Extends allowed third)
    (hsecond : first.Extends (fun _ => True) second)
    (hthird : second.Extends (fun _ => True) third) :
    first.Extends allowed second ∧ second.Extends allowed third := by
  obtain ⟨new, hnew, hallowed⟩ := h
  obtain ⟨early, hearly, -⟩ := hsecond
  obtain ⟨late, hlate, -⟩ := hthird
  rw [hlate, hearly, ← List.append_assoc, List.append_cancel_right_eq] at hnew
  rw [← hnew, List.forall_mem_append] at hallowed
  exact ⟨⟨early, hearly, hallowed.2⟩, late, hlate, hallowed.1⟩

theorem extends_note {event : Event} (h : allowed event) (ledger : Ledger) :
    ledger.Extends allowed (ledger.note event) :=
  ⟨[event], rfl, by simpa using h⟩

theorem Extends.suffix (h : first.Extends allowed second) : first.events <:+ second.events := by
  obtain ⟨new, hnew, -⟩ := h
  exact ⟨new, hnew.symm⟩

end Ledger

/-! ## Confined computations -/

namespace Reading

variable {α β : Type} {allowed : Event → Prop}

/-- The old events stay, and the new ones are all of a kind that is allowed. -/
def Appends (allowed : Event → Prop) (m : Reading α) : Prop :=
  ∀ ledger : Ledger, ledger.Extends allowed (m.run ledger).2

theorem appends_pure (a : α) : Appends allowed (pure a) :=
  fun ledger => ledger.extends_refl

theorem Appends.bind {m : Reading α} {f : α → Reading β} (hm : Appends allowed m)
    (hf : ∀ a, Appends allowed (f a)) : Appends allowed (m >>= f) := by
  intro ledger
  exact (hm ledger).trans (hf (m.run ledger).1 (m.run ledger).2)

theorem appends_note {event : Event} (h : allowed event) :
    Appends allowed (modify (Ledger.note event)) :=
  fun ledger => ledger.extends_note h

theorem Appends.mono {wider : Event → Prop} {m : Reading α} (h : Appends allowed m)
    (hwider : ∀ event, allowed event → wider event) : Appends wider m := by
  intro ledger
  obtain ⟨new, hnew, hallowed⟩ := h ledger
  exact ⟨new, hnew, fun event hevent => hwider event (hallowed event hevent)⟩

end Reading

open Reading

namespace Judging

variable {ε α β : Type} {allowed : Event → Prop} {faults : ε → Prop}

/-- The events that are added and the failures are all of kinds that are allowed. -/
structure Confined (allowed : Event → Prop) (faults : ε → Prop) (m : ExceptT ε Reading α) :
    Prop where
  /-- Nothing else is put into the ledger. -/
  appends : Appends allowed m.run
  /-- There are no other failures. -/
  throws : Ensures (fun x => ∀ e, x = .error e → faults e) m.run

theorem appends_run_bind {m : ExceptT ε Reading α} {f : α → ExceptT ε Reading β}
    (hm : Appends allowed m.run) (hf : ∀ a, Appends allowed (f a).run) :
    Appends allowed (m >>= f).run := by
  rw [ExceptT.run_bind]
  refine hm.bind fun x => ?_
  cases x with
  | ok a => exact hf a
  | error e => exact appends_pure _

theorem confined_pure (a : α) : Confined allowed faults (pure a) :=
  ⟨appends_pure _, ensures_pure (by rintro _ ⟨⟩)⟩

theorem confined_throw {e : ε} (h : faults e) :
    Confined allowed faults (throw e : ExceptT ε Reading α) :=
  ⟨appends_pure _, ensures_pure (by rintro _ ⟨⟩; exact h)⟩

theorem Confined.bind {m : ExceptT ε Reading α} {f : α → ExceptT ε Reading β}
    (hm : Confined allowed faults m) (hf : ∀ a, Confined allowed faults (f a)) :
    Confined allowed faults (m >>= f) := by
  refine ⟨appends_run_bind hm.appends fun a => (hf a).appends, ?_⟩
  rw [ExceptT.run_bind]
  refine hm.throws.bind fun x hx => ?_
  cases x with
  | ok a => exact (hf a).throws
  | error e => exact ensures_pure (by rintro _ ⟨⟩; exact hx e rfl)

theorem confined_lift {m : Reading α} (h : Appends allowed m) :
    Confined allowed faults (liftM m : ExceptT ε Reading α) :=
  ⟨fun ledger => h ledger, by rintro ledger _ ⟨⟩⟩

/-- A reading may come first. -/
theorem confined_after {m : Reading α} {f : α → ExceptT ε Reading β} (hm : Appends allowed m)
    (hf : ∀ a, Confined allowed faults (f a)) : Confined allowed faults (liftM m >>= f) :=
  (confined_lift hm).bind hf

theorem Confined.mono {wider : ε → Prop} {m : ExceptT ε Reading α}
    (h : Confined allowed faults m) (hwider : ∀ e, faults e → wider e) :
    Confined allowed wider m :=
  ⟨h.appends, h.throws.mono fun _ hx e he => hwider e (hx e he)⟩

/-- What is known of the result of a reading may be used behind it. -/
theorem confined_knowing {P : α → Prop} {m : Reading α} {f : α → ExceptT ε Reading β}
    (hm : Appends allowed m) (hP : Ensures P m)
    (hf : ∀ a, P a → Confined allowed faults (f a)) : Confined allowed faults (liftM m >>= f) := by
  constructor
  · intro ledger
    exact (hm ledger).trans ((hf _ (hP ledger)).appends (m.run ledger).2)
  · intro ledger
    exact (hf _ (hP ledger)).throws (m.run ledger).2

theorem confined_firstTrue {faults : Fault → Prop} {take : Reading Unit}
    {test : α → Judging Bool} {candidates : List α} (htake : Appends allowed take)
    (htest : ∀ c ∈ candidates, Confined allowed faults (test c)) :
    Confined allowed faults (firstTrue take test candidates) := by
  induction candidates with
  | nil => exact confined_pure _
  | cons c cs ih =>
    rw [List.forall_mem_cons] at htest
    refine confined_after htake fun _ => htest.1.bind fun found => ?_
    split
    · exact confined_pure _
    · exact ih htest.2

end Judging

open Judging

/-! ## Reading superpositions -/

/-- Asking for the candidates of a superposition and taking them is allowed; with a list in memory
neither is noticed. -/
def Handle.Permits (allowed : Event → Prop) (handle : Handle) : Prop :=
  handle.source ≠ .owned →
    allowed (.asked handle.identity) ∧ allowed (.taken handle.identity)

theorem Handle.permits_isRead (handle : Handle) : handle.Permits Event.IsRead :=
  fun _ => ⟨trivial, trivial⟩

namespace Value

/-- The handle of a superposition. -/
def outermost : Value → List Handle
  | .superposition handle _ => [handle]
  | _ => []

mutual

/-- The handles of the superpositions that are candidates or elements somewhere in a value.  Those
that are the values of fields, or the value itself, are not among them. -/
def nested : Value → List Handle
  | .array items => itemsNested items
  | .object fields => fieldsNested fields
  | .record _ _ fields => fieldsNested fields
  | .superposition _ candidates => itemsNested candidates
  | _ => []

/-- The handles of the superpositions that some values are, or that are nested in them. -/
def itemsNested : List Value → List Handle
  | [] => []
  | v :: vs => outermost v ++ nested v ++ itemsNested vs

/-- The handles of the superpositions that are nested in some named values. -/
def fieldsNested : List (String × Value) → List Handle
  | [] => []
  | (_, v) :: fields => nested v ++ fieldsNested fields

end

/-- Reading a superposition, its candidates and the elements among them is allowed. -/
def Permits (allowed : Event → Prop) (v : Value) : Prop :=
  ∀ handle ∈ v.outermost ++ v.nested, handle.Permits allowed

theorem permits_isRead (v : Value) : v.Permits Event.IsRead :=
  fun handle _ => handle.permits_isRead

theorem forall_itemsNested {P : Handle → Prop} {items : List Value} :
    (∀ handle ∈ itemsNested items, P handle) ↔
      ∀ v ∈ items, ∀ handle ∈ v.outermost ++ v.nested, P handle := by
  induction items with
  | nil => simp [itemsNested]
  | cons v vs ih =>
    rw [itemsNested, List.forall_mem_append, ih, List.forall_mem_cons]

section

variable {allowed : Event → Prop}

@[simp] theorem permits_array {items : List Value} :
    (Value.array items).Permits allowed ↔ ∀ item ∈ items, item.Permits allowed :=
  forall_itemsNested

@[simp] theorem permits_superposition {handle : Handle} {candidates : List Value} :
    (Value.superposition handle candidates).Permits allowed ↔
      handle.Permits allowed ∧ ∀ c ∈ candidates, c.Permits allowed :=
  List.forall_mem_cons.trans (and_congr_right' forall_itemsNested)

@[simp] theorem permits_null : Value.null.Permits allowed :=
  List.forall_mem_nil _

end

end Value

namespace Handle

variable {allowed : Event → Prop} {handle : Handle}

theorem appends_ask (h : handle.Permits allowed) : Appends allowed handle.ask := by
  intro ledger
  obtain ⟨identity, source⟩ := handle
  cases source with
  | owned => exact ledger.extends_refl
  | supplied | singlePass => exact ledger.extends_note (h (by simp)).1

theorem appends_take (h : handle.Permits allowed) : Appends allowed handle.take := by
  intro ledger
  obtain ⟨identity, source⟩ := handle
  cases source with
  | owned => exact ledger.extends_refl
  | supplied | singlePass => exact ledger.extends_note (h (by simp)).2

/-- Taking all candidates is taking one again and again. -/
theorem appends_takeAll (htake : Appends allowed handle.take) (candidates : List Value) :
    Appends allowed (handle.takeAll candidates) := by
  have htakes : ∀ cs : List Value, Appends allowed (cs.forM fun _ => handle.take) := by
    intro cs
    induction cs with
    | nil => exact appends_pure _
    | cons c cs ih => exact htake.bind fun _ => ih
  exact (htakes candidates).bind fun _ => appends_pure _

theorem appends_readAll (h : handle.Permits allowed) (candidates : List Value) :
    Appends allowed (handle.readAll candidates) := by
  refine (appends_ask h).bind fun answer => ?_
  split
  · exact appends_takeAll (appends_take h) candidates
  · exact appends_pure _

/-- The candidates are those of the superposition, if it answers. -/
theorem ensures_readAll_sublist (handle : Handle) (candidates : List Value) :
    Ensures (List.Sublist · candidates) (handle.readAll candidates) := by
  refine (ensures_true handle.ask).bind fun answer _ => ?_
  split
  · exact (Value.ensures_takeAll handle candidates).mono fun _ h => h ▸ List.Sublist.refl _
  · exact ensures_pure (List.nil_sublist _)

/-- Asking a superposition, and going on with its candidates if it answers. -/
theorem confined_ask {faults : Fault → Prop} (h : handle.Permits allowed) {found : Judging Bool}
    (hfound : Confined allowed faults found) :
    Confined allowed faults (do if ← handle.ask then found else return false) := by
  refine confined_after (appends_ask h) fun answer => ?_
  split
  · exact hfound
  · exact confined_pure _

end Handle

namespace Value

section

variable {allowed : Event → Prop} {v : Value}

theorem appends_ofCandidates (candidates : List Value) :
    Appends allowed (ofCandidates candidates) := by
  intro ledger
  match candidates with
  | [] | [_] | _ :: _ :: _ => exact ⟨[], rfl, by simp⟩

/-- A superposition of the solver is in memory. -/
theorem ensures_ofCandidates_permits {candidates : List Value}
    (h : ∀ c ∈ candidates, c.Permits allowed) :
    Ensures (Permits allowed) (ofCandidates candidates) := by
  intro ledger
  match candidates with
  | [] => exact permits_null
  | [c] => exact h c (by simp)
  | _ :: _ :: _ => exact permits_superposition.2 ⟨fun howned => absurd rfl howned, h⟩

theorem appends_settle (h : v.Permits allowed) : Appends allowed v.settle := by
  cases v with
  | superposition handle candidates =>
    exact (Handle.appends_readAll (permits_superposition.1 h).1 candidates).bind fun _ =>
      appends_ofCandidates _
  | _ => exact appends_pure _

theorem ensures_settle_permits (h : v.Permits allowed) : Ensures (Permits allowed) v.settle := by
  cases v with
  | superposition handle candidates =>
    refine (handle.ensures_readAll_sublist candidates).bind fun found hfound => ?_
    exact ensures_ofCandidates_permits fun c hc =>
      (permits_superposition.1 h).2 c (hfound.subset hc)
  | _ => exact ensures_pure h

theorem appends_isTruthy (h : v.Permits allowed) : Appends allowed v.isTruthy := by
  cases v with
  | superposition handle candidates =>
    have hhandle := (permits_superposition.1 h).1
    refine (Handle.appends_ask hhandle).bind fun answer => ?_
    split
    · cases candidates with
      | nil => exact appends_pure _
      | cons c cs => exact (Handle.appends_take hhandle).bind fun _ => appends_pure _
    · exact appends_pure _
  | _ => exact appends_pure _

end

/-! ## Comparing values -/

variable {allowed : Event → Prop} {left right : Value}

section

variable {ignores : Value → Bool} {test : Value → Value → Judging Bool} {faults : Fault → Prop}

theorem confined_searchRight (htest : ∀ a b, Confined allowed faults (test a b)) (left : Value)
    (hright : right.Permits allowed) :
    Confined allowed faults (searchRight ignores test left right) := by
  induction right using candidates_induction with
  | single right hsingle =>
    rw [searchRight_of_isSingle left hsingle]
    split
    · exact confined_pure _
    · exact htest left right
  | superposition handle candidates ih =>
    rw [permits_superposition] at hright
    rw [searchRight, searchRightAll_eq]
    exact Handle.confined_ask hright.1
      (confined_firstTrue (Handle.appends_take hright.1) fun c hc => ih c hc (hright.2 c hc))

/-- A search fails as its test does. -/
theorem confined_search (htest : ∀ a b, Confined allowed faults (test a b))
    (hleft : left.Permits allowed) (hright : right.Permits allowed) :
    Confined allowed faults (search ignores test left right) := by
  induction left using candidates_induction generalizing right with
  | single left hsingle =>
    rw [search_of_isSingle hsingle]
    split
    · exact confined_pure _
    · exact confined_searchRight htest left hright
  | superposition handle candidates ih =>
    rw [permits_superposition] at hleft
    rw [search]
    split
    · exact confined_pure _
    · refine confined_knowing (appends_settle hright) (ensures_settle_permits hright) ?_
      intro copy hcopy
      rw [searchAll_eq]
      exact Handle.confined_ask hleft.1 (confined_firstTrue (Handle.appends_take hleft.1)
        fun c hc => ih c hc (hleft.2 c hc) hcopy)

end

/-- Equality never fails. -/
theorem confined_equivalent (faults : Fault → Prop) (hleft : left.Permits allowed)
    (hright : right.Permits allowed) : Confined allowed faults (equivalent left right) :=
  confined_search (fun _ _ => confined_pure _) hleft hright

theorem isType_of_order {left right : Value} {fault : Fault}
    (h : order left right = .error fault) : fault.IsType := by
  unfold order at h
  split at h <;> cases h
  trivial

theorem confined_ordered (accepts : Ordering → Bool) (hleft : left.Permits allowed)
    (hright : right.Permits allowed) :
    Confined allowed Fault.IsType (ordered accepts left right) := by
  refine confined_search (fun a b => ?_) hleft hright
  cases horder : order a b with
  | ok found => exact confined_pure _
  | error fault => exact confined_throw (isType_of_order horder)

theorem confined_equivalentToAny (faults : Fault → Prop) {v : Value} {items : List Value}
    (hv : v.Permits allowed) (hitems : ∀ item ∈ items, item.Permits allowed) :
    Confined allowed faults (equivalentToAny v items) := by
  rw [equivalentToAny_eq]
  exact confined_firstTrue (appends_pure _) fun item hitem =>
    confined_equivalent faults hv (hitems item hitem)

theorem confined_memberOf {needle haystack : Value} (hneedle : needle.Permits allowed)
    (hhaystack : haystack.Permits allowed) :
    Confined allowed Fault.IsType (memberOf needle haystack) := by
  cases haystack with
  | null => exact confined_pure _
  | array items => exact confined_equivalentToAny _ hneedle (permits_array.1 hhaystack)
  | superposition handle candidates =>
    rw [permits_superposition] at hhaystack
    rw [memberOf, candidateEquivalent_eq]
    exact Handle.confined_ask hhaystack.1 (confined_firstTrue (Handle.appends_take hhaystack.1)
      fun c hc => confined_equivalent _ hneedle (hhaystack.2 c hc))
  | string whole =>
    cases needle with
    | string part => exact confined_pure _
    | _ => exact confined_throw trivial
  | object fields =>
    cases needle with
    | string name => exact confined_pure _
    | _ => exact confined_throw trivial
  | _ => cases needle <;> exact confined_throw trivial

theorem confined_member (hleft : left.Permits allowed) (hright : right.Permits allowed) :
    Confined allowed Fault.IsType (member left right) := by
  induction left using candidates_induction generalizing right with
  | single left hsingle =>
    rw [member_of_isSingle hsingle]
    split
    · exact confined_pure _
    · exact confined_memberOf hleft hright
  | superposition handle candidates ih =>
    rw [permits_superposition] at hleft
    rw [member]
    split
    · exact confined_pure _
    · refine confined_knowing (appends_settle hright) (ensures_settle_permits hright) ?_
      intro copy hcopy
      rw [memberAll_eq]
      exact Handle.confined_ask hleft.1 (confined_firstTrue (Handle.appends_take hleft.1)
        fun c hc => ih c hc (hleft.2 c hc) hcopy)

theorem appends_elements {v : Value} (h : v.Permits allowed) : Appends allowed v.elements := by
  cases v with
  | superposition handle candidates =>
    exact Handle.appends_readAll (permits_superposition.1 h).1 candidates
  | _ => exact appends_pure _

theorem ensures_elements_permits {v : Value} (h : v.Permits allowed) :
    Ensures (fun found => ∀ c ∈ found, c.Permits allowed) v.elements := by
  cases v with
  | null => exact ensures_pure (by simp)
  | superposition handle candidates =>
    exact (handle.ensures_readAll_sublist candidates).mono fun found hfound c hc =>
      (permits_superposition.1 h).2 c (hfound.subset hc)
  | array items => exact ensures_pure (permits_array.1 h)
  | _ => exact ensures_pure (List.forall_mem_singleton.2 h)

theorem confined_allIn (faults : Fault → Prop) {take : Reading Unit}
    {others elements : List Value} (htake : Appends allowed take)
    (hothers : ∀ c ∈ others, c.Permits allowed) (helements : ∀ c ∈ elements, c.Permits allowed) :
    Confined allowed faults (allIn take others elements) := by
  induction elements with
  | nil => exact confined_pure _
  | cons element rest ih =>
    rw [List.forall_mem_cons] at helements
    refine confined_after htake fun _ => ?_
    refine (confined_equivalentToAny _ helements.1 hothers).bind fun found => ?_
    split
    · exact ih helements.2
    · exact confined_pure _

/-- The subset test of two collections never fails. -/
theorem confined_subset_of_isCollection (faults : Fault → Prop)
    (hleftKind : left.isCollection = true) (hrightKind : right.isCollection = true)
    (hleft : left.Permits allowed) (hright : right.Permits allowed) :
    Confined allowed faults (subset left right) := by
  unfold subset
  rw [hleftKind, hrightKind]
  refine confined_knowing (appends_elements hright) (ensures_elements_permits hright) ?_
  intro others hothers
  cases left with
  | superposition handle candidates =>
    rw [permits_superposition] at hleft
    refine confined_after (Handle.appends_ask hleft.1) fun answer => ?_
    split
    · exact confined_allIn faults (Handle.appends_take hleft.1) hothers hleft.2
    · exact confined_pure _
  | array items => exact confined_allIn faults (appends_pure _) hothers (permits_array.1 hleft)
  | _ => exact confined_pure _

theorem confined_subset (hleft : left.Permits allowed) (hright : right.Permits allowed) :
    Confined allowed Fault.IsType (subset left right) := by
  cases hleftKind : left.isCollection with
  | false =>
    unfold subset
    rw [hleftKind]
    exact confined_throw trivial
  | true =>
  cases hrightKind : right.isCollection with
  | false =>
    unfold subset
    rw [hleftKind, hrightKind]
    exact confined_throw trivial
  | true => exact confined_subset_of_isCollection _ hleftKind hrightKind hleft hright

theorem confined_matched (pattern : Pattern) {v : Value} (h : v.Permits allowed) :
    Confined allowed Fault.IsType (matched pattern v) := by
  induction v using candidates_induction with
  | single v hsingle =>
    cases v with
    | superposition => exact absurd rfl (hsingle _ _)
    | array | object | record => exact confined_throw trivial
    | _ => exact confined_pure _
  | superposition handle candidates ih =>
    rw [permits_superposition] at h
    rw [matched, matchedAny_eq]
    exact Handle.confined_ask h.1
      (confined_firstTrue (Handle.appends_take h.1) fun c hc => ih c hc (h.2 c hc))

theorem confined_searched {subject : Value} (hsubject : subject.Permits allowed)
    (pattern : Value) : Confined allowed Comparison.search.CanRaise (searched subject pattern) := by
  have hraise : ∀ fault, Fault.IsType fault → Comparison.search.CanRaise fault := by
    intro fault h
    cases fault with
    | type => trivial
    | _ => exact h.elim
  cases pattern with
  | null => exact confined_pure _
  | string s =>
    simp only [searched]
    cases Pattern.ofText? s.toList with
    | none => exact confined_throw trivial
    | some pattern => exact (confined_matched pattern hsubject).mono hraise
  | _ => exact confined_throw trivial

/-- **A comparison reads the values, and fails as comparisons of its kind can.** -/
theorem confined_holds (relation : Comparison) (hleft : left.Permits allowed)
    (hright : right.Permits allowed) :
    Confined allowed relation.CanRaise (relation.holds left right) := by
  have hraise : relation ≠ .equal → ∀ fault, Fault.IsType fault → relation.CanRaise fault := by
    intro hne fault h
    cases fault with
    | type =>
      cases relation with
      | equal => exact absurd rfl hne
      | _ => trivial
    | _ => exact h.elim
  cases relation with
  | equal => exact confined_equivalent _ hleft hright
  | member => exact (confined_member hleft hright).mono (hraise (by simp))
  | subset => exact (confined_subset hleft hright).mono (hraise (by simp))
  | greater => exact (confined_ordered _ hleft hright).mono (hraise (by simp))
  | atLeast => exact (confined_ordered _ hleft hright).mono (hraise (by simp))
  | search => exact confined_searched hleft right

end Value

/-- A judgement fails at its node. -/
theorem Solving.confined_judge (node : Expr) {allowed : Event → Prop} {faults : Fault → Prop}
    {judging : Judging Bool} (h : Confined allowed faults judging) :
    Confined allowed (fun e => ∃ fault, e = .at node fault ∧ faults fault)
      (judge node judging) := by
  refine ⟨fun ledger => h.appends ledger, fun ledger e he => ?_⟩
  have hmap : ((judging.run ledger).1.mapError (SolveError.at node)) = .error e := he
  cases hx : (judging.run ledger).1 with
  | ok found =>
    rw [hx] at hmap
    cases hmap
  | error fault =>
    rw [hx] at hmap
    cases hmap
    exact ⟨fault, rfl, h.throws ledger fault hx⟩

/-! ## Following paths -/

namespace Value

theorem appends_hits (v : Value) : Appends Event.IsRead (hits v) := by
  cases v with
  | superposition handle candidates => exact Handle.appends_readAll handle.permits_isRead candidates
  | _ => exact appends_pure _

theorem appends_descend {name : String} {follow : Value → Reading Value}
    (hfollow : ∀ v, Appends Event.IsRead (follow v)) (v : Value) :
    Appends Event.IsRead (descend name follow v) := by
  induction v using candidates_induction with
  | single v hsingle =>
    rw [descend_of_isSingle name follow hsingle]
    split
    · exact hfollow _
    · exact appends_pure _
  | superposition handle candidates ih =>
    have hall : Appends Event.IsRead (descendAll name follow handle candidates) := by
      induction candidates with
      | nil => exact appends_pure _
      | cons c cs ihAll =>
        rw [List.forall_mem_cons] at ih
        rw [descendAll_cons]
        refine (Handle.appends_take handle.permits_isRead).bind fun _ => ih.1.bind fun found => ?_
        exact (appends_hits found).bind fun _ => (ihAll ih.2).bind fun _ => appends_pure _
    rw [descend]
    refine (Handle.appends_ask handle.permits_isRead).bind fun answer => ?_
    split
    · exact hall.bind fun _ => appends_ofCandidates _
    · exact appends_pure _

theorem appends_resolve (path : List String) (v : Value) :
    Appends Event.IsRead (resolve path v) := by
  induction path generalizing v with
  | nil => exact appends_pure _
  | cons name rest ih => exact appends_descend ih v

end Value

/-! ## Arithmetic -/

namespace Arithmetic

theorem eq_overflow_of_integer {n : Int} {fault : Fault} (h : integer n = .error fault) :
    fault = .overflow := by
  unfold integer at h
  split at h <;> cases h
  rfl

theorem canRaise_overflow (operation : Arithmetic) : operation.CanRaise .overflow := by
  cases operation <;> trivial

theorem canRaise_type (operation : Arithmetic) (cause : TypeCause) :
    operation.CanRaise (.type cause) := by
  cases operation <;> trivial

/-- **Arithmetic fails as operations of its kind can.** -/
theorem canRaise_of_apply {operation : Arithmetic} {left right : Value} {fault : Fault}
    (h : operation.apply left right = .error fault) : operation.CanRaise fault := by
  unfold apply at h
  split at h
  · unfold ofIntegers at h
    split at h
    case h_4 =>
      split_ifs at h
      · cases h
        trivial
      · rw [eq_overflow_of_integer h]
        exact canRaise_overflow _
    all_goals
      rw [eq_overflow_of_integer h]
      exact canRaise_overflow _
  · cases h
  · cases h
  · cases h
  · split_ifs at h
    cases h
    exact canRaise_type _ _
  · cases h
    exact canRaise_type _ _

end Arithmetic

end FieldQuery
