import FieldQuery.Proofs.Effects
import FieldQuery.Proofs.SinglePass

/-!
# How often a superposition is read

Following a path to a superposition asks it for its candidates, and what is handed on is a copy
that can be gone through without asking again.  So each place of the data is worth one read, which
is either spent or still to be had from the result.  With this account a solve asks a superposition
as often as fields of the same context are mentioned in the query, and once if none of them is
mentioned twice: a field path within another one, or within a quantifier, reads what the outer one
found.

The copy is of the superposition alone.  Superpositions among its candidates, or among the elements
of a list, are not copied and are asked whenever they are come across.

* `Value.occurrences` — at how many places of a value a superposition is.
* `Value.Shelters` — it is nowhere a candidate or an element.
* `Expr.readings` — how many times a query mentions fields of one context.
* `Reading.Pays`, `Judging.Affords` — what a computation asks, and what its result may still cost,
  come out of a budget.
* `Value.pays_resolve`, `Value.pays_settle` — following a path and copying what is found spend
  what the result is short of.
* `Expr.affords_solve` — a place is worth a read for each mention.
* `Query.asks_solve_le` — so often is a superposition asked.
-/

namespace FieldQuery

open Reading Judging

/-! ## Places of a superposition -/

/-- Is it the application's superposition with this identity? -/
def Handle.isSupplied (i : Identity) (handle : Handle) : Bool :=
  handle.identity == i && handle.source != .owned

/-- Asking this superposition costs one read, and any other nothing. -/
def Handle.price (i : Identity) (handle : Handle) : Nat :=
  if handle.isSupplied i then 1 else 0

/-- An event that does not ask the superposition. -/
def Event.Spares (i : Identity) (event : Event) : Prop :=
  event ≠ .asked i

theorem Handle.permits_spares {i : Identity} {handle : Handle} (h : handle.isSupplied i = false) :
    handle.Permits (Event.Spares i) := by
  intro hsource
  refine ⟨?_, by rintro ⟨⟩⟩
  rintro ⟨⟩
  simp [isSupplied, hsource] at h

namespace Value

/-- At how many places of a value the application's superposition is. -/
def occurrences (i : Identity) (v : Value) : Nat :=
  v.handles.countP (Handle.isSupplied i)

/-- At how many places of some values the application's superposition is. -/
def occurrencesOfAll (i : Identity) : List Value → Nat
  | [] => 0
  | v :: vs => v.occurrences i + occurrencesOfAll i vs

/-- The application's superposition is nowhere a candidate or an element. -/
def Shelters (i : Identity) (v : Value) : Prop :=
  ∀ handle ∈ v.nested, handle.isSupplied i = false

/-- The application's superposition is nowhere a candidate or an element, and not the value
itself. -/
def Spares (i : Identity) (v : Value) : Prop :=
  ∀ handle ∈ v.outermost ++ v.nested, handle.isSupplied i = false

variable {i : Identity} {v w : Value}

theorem occurrencesOfAll_singleton (v : Value) : occurrencesOfAll i [v] = v.occurrences i :=
  Nat.add_zero _

theorem occurrencesOfAll_append (vs ws : List Value) :
    occurrencesOfAll i (vs ++ ws) = occurrencesOfAll i vs + occurrencesOfAll i ws := by
  induction vs with
  | nil => rw [List.nil_append, occurrencesOfAll, Nat.zero_add]
  | cons v vs ih => rw [List.cons_append, occurrencesOfAll, occurrencesOfAll, ih, Nat.add_assoc]

theorem occurrencesOfAll_le_of_sublist {vs ws : List Value} (h : vs.Sublist ws) :
    occurrencesOfAll i vs ≤ occurrencesOfAll i ws := by
  induction h with
  | slnil => exact Nat.le_refl _
  | cons w _ ih => exact Nat.le_add_left_of_le ih
  | cons_cons w _ ih => exact Nat.add_le_add_left ih _

theorem countP_itemHandles (vs : List Value) :
    (itemHandles vs).countP (Handle.isSupplied i) = occurrencesOfAll i vs := by
  induction vs with
  | nil => rfl
  | cons v vs ih => rw [itemHandles, List.countP_append, ih, occurrencesOfAll, occurrences]

theorem occurrences_array (items : List Value) :
    (Value.array items).occurrences i = occurrencesOfAll i items :=
  countP_itemHandles items

theorem occurrences_superposition (handle : Handle) (candidates : List Value) :
    (Value.superposition handle candidates).occurrences i =
      handle.price i + occurrencesOfAll i candidates := by
  rw [occurrences, handles, List.countP_cons, countP_itemHandles, Nat.add_comm]
  rfl

theorem Spares.permits (h : v.Spares i) : v.Permits (Event.Spares i) :=
  fun handle hhandle => Handle.permits_spares (h handle hhandle)

theorem Spares.shelters (h : v.Spares i) : v.Shelters i :=
  fun handle hhandle => h handle (List.mem_append_right _ hhandle)

theorem Shelters.spares (h : v.Shelters i) (hsingle : v.IsSingle) : v.Spares i := by
  cases v with
  | superposition => exact absurd rfl (hsingle _ _)
  | _ => exact h

theorem shelters_array {items : List Value} :
    (Value.array items).Shelters i ↔ ∀ item ∈ items, item.Spares i :=
  forall_itemsNested

theorem shelters_superposition {handle : Handle} {candidates : List Value} :
    (Value.superposition handle candidates).Shelters i ↔ ∀ c ∈ candidates, c.Spares i :=
  forall_itemsNested

theorem spares_null : Value.null.Spares i :=
  List.forall_mem_nil _

mutual

/-- A superposition that is a candidate or an element is one of those in the value. -/
theorem nested_sublist : (v : Value) → (v.outermost ++ v.nested).Sublist v.handles
  | .array items => itemsNested_sublist items
  | .object fields => fieldsNested_sublist fields
  | .record _ _ fields => fieldsNested_sublist fields
  | .superposition handle candidates => (itemsNested_sublist candidates).cons_cons handle
  | .null | .boolean _ | .integer _ | .float _ | .string _ => List.Sublist.refl _

theorem itemsNested_sublist : (vs : List Value) → (itemsNested vs).Sublist (itemHandles vs)
  | [] => List.Sublist.refl _
  | v :: vs => (nested_sublist v).append (itemsNested_sublist vs)

theorem fieldsNested_sublist :
    (fields : List (String × Value)) → (fieldsNested fields).Sublist (fieldHandles fields)
  | [] => List.Sublist.refl _
  | (_, v) :: fields =>
    ((List.sublist_append_right _ _).trans (nested_sublist v)).append
      (fieldsNested_sublist fields)

end

theorem spares_of_occurrences (h : v.occurrences i = 0) : v.Spares i := by
  intro handle hhandle
  rw [occurrences, List.countP_eq_zero] at h
  simpa using h handle ((nested_sublist v).subset hhandle)

/-! ### Fields -/

theorem sublist_of_lookup {name : String} {fields : List (String × Value)}
    (h : lookup name fields = some v) :
    v.nested.Sublist (fieldsNested fields) ∧ v.handles.Sublist (fieldHandles fields) := by
  induction fields with
  | nil => simp [lookup] at h
  | cons field fields ih =>
    obtain ⟨key, w⟩ := field
    unfold lookup at h
    split at h
    · obtain rfl := Option.some.inj h
      exact ⟨List.sublist_append_left _ _, List.sublist_append_left _ _⟩
    · obtain ⟨hnested, hhandles⟩ := ih h
      exact ⟨hnested.trans (List.sublist_append_right _ _),
        hhandles.trans (List.sublist_append_right _ _)⟩

theorem sublist_of_next? {name : String} (h : v.next? name = some w) :
    w.nested.Sublist v.nested ∧ w.handles.Sublist v.handles := by
  obtain rfl | ⟨fields, hfound, rfl | ⟨identity, typeName, rfl⟩⟩ := next?_cases h
  · exact ⟨List.Sublist.refl _, List.Sublist.refl _⟩
  · exact sublist_of_lookup hfound
  · exact sublist_of_lookup hfound

theorem Shelters.next? {name : String} (hv : v.Shelters i) (h : v.next? name = some w) :
    w.Shelters i :=
  fun handle hhandle => hv handle ((sublist_of_next? h).1.subset hhandle)

theorem occurrences_le_of_next? {name : String} (h : v.next? name = some w) :
    w.occurrences i ≤ v.occurrences i :=
  (sublist_of_next? h).2.countP_le

/-! ### What a quantifier ranges over -/

theorem Shelters.alternatives (h : v.Shelters i) : ∀ c ∈ v.alternatives, c.Shelters i := by
  intro c hc
  unfold Value.alternatives at hc
  split at hc
  · simp at hc
  · exact (shelters_superposition.1 h c hc).shelters
  · exact (shelters_array.1 h c hc).shelters
  · rw [List.mem_singleton] at hc
    exact hc ▸ h

theorem occurrencesOfAll_alternatives_le (v : Value) :
    occurrencesOfAll i v.alternatives ≤ v.occurrences i := by
  unfold alternatives
  split
  · exact Nat.zero_le _
  · rw [occurrences_superposition]
    exact Nat.le_add_left _ _
  · exact Nat.le_of_eq (occurrences_array _).symm
  · exact Nat.le_of_eq (occurrencesOfAll_singleton _)

end Value

/-! ## Paying from a budget -/

namespace Ledger

variable {i : Identity} {allowed : Event → Prop} {ledger after : Ledger}

theorem Extends.asks_le (h : ledger.Extends allowed after) : ledger.asks i ≤ after.asks i := by
  obtain ⟨new, hnew, -⟩ := h
  rw [asks, asks, hnew, List.countP_append]
  exact Nat.le_add_left _ _

theorem Extends.asks_eq (h : ledger.Extends (Event.Spares i) after) :
    after.asks i = ledger.asks i := by
  obtain ⟨new, hnew, hspares⟩ := h
  rw [asks, asks, hnew, List.countP_append, Nat.add_eq_right, List.countP_eq_zero]
  intro event hevent
  cases event with
  | asked j => exact fun hj => hspares _ hevent (by rw [beq_iff_eq.1 hj])
  | _ => simp

end Ledger

namespace Reading

variable {α β : Type} {i : Identity} {budget : Nat} {Q : α → Prop} {rest : α → Nat}

/-- The reads of a superposition, and what is set aside for the result, come out of a budget; and
the result is as it should be. -/
def Pays (i : Identity) (budget : Nat) (Q : α → Prop) (rest : α → Nat) (m : Reading α) : Prop :=
  ∀ ledger : Ledger, Q (m.run ledger).1 ∧
    (m.run ledger).2.asks i + rest (m.run ledger).1 ≤ ledger.asks i + budget

theorem pays_pure {a : α} (h : Q a) (hrest : rest a ≤ budget) : Pays i budget Q rest (pure a) :=
  fun _ => ⟨h, Nat.add_le_add_left hrest _⟩

/-- What is set aside for a result is the budget of what is done with it. -/
theorem Pays.bind {R : β → Prop} {left : β → Nat} {m : Reading α} {f : α → Reading β}
    (hm : Pays i budget Q rest m) (hf : ∀ a, Q a → Pays i (rest a) R left (f a)) :
    Pays i budget R left (m >>= f) := by
  intro ledger
  obtain ⟨hQ, hasks⟩ := hm ledger
  obtain ⟨hR, hasks'⟩ := hf _ hQ (m.run ledger).2
  exact ⟨hR, Nat.le_trans hasks' hasks⟩

/-- What a computation does not need is left over. -/
theorem Pays.frame {m : Reading α} (h : Pays i budget Q rest m) (more : Nat) :
    Pays i (budget + more) Q (fun a => rest a + more) m := by
  intro ledger
  obtain ⟨hQ, hasks⟩ := h ledger
  exact ⟨hQ, by dsimp only; omega⟩

theorem Pays.mono {R : α → Prop} {left : α → Nat} {m : Reading α} (h : Pays i budget Q rest m)
    (hresult : ∀ a, Q a → R a ∧ left a ≤ rest a) : Pays i budget R left m := by
  intro ledger
  obtain ⟨hQ, hasks⟩ := h ledger
  obtain ⟨hR, hleft⟩ := hresult _ hQ
  exact ⟨hR, Nat.le_trans (Nat.add_le_add_left hleft _) hasks⟩

/-- Nothing but the budget can be set aside. -/
theorem Pays.bounded {allowed : Event → Prop} {m : Reading α} (h : Pays i budget Q rest m)
    (hm : Appends allowed m) : Pays i budget (fun a => Q a ∧ rest a ≤ budget) rest m := by
  intro ledger
  obtain ⟨hQ, hasks⟩ := h ledger
  have hle := (hm ledger).asks_le (i := i)
  exact ⟨⟨hQ, by omega⟩, hasks⟩

/-- Where the superposition is not asked, the whole budget is left. -/
theorem pays_of_appends {m : Reading α} (hm : Appends (Event.Spares i) m) (hQ : Ensures Q m) :
    Pays i budget Q (fun _ => budget) m :=
  fun ledger => ⟨hQ ledger, Nat.le_of_eq (congrArg (· + budget) (hm ledger).asks_eq)⟩

end Reading

namespace Judging

variable {ε α β : Type} {i : Identity} {budget : Nat} {Q : α → Prop} {rest : α → Nat}
  {R : β → Prop} {left : β → Nat}

/-- What is set aside for the result, if there is one. -/
def remaining (rest : α → Nat) : Except ε α → Nat
  | .ok a => rest a
  | .error _ => 0

/-- The reads of a superposition come out of a budget, also if the computation fails, and so does
what is set aside for a result. -/
def Affords (i : Identity) (budget : Nat) (Q : α → Prop) (rest : α → Nat)
    (m : ExceptT ε Reading α) : Prop :=
  Pays i budget (fun x => ∀ a, x = .ok a → Q a) (remaining rest) m.run

theorem affords_pure {a : α} (h : Q a) (hrest : rest a ≤ budget) :
    Affords (ε := ε) i budget Q rest (pure a) :=
  pays_pure (by rintro _ ⟨⟩; exact h) hrest

theorem affords_throw (e : ε) :
    Affords i budget Q rest (throw e : ExceptT ε Reading α) :=
  pays_pure (by rintro _ ⟨⟩) (Nat.zero_le _)

theorem Affords.bind {m : ExceptT ε Reading α} {f : α → ExceptT ε Reading β}
    (hm : Affords i budget Q rest m) (hf : ∀ a, Q a → Affords i (rest a) R left (f a)) :
    Affords i budget R left (m >>= f) := by
  unfold Affords
  rw [ExceptT.run_bind]
  refine Pays.bind hm fun x hx => ?_
  cases x with
  | ok a => exact hf a (hx a rfl)
  | error e => exact pays_pure (by rintro _ ⟨⟩) (Nat.zero_le _)

theorem Affords.within {more : Nat} {m : ExceptT ε Reading α} (h : Affords i budget Q rest m)
    (hle : budget ≤ more) : Affords i more Q rest m :=
  fun ledger => ⟨(h ledger).1, Nat.le_trans (h ledger).2 (Nat.add_le_add_left hle _)⟩

theorem Affords.mono {P : α → Prop} {m : ExceptT ε Reading α} (h : Affords i budget Q rest m)
    (hQ : ∀ a, Q a → P a) : Affords i budget P rest m :=
  Pays.mono h fun _ hx => ⟨fun a ha => hQ a (hx a ha), Nat.le_refl _⟩

/-- What a computation does not need is left for the next one. -/
theorem Affords.bind_add {more : Nat} {m : ExceptT ε Reading α} {f : α → ExceptT ε Reading β}
    (hm : Affords i budget Q rest m) (hf : ∀ a, Q a → Affords i (rest a + more) R left (f a)) :
    Affords i (budget + more) R left (m >>= f) := by
  have hframe : Affords i (budget + more) Q (fun a => rest a + more) m := by
    refine (Pays.frame hm more).mono fun x hx => ⟨hx, ?_⟩
    cases x with
    | ok a => exact Nat.le_refl _
    | error e => exact Nat.zero_le _
  exact hframe.bind hf

/-- A reading may come first. -/
theorem affords_lift {m : Reading α} {f : α → ExceptT ε Reading β} (hm : Pays i budget Q rest m)
    (hf : ∀ a, Q a → Affords i (rest a) R left (f a)) :
    Affords i budget R left (liftM m >>= f) :=
  fun ledger => hm.bind hf ledger

/-- What does not ask the superposition may come first and spends nothing. -/
theorem affords_after {m : Reading α} {f : α → ExceptT ε Reading β}
    (hm : Appends (Event.Spares i) m) (hf : ∀ a, Affords i budget R left (f a)) :
    Affords i budget R left (liftM m >>= f) :=
  affords_lift (pays_of_appends hm (ensures_true m)) fun a _ => hf a

theorem affords_confined {faults : ε → Prop} {m : ExceptT ε Reading α}
    {f : α → ExceptT ε Reading β} (hm : Confined (Event.Spares i) faults m)
    (hf : ∀ a, Affords i budget R left (f a)) : Affords i budget R left (m >>= f) := by
  have hfree : Affords i budget (fun _ => True) (fun _ => budget) m := by
    refine (pays_of_appends hm.appends (ensures_true _)).mono fun x _ => ⟨fun _ _ => trivial, ?_⟩
    cases x with
    | ok a => exact Nat.le_refl _
    | error e => exact Nat.zero_le _
  exact hfree.bind fun a _ => hf a

end Judging

/-! ## Reading superpositions -/

namespace Handle

variable {i : Identity}

theorem pays_ask (handle : Handle) :
    Pays i (handle.price i) (fun _ => True) (fun _ => 0) handle.ask := by
  intro ledger
  refine ⟨trivial, ?_⟩
  obtain ⟨identity, source⟩ := handle
  cases source with
  | owned => exact Nat.le_add_right _ _
  | supplied | singlePass =>
    refine Nat.le_of_eq ((ledger.asks_note_asked identity i).trans ?_)
    simp [price, isSupplied, List.count_singleton]

/-- Taking candidates is not asking for them. -/
theorem spares_take (handle : Handle) : Appends (Event.Spares i) handle.take := by
  intro ledger
  obtain ⟨identity, source⟩ := handle
  cases source with
  | owned => exact ledger.extends_refl
  | supplied | singlePass => exact ledger.extends_note (by rintro ⟨⟩)

theorem pays_readAll (handle : Handle) (candidates : List Value) :
    Pays i (handle.price i) (List.Sublist · candidates) (fun _ => 0)
      (handle.readAll candidates) := by
  refine handle.pays_ask.bind fun answer _ => ?_
  split
  · refine pays_of_appends (appends_takeAll handle.spares_take candidates) ?_
    exact (Value.ensures_takeAll handle candidates).mono fun _ h => h ▸ List.Sublist.refl _
  · exact pays_pure (List.nil_sublist _) (Nat.le_refl _)

end Handle

namespace Value

variable {i : Identity}

theorem pays_readAll {handle : Handle} {candidates : List Value}
    (h : ∀ c ∈ candidates, c.Spares i) :
    Pays i ((Value.superposition handle candidates).occurrences i)
      (fun found => ∀ c ∈ found, c.Spares i) (occurrencesOfAll i) (handle.readAll candidates) := by
  rw [occurrences_superposition]
  refine ((handle.pays_readAll candidates).frame _).mono fun found hfound => ?_
  refine ⟨fun c hc => h c (hfound.subset hc), ?_⟩
  rw [Nat.zero_add]
  exact occurrencesOfAll_le_of_sublist hfound

theorem pays_ofCandidates {candidates : List Value} (h : ∀ c ∈ candidates, c.Spares i) :
    Pays i (occurrencesOfAll i candidates) (Spares i) (occurrences i)
      (ofCandidates candidates) := by
  have hmade : Ensures (fun v => v.Spares i ∧ v.occurrences i ≤ occurrencesOfAll i candidates)
      (ofCandidates candidates) := by
    intro ledger
    match candidates with
    | [] => exact ⟨spares_null, Nat.le_refl _⟩
    | [c] => exact ⟨h c (by simp), Nat.le_refl _⟩
    | c :: d :: cs =>
      refine ⟨List.forall_mem_cons.2 ⟨by simp [Handle.isSupplied], forall_itemsNested.2 h⟩, ?_⟩
      exact Nat.le_of_eq ((occurrences_superposition _ _).trans (by simp [Handle.price,
        Handle.isSupplied]))
  exact (pays_of_appends (appends_ofCandidates _) hmade).mono fun _ hv => hv

/-- **Making a copy spends what the copy is short of.** -/
theorem pays_settle {v : Value} (h : v.Shelters i) :
    Pays i (v.occurrences i) (Spares i) (occurrences i) v.settle := by
  rcases isSingle_or v with hsingle | ⟨handle, candidates, rfl⟩
  · rw [settle_of_isSingle hsingle]
    exact pays_pure (h.spares hsingle) (Nat.le_refl _)
  · exact (pays_readAll (shelters_superposition.1 h)).bind fun _ => pays_ofCandidates

theorem pays_hits {v : Value} (h : v.Shelters i) :
    Pays i (v.occurrences i) (fun found => ∀ c ∈ found, c.Spares i) (occurrencesOfAll i)
      (hits v) := by
  cases v with
  | null => exact pays_pure (by simp) (Nat.zero_le _)
  | superposition handle candidates => exact pays_readAll (shelters_superposition.1 h)
  | _ =>
    exact pays_pure (List.forall_mem_singleton.2 h) (Nat.le_of_eq (occurrencesOfAll_singleton _))

section

variable {name : String} {follow : Value → Reading Value}

theorem pays_descendAll {handle : Handle} {candidates : List Value}
    (hdescend : ∀ c ∈ candidates,
      Pays i (c.occurrences i) (Shelters i) (occurrences i) (descend name follow c)) :
    Pays i (occurrencesOfAll i candidates) (fun found => ∀ c ∈ found, c.Spares i)
      (occurrencesOfAll i) (descendAll name follow handle candidates) := by
  induction candidates with
  | nil => exact pays_pure (by simp) (Nat.le_refl _)
  | cons c cs ih =>
    rw [List.forall_mem_cons] at hdescend
    rw [descendAll_cons, occurrencesOfAll]
    refine (pays_of_appends handle.spares_take (ensures_true _)).bind fun _ _ => ?_
    refine (hdescend.1.frame _).bind fun next hnext => ?_
    refine ((pays_hits hnext).frame _).bind fun found hfound => ?_
    rw [Nat.add_comm]
    refine ((ih hdescend.2).frame (occurrencesOfAll i found)).bind fun more hmore => ?_
    refine pays_pure (List.forall_mem_append.2 ⟨hfound, hmore⟩) ?_
    exact Nat.le_of_eq ((occurrencesOfAll_append _ _).trans (Nat.add_comm _ _))

/-- One step, if what follows spends what its result is short of. -/
theorem pays_descend (hfollow : ∀ u, u.Shelters i →
      Pays i (u.occurrences i) (Shelters i) (occurrences i) (follow u))
    {v : Value} (h : v.Shelters i) :
    Pays i (v.occurrences i) (Shelters i) (occurrences i) (descend name follow v) := by
  induction v using candidates_induction with
  | single v hsingle =>
    rw [descend_of_isSingle name follow hsingle]
    cases hnext : v.next? name with
    | none => exact pays_pure spares_null.shelters (Nat.zero_le _)
    | some next =>
      intro ledger
      obtain ⟨hresult, hasks⟩ := hfollow next (h.next? hnext) ledger
      exact ⟨hresult, Nat.le_trans hasks (Nat.add_le_add_left (occurrences_le_of_next? hnext) _)⟩
  | superposition handle candidates ih =>
    rw [shelters_superposition] at h
    rw [descend, occurrences_superposition]
    refine (handle.pays_ask.frame _).bind fun answer _ => ?_
    rw [Nat.zero_add]
    split
    · refine (pays_descendAll fun c hc => ih c hc (h c hc).shelters).bind fun found hfound => ?_
      exact (pays_ofCandidates hfound).mono fun v hv => ⟨hv.shelters, Nat.le_refl _⟩
    · exact pays_pure spares_null.shelters (Nat.zero_le _)

end

/-- **Following a path spends what is not found at its end.** -/
theorem pays_resolve (path : List String) {v : Value} (h : v.Shelters i) :
    Pays i (v.occurrences i) (Shelters i) (occurrences i) (resolve path v) := by
  induction path generalizing v with
  | nil => exact pays_pure h (Nat.le_refl _)
  | cons name rest ih => exact pays_descend (fun u hu => ih hu) h

end Value

/-! ## Solving -/

namespace Solution

/-- The value is no superposition that is asked when it is gone through, and holds the
superposition at a bounded number of places. -/
def Keeps (i : Identity) (bound : Nat) (solution : Solution) : Prop :=
  solution.value.Spares i ∧ solution.value.occurrences i ≤ bound

/-- At how many places the value holds the superposition. -/
def held (i : Identity) (solution : Solution) : Nat :=
  solution.value.occurrences i

variable {i : Identity} {budget bound : Nat}

/-- A solution that does not hold the superposition can be had for nothing. -/
theorem affords_pure {solution : Solution} (h : solution.value.occurrences i = 0) :
    Affords (ε := SolveError) i budget (Keeps i bound) (held i) (pure solution) :=
  Judging.affords_pure ⟨Value.spares_of_occurrences h, Nat.le_trans (Nat.le_of_eq h) bound.zero_le⟩
    (Nat.le_trans (Nat.le_of_eq h) budget.zero_le)

theorem affords_plainBool (b : Bool) :
    Affords (ε := SolveError) i budget (Keeps i bound) (held i) (pure (.plainBool b)) :=
  affords_pure rfl

/-- Telling the truth of a solution asks nothing. -/
theorem Keeps.affords_isTruthy {solution : Solution} (h : solution.Keeps i bound) {β : Type}
    {R : β → Prop} {left : β → Nat} {f : Bool → Solving β}
    (hf : ∀ holds, Affords i budget R left (f holds)) :
    Affords i budget R left (liftM solution.value.isTruthy >>= f) :=
  affords_after (Value.appends_isTruthy h.1.permits) hf

end Solution

open Solution (Keeps held)

/-- Of some mentions the first one is worth as many reads as there are places, and each further one
as many as there can be. -/
theorem mul_le_add_pred_mul {n p bound : Nat} (h : p ≤ bound) :
    n * p ≤ p + (n - 1) * bound := by
  cases n with
  | zero => simp
  | succ n =>
    rw [Nat.succ_mul, Nat.add_comm, Nat.add_sub_cancel]
    exact Nat.add_le_add_left (Nat.mul_le_mul_left n h) p

namespace Quantifier

variable {i : Identity} {quantifier : Quantifier} {solveBody : Value → Solving Solution}
  {body : Expr} {mentions bound : Nat}

/-- Candidates are places of their own, and each is paid for on its own. -/
theorem affords_run {take : Reading Unit} (htake : Appends (Event.Spares i) take)
    {candidates : List Value} (hbody : ∀ c ∈ candidates,
      Affords i (mentions * c.occurrences i) (Keeps i (c.occurrences i)) (held i) (solveBody c))
    (index : Nat) :
    Affords i (mentions * Value.occurrencesOfAll i candidates) (Keeps i bound) (held i)
      (quantifier.run take solveBody body index candidates) := by
  induction candidates generalizing index with
  | nil => exact Solution.affords_plainBool _
  | cons c cs ih =>
    rw [List.forall_mem_cons] at hbody
    rw [run, Value.occurrencesOfAll, Nat.mul_add]
    refine affords_after htake fun _ => hbody.1.bind_add fun solution hsolution => ?_
    have hnote : Appends (Event.Spares i)
        (modify (Ledger.note (.judged quantifier index solution.value)) : Reading PUnit) :=
      appends_note (by rintro ⟨⟩)
    refine affords_after hnote fun _ => hsolution.affords_isTruthy fun holds => ?_
    split
    · exact Solution.affords_pure rfl
    · exact (ih hbody.2 _).within (Nat.le_add_left _ _)

theorem affords_across {v : Value} (hbody : ∀ c ∈ v.alternatives,
      Affords i (mentions * c.occurrences i) (Keeps i (c.occurrences i)) (held i) (solveBody c)) :
    Affords i (v.occurrences i + (mentions - 1) * v.occurrences i) (Keeps i bound) (held i)
      (quantifier.across solveBody body v) := by
  rcases Value.isSingle_or v with hsingle | ⟨handle, candidates, rfl⟩
  · rw [across_of_isSingle hsingle]
    refine (affords_run (appends_pure _) hbody 0).within ?_
    exact Nat.le_trans (Nat.mul_le_mul_left _ (Value.occurrencesOfAll_alternatives_le v))
      (mul_le_add_pred_mul (Nat.le_refl _))
  · have hprice : handle.price i + mentions * Value.occurrencesOfAll i candidates ≤
        (Value.superposition handle candidates).occurrences i +
          (mentions - 1) * (Value.superposition handle candidates).occurrences i := by
      have hall := mul_le_add_pred_mul (n := mentions)
        (Value.occurrencesOfAll_alternatives_le (i := i) (.superposition handle candidates))
      rw [Value.occurrences_superposition] at hall ⊢
      rw [Nat.add_assoc]
      exact Nat.add_le_add_left hall _
    refine Affords.within (affords_lift (handle.pays_ask.frame _) fun answer _ => ?_) hprice
    rw [Nat.zero_add]
    split
    · exact affords_run handle.spares_take hbody 0
    · exact Solution.affords_plainBool _

end Quantifier

namespace Expr

/-- How many times the expression mentions fields of one context.  What stands within another
expression has the value of that as its context, and reads no more than that one if it mentions
one field. -/
def readings : Expr → Nat
  | .literal _ | .component _ => 0
  | .field _ => 1
  | .within context body | .quantified _ context body => context.readings + (body.readings - 1)
  | .not operand | .isInstance operand _ => operand.readings
  | .and left right | .or left right | .compare _ left right | .arithmetic _ left right =>
    left.readings + right.readings

/-- The superposition is in no literal of the expression. -/
def Lacks (i : Identity) (e : Expr) : Prop :=
  ∀ v, .literal v ∈ e.parts → v.occurrences i = 0

variable {i : Identity} {app : Application}

theorem Lacks.part {e part : Expr} (h : e.Lacks i) (hpart : part ∈ e.parts) : part.Lacks i :=
  fun v hv => h v (parts_trans hv hpart)

theorem affords_valueAt (path : Path) {scope : Value} (h : scope.Shelters i) :
    Affords i (scope.occurrences i)
      (fun v => v.Shelters i ∧ v.occurrences i ≤ scope.occurrences i) (Value.occurrences i)
      (valueAt app path scope) := by
  unfold valueAt
  refine affords_lift ((Value.pays_resolve path.segments h).bounded
    (Value.appends_resolve path.segments scope)) fun v hv => ?_
  split
  · split
    · exact affords_throw _
    · have hnote : Appends (Event.Spares i)
          (modify (Ledger.note (.missing path)) : Reading PUnit) :=
        appends_note (by rintro ⟨⟩)
      exact affords_after hnote fun _ => Judging.affords_pure hv (Nat.le_refl _)
  · exact Judging.affords_pure hv (Nat.le_refl _)

theorem affords_subject {context : Expr} {scope : Value} (h : scope.Shelters i)
    (hcontext : Affords i (context.readings * scope.occurrences i)
      (Keeps i (scope.occurrences i)) (held i) (solve app context scope)) :
    Affords i (context.readings * scope.occurrences i)
      (fun v => v.Shelters i ∧ v.occurrences i ≤ scope.occurrences i) (Value.occurrences i)
      (subject app context scope) := by
  unfold subject
  split
  · rw [readings, Nat.one_mul]
    exact affords_valueAt _ h
  · refine hcontext.bind fun solution hsolution => ?_
    exact Judging.affords_pure ⟨hsolution.1.shelters, hsolution.2⟩ (Nat.le_refl _)

/-- **A place is worth a read for each mention.**  In a context that shelters the superposition,
solving an expression asks it at most as often as the expression mentions fields, for each place
where the context holds it, and what the value still holds is not among these reads. -/
theorem affords_solve {e : Expr} (he : e.Lacks i) {scope : Value} (h : scope.Shelters i) :
    Affords i (e.readings * scope.occurrences i) (Keeps i (scope.occurrences i)) (held i)
      (solve app e scope) := by
  induction e generalizing scope with
  | literal v => exact Solution.affords_pure (he v (by simp [parts]))
  | field path =>
    rw [solve, readings, Nat.one_mul]
    refine (affords_valueAt path h).bind fun v hv => ?_
    refine affords_lift ((Value.pays_settle hv.1).bounded
      (Value.appends_settle v.permits_isRead)) fun copy hcopy => ?_
    exact Judging.affords_pure ⟨hcopy.1, Nat.le_trans hcopy.2 hv.2⟩ (Nat.le_refl _)
  | component name => exact Solution.affords_plainBool _
  | within context body ihContext ihBody =>
    have hcontext := ihContext (he.part (by simp [parts, mem_parts_self])) h
    rw [solve, readings, Nat.add_mul]
    refine hcontext.bind_add fun inner hinner => ?_
    have hbody := ihBody (he.part (by simp [parts, mem_parts_self])) hinner.1.shelters
    refine (hbody.within (mul_le_add_pred_mul hinner.2)).mono fun solution hsolution => ?_
    exact ⟨hsolution.1, Nat.le_trans hsolution.2 hinner.2⟩
  | quantified quantifier context body ihContext ihBody =>
    have hcontext := ihContext (he.part (by simp [parts, mem_parts_self])) h
    rw [solve_quantified, readings, Nat.add_mul]
    refine (affords_subject h hcontext).bind_add fun v hv => ?_
    refine (Quantifier.affords_across fun c hc => ?_).within
      (Nat.add_le_add_left (Nat.mul_le_mul_left (body.readings - 1) hv.2) _)
    exact ihBody (he.part (by simp [parts, mem_parts_self])) (hv.1.alternatives c hc)
  | not operand ih =>
    rw [solve, readings]
    refine (ih (he.part (by simp [parts, mem_parts_self])) h).bind fun solution hsolution => ?_
    exact hsolution.affords_isTruthy fun _ => Solution.affords_plainBool _
  | and left right ihLeft ihRight =>
    have hleft := ihLeft (he.part (by simp [parts, mem_parts_self])) h
    have hright := ihRight (he.part (by simp [parts, mem_parts_self])) h
    rw [solve, readings, Nat.add_mul]
    refine hleft.bind_add fun first hfirst => hfirst.affords_isTruthy fun holds => ?_
    split
    · refine (hright.within (Nat.le_add_left _ _)).bind fun second hsecond => ?_
      exact hsecond.affords_isTruthy fun _ => Solution.affords_plainBool _
    · exact Solution.affords_plainBool _
  | or left right ihLeft ihRight =>
    have hleft := ihLeft (he.part (by simp [parts, mem_parts_self])) h
    have hright := ihRight (he.part (by simp [parts, mem_parts_self])) h
    rw [solve, readings, Nat.add_mul]
    refine hleft.bind_add fun first hfirst => hfirst.affords_isTruthy fun holds => ?_
    split
    · exact Judging.affords_pure hfirst (Nat.le_add_right _ _)
    · refine (hright.within (Nat.le_add_left _ _)).bind fun second hsecond => ?_
      exact Judging.affords_pure hsecond (Nat.le_refl _)
  | compare relation left right ihLeft ihRight =>
    have hleft := ihLeft (he.part (by simp [parts, mem_parts_self])) h
    have hright := ihRight (he.part (by simp [parts, mem_parts_self])) h
    rw [solve, readings, Nat.add_mul]
    refine hleft.bind_add fun l hl => ?_
    refine (hright.within (Nat.le_add_left _ _)).bind fun r hr => ?_
    have hjudge := Solving.confined_judge (.compare relation left right)
      (Value.confined_holds relation hl.1.permits hr.1.permits)
    exact affords_confined hjudge fun _ => Solution.affords_plainBool _
  | isInstance subject typeName ih =>
    rw [solve, readings]
    refine (ih (he.part (by simp [parts, mem_parts_self])) h).bind fun solution _ => ?_
    exact Solution.affords_plainBool _
  | arithmetic operation left right ihLeft ihRight =>
    have hleft := ihLeft (he.part (by simp [parts, mem_parts_self])) h
    have hright := ihRight (he.part (by simp [parts, mem_parts_self])) h
    rw [solve, readings, Nat.add_mul]
    refine hleft.bind_add fun l hl => ?_
    refine (hright.within (Nat.le_add_left _ _)).bind fun r hr => ?_
    cases hresult : operation.apply l.value r.value with
    | ok v =>
      refine Solution.affords_pure ?_
      show v.occurrences i = 0
      rw [Value.occurrences, Value.handles_of_apply hresult, List.countP_nil]
    | error fault => exact affords_throw _

end Expr

/-- **A superposition is asked as often as fields of one context are mentioned.**  A solve asks it,
for each place of the data where it is, at most once for each mention; so a query asks it once if
it mentions one field of a context, however deep the quantifiers and contexts are in each other. -/
theorem Query.asks_solve_le (app : Application) {query : Query} {data : Value} {i : Identity}
    (hquery : query.root.Lacks i) (hdata : data.Shelters i) (ledger : Ledger) :
    ((query.solve app data).run ledger).2.asks i ≤
      ledger.asks i + query.root.readings * data.occurrences i := by
  have hstarted : ledger.Extends (Event.Spares i) (ledger.note (.started query.root)) :=
    ledger.extends_note (by rintro ⟨⟩)
  rw [← hstarted.asks_eq]
  exact Nat.le_of_add_right_le (Expr.affords_solve hquery hdata _).2

namespace Query

/-- Does some host have the tag 2? -/
def someTag : Query where
  root := .quantified .any (.field ⟨["hosts"]⟩)
    (.within (.field ⟨["tag"]⟩) (.compare .equal (.field ⟨[]⟩) (.literal (.integer 2))))

/-- Two hosts, one with a single-pass superposition for a tag. -/
def hosts : Value :=
  .object [("hosts", .array [.object [("tag", .integer 1)],
    .object [("tag", .superposition ⟨0, .singlePass⟩ [.integer 2, .integer 3])]])]

/-- The tag is looked at from within a context within a quantifier, and asked once. -/
theorem asks_solve_le_hosts :
    someTag.root.Lacks 0 ∧ hosts.Shelters 0 ∧
      ((someTag.solve .standard hosts).run ⟨1, []⟩).2.asks 0 ≤ 1 := by
  have hquery : someTag.root.Lacks 0 := by
    simp [Expr.Lacks, someTag, Expr.parts, Value.occurrences, Value.handles]
  have hdata : hosts.Shelters 0 := by
    simp [Value.Shelters, hosts, Value.nested, Value.itemsNested, Value.fieldsNested,
      Value.outermost]
  exact ⟨hquery, hdata, asks_solve_le .standard hquery hdata ⟨1, []⟩⟩

/-- Is the tag 1 or 2? -/
def eitherTag : Query where
  root := .or (.compare .equal (.field ⟨["tag"]⟩) (.literal (.integer 1)))
    (.compare .equal (.field ⟨["tag"]⟩) (.literal (.integer 2)))

/-- A single-pass superposition for a tag. -/
def tag : Value :=
  .object [("tag", .superposition ⟨0, .singlePass⟩ [.integer 2, .integer 3])]

/-- Two fields, compared. -/
def fieldsCompared (relation : Comparison) : Query where
  root := .compare relation (.field ⟨["a"]⟩) (.field ⟨["b"]⟩)

/-- Three candidates beside another value. -/
def threeBeside (b : Value) : Value :=
  .object [("a", .superposition ⟨0, .supplied⟩ [.integer 1, .integer 2, .integer 3]), ("b", b)]

/-- A superposition at one place of the data may be asked more than once: where two mentions come
to it, and where it is a candidate or an element that the comparison comes across again. -/
theorem asks_solve_twice :
    let layered := threeBeside (.superposition ⟨1, .supplied⟩
      [.integer 5, .superposition ⟨2, .supplied⟩ [.integer 6]])
    let listed := threeBeside (.array [.superposition ⟨1, .supplied⟩ [.integer 6]])
    (tag.occurrences 0 = 1 ∧
      ((eitherTag.solve .standard tag).run ⟨1, []⟩).2.asks 0 = 2) ∧
    (layered.occurrences 2 = 1 ∧
      (((fieldsCompared .equal).solve .standard layered).run ⟨3, []⟩).2.asks 2 = 3) ∧
    (listed.occurrences 1 = 1 ∧
      (((fieldsCompared .member).solve .standard listed).run ⟨2, []⟩).2.asks 1 = 3) :=
  ⟨⟨rfl, rfl⟩, ⟨rfl, rfl⟩, rfl, rfl⟩

end Query

end FieldQuery
