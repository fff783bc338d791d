import FieldQuery.Proofs.Repetition
import Mathlib.Data.List.Nodup

/-!
# Superpositions that can be read only once

A single-pass superposition yields its candidates to whoever asks first.  A comparison that asked
twice would find nothing the second time, so comparisons copy what they have to go through more
than once, and finding out what they come to takes asking each operand once at most.

* `Value.IsFlat` — no superposition stands among the candidates or the elements of a value.
* `Value.owned` — the same value with its candidates in memory.
* `Reading.Spends` — a reading has the result that another one has, and asks for it no
  superpositions but those in a list, and each as often as it is listed.
* `Handle.Answers` — both of two superpositions answer, and what asking the first one spends.
* `Value.Offers` — reading one value spends what is listed and finds what reading another one
  finds; a copy is an offer that nothing is spent on.
* `Value.spends_search`, `Value.spends_member`, `Value.spends_subset`, `Value.spends_matched` —
  what the comparisons spend.
* `Value.compare_owned` — comparing single-pass superpositions is comparing copies in memory, and
  takes asking each of them once at most.
-/

namespace FieldQuery

/-! ## How often a superposition was asked -/

namespace Ledger

@[simp] theorem asks_note_taken (ledger : Ledger) (i j : Identity) :
    (ledger.note (.taken i)).asks j = ledger.asks j := by
  simp [asks, note]

theorem asks_note_asked (ledger : Ledger) (i j : Identity) :
    (ledger.note (.asked i)).asks j = ledger.asks j + [i].count j := by
  simp [asks, note, List.countP_cons, List.count_singleton]

theorem wasAsked_eq_false {ledger : Ledger} {i : Identity} (h : ledger.asks i = 0) :
    ledger.wasAsked i = false := by
  rw [asks, List.countP_eq_zero] at h
  rw [wasAsked, List.any_eq_false]
  exact h

end Ledger

/-! ## Spending reads -/

namespace Reading

variable {α β γ δ : Type}

/-- Where none of the listed superpositions was asked before, the two readings have related
results, and the first one asks for the listed superpositions only, each at most as often as it
is listed. -/
def Spends (listed : List Identity) (R : α → β → Prop) (m : Reading α) (m' : Reading β) : Prop :=
  ∀ ledger ledger' : Ledger, (∀ i ∈ listed, ledger.asks i = 0) →
    R (m.run ledger).1 (m'.run ledger').1 ∧
      ∀ i, (m.run ledger).2.asks i ≤ ledger.asks i + listed.count i

variable {xs ys : List Identity} {R : α → β → Prop} {S : γ → δ → Prop}

theorem spends_pure {a : α} {b : β} (h : R a b) : Spends xs R (pure a) (pure b) :=
  fun _ _ _ => ⟨h, fun _ => Nat.le_add_right _ _⟩

/-- Readings one after another may not ask for the same superposition. -/
theorem Spends.bind {m : Reading α} {m' : Reading β} {f : α → Reading γ} {g : β → Reading δ}
    (hm : Spends xs R m m') (hf : ∀ a b, R a b → Spends ys S (f a) (g b))
    (hdisjoint : xs.Disjoint ys) : Spends (xs ++ ys) S (m >>= f) (m' >>= g) := by
  intro ledger ledger' hunread
  rw [List.forall_mem_append] at hunread
  obtain ⟨hrelated, hasks⟩ := hm ledger ledger' hunread.1
  -- what the second reading asks for was left alone by the first one
  have hleft : ∀ i ∈ ys, (m.run ledger).2.asks i = 0 := by
    intro i hi
    have hi' : i ∉ xs := fun h => hdisjoint h hi
    have := hasks i
    rw [List.count_eq_zero_of_not_mem hi', hunread.2 i hi] at this
    omega
  obtain ⟨hresult, hasks'⟩ := hf _ _ hrelated (m.run ledger).2 (m'.run ledger').2 hleft
  refine ⟨hresult, fun i => Nat.le_trans (hasks' i) ?_⟩
  rw [List.count_append, ← Nat.add_assoc]
  exact Nat.add_le_add_right (hasks i) _

/-- What comes first may spend everything if the rest spends nothing. -/
theorem Spends.bind_nil {m : Reading α} {m' : Reading β} {f : α → Reading γ} {g : β → Reading δ}
    (hm : Spends xs R m m') (hf : ∀ a b, R a b → Spends [] S (f a) (g b)) :
    Spends xs S (m >>= f) (m' >>= g) := by
  rw [← List.append_nil xs]
  exact hm.bind hf (List.disjoint_nil_right _)

theorem Spends.mono {Q : α → β → Prop} {m : Reading α} {m' : Reading β} (h : Spends xs R m m')
    (hRQ : ∀ a b, R a b → Q a b) : Spends xs Q m m' := by
  intro ledger ledger' hunread
  obtain ⟨hresult, hasks⟩ := h ledger ledger' hunread
  exact ⟨hRQ _ _ hresult, hasks⟩

/-- What is listed may be more than what is spent. -/
theorem Spends.sublist {m : Reading α} {m' : Reading β} (h : Spends xs R m m')
    (hsub : xs.Sublist ys) : Spends ys R m m' := by
  intro ledger ledger' hunread
  obtain ⟨hresult, hasks⟩ := h ledger ledger' fun i hi => hunread i (hsub.subset hi)
  refine ⟨hresult, fun i => Nat.le_trans (hasks i) ?_⟩
  exact Nat.add_le_add_left (hsub.count_le i) _

end Reading

open Reading Judging

namespace Judging

variable {α β : Type} {xs ys : List Identity}

/-- A reading may come first. -/
theorem spends_lift {ε γ : Type} {R : α → β → Prop} {m : Reading α} {m' : Reading β}
    {f : α → ExceptT ε Reading γ} {g : β → ExceptT ε Reading γ} (hm : Spends xs R m m')
    (hf : ∀ a b, R a b → Spends ys Eq (f a).run (g b).run) (hdisjoint : xs.Disjoint ys) :
    Spends (xs ++ ys) Eq (liftM m >>= f).run (liftM m' >>= g).run := by
  intro ledger ledger' hunread
  exact hm.bind hf hdisjoint ledger ledger' hunread

/-- A computation that spends nothing may come first, and may fail. -/
theorem spends_run_bind {ε : Type} {m m' : ExceptT ε Reading α} {f g : α → ExceptT ε Reading β}
    (hm : Spends [] Eq m.run m'.run) (hf : ∀ a, Spends ys Eq (f a).run (g a).run) :
    Spends ys Eq (m >>= f).run (m' >>= g).run := by
  rw [ExceptT.run_bind, ExceptT.run_bind]
  refine hm.bind ?_ (List.disjoint_nil_left _)
  rintro (_ | a) _ rfl
  · exact spends_pure rfl
  · exact hf a

/-- Going through candidates spends nothing if testing them does not. -/
theorem spends_firstTrue {take take' : Reading Unit} {test test' : α → Judging Bool}
    {candidates : List α} (htake : Spends [] (fun _ _ => True) take take')
    (htest : ∀ c ∈ candidates, Spends [] Eq (test c).run (test' c).run) :
    Spends [] Eq (firstTrue take test candidates).run (firstTrue take' test' candidates).run := by
  induction candidates with
  | nil => exact spends_pure rfl
  | cons c cs ih =>
    rw [List.forall_mem_cons] at htest
    refine spends_lift htake (fun _ _ _ => ?_) (List.disjoint_nil_left _)
    refine spends_run_bind htest.1 fun found => ?_
    split
    · exact spends_pure rfl
    · exact ih htest.2

end Judging

/-! ## Asking and taking -/

namespace Handle

/-- Both superpositions answer, and asking the first one spends what is listed. -/
def Answers (listed : List Identity) (handle handle' : Handle) : Prop :=
  Spends listed (fun answer answer' => answer = true ∧ answer' = true) handle.ask handle'.ask

/-- A superposition that was not asked before answers, as one in memory does. -/
theorem answers_owned (handle : Handle) (i : Identity) :
    Answers [handle.identity] handle ⟨i, .owned⟩ := by
  intro ledger ledger' hunread
  rw [List.forall_mem_singleton] at hunread
  obtain ⟨identity, source⟩ := handle
  cases source with
  | owned => exact ⟨⟨rfl, rfl⟩, fun j => Nat.le_add_right _ _⟩
  | supplied => exact ⟨⟨rfl, rfl⟩, fun j => Nat.le_of_eq (ledger.asks_note_asked identity j)⟩
  | singlePass =>
    refine ⟨⟨?_, rfl⟩, fun j => Nat.le_of_eq (ledger.asks_note_asked identity j)⟩
    show (!ledger.wasAsked identity) = true
    rw [Ledger.wasAsked_eq_false hunread, Bool.not_false]

/-- Superpositions in memory answer, and nothing is spent on that. -/
theorem answers_nil (i j : Identity) : Answers [] ⟨i, .owned⟩ ⟨j, .owned⟩ :=
  fun _ _ _ => ⟨⟨rfl, rfl⟩, fun _ => Nat.le_refl _⟩

/-- Taking candidates is not asking for them. -/
theorem spends_take (handle handle' : Handle) :
    Spends [] (fun _ _ => True) handle.take handle'.take := by
  intro ledger ledger' _
  refine ⟨trivial, fun j => ?_⟩
  obtain ⟨identity, source⟩ := handle
  cases source with
  | owned => exact Nat.le_refl _
  | supplied | singlePass => exact Nat.le_of_eq (ledger.asks_note_taken identity j)

theorem spends_takeAll (handle handle' : Handle) (candidates : List Value) :
    Spends [] (fun found found' => found = candidates ∧ found' = candidates)
      (handle.takeAll candidates) (handle'.takeAll candidates) := by
  have htakes : ∀ cs : List Value, Spends [] (fun _ _ => True)
      (cs.forM fun _ => handle.take) (cs.forM fun _ => handle'.take) := by
    intro cs
    induction cs with
    | nil => exact spends_pure trivial
    | cons c cs ih =>
      exact (handle.spends_take handle').bind (fun _ _ _ => ih) (List.disjoint_nil_left _)
  exact (htakes candidates).bind (fun _ _ _ => spends_pure ⟨rfl, rfl⟩) (List.disjoint_nil_left _)

section

variable {xs : List Identity} {handle handle' : Handle}

theorem Answers.spends_readAll (h : Answers xs handle handle') (candidates : List Value) :
    Spends xs (fun found found' => found = candidates ∧ found' = candidates)
      (handle.readAll candidates) (handle'.readAll candidates) := by
  refine Spends.bind_nil h ?_
  rintro _ _ ⟨rfl, rfl⟩
  exact handle.spends_takeAll handle' candidates

/-- Asking a superposition that answers, with nothing spent behind it. -/
theorem Answers.spends_bind {f f' : Bool → Judging Bool} (h : Answers xs handle handle')
    (hf : Spends [] Eq (f true).run (f' true).run) :
    Spends xs Eq (liftM handle.ask >>= f).run (liftM handle'.ask >>= f').run := by
  rw [← List.append_nil xs]
  refine spends_lift h ?_ (List.disjoint_nil_right _)
  rintro _ _ ⟨rfl, rfl⟩
  exact hf

/-- A superposition that answers is searched candidate by candidate. -/
theorem Answers.spends_firstTrue {candidates : List Value} {test test' : Value → Judging Bool}
    (h : Answers xs handle handle')
    (htest : ∀ c ∈ candidates, Spends [] Eq (test c).run (test' c).run) :
    Spends xs Eq
      (do if ← handle.ask then firstTrue handle.take test candidates else return false :
        Judging Bool).run
      (do if ← handle'.ask then firstTrue handle'.take test' candidates else return false :
        Judging Bool).run :=
  h.spends_bind (Judging.spends_firstTrue (handle.spends_take handle') htest)

end

end Handle

namespace Value

/-! ## Flat values -/

/-- No superposition stands among the elements. -/
def HasSingleItems : Value → Prop
  | .array items => ∀ item ∈ items, item.IsSingle
  | _ => True

/-- A candidate that is not a superposition and has no such elements. -/
def IsPlain (v : Value) : Prop :=
  v.IsSingle ∧ v.HasSingleItems

/-- No superposition stands among the candidates of the value, nor among its elements or those of
a candidate. -/
def IsFlat : Value → Prop
  | .superposition _ candidates => ∀ c ∈ candidates, c.IsPlain
  | v => v.HasSingleItems

/-- The identity of a superposition; other values are told apart by what they are. -/
def identities : Value → List Identity
  | .superposition handle _ => [handle.identity]
  | _ => []

/-- The superposition that the value is was never asked for its candidates. -/
def IsUnread (ledger : Ledger) (v : Value) : Prop :=
  ∀ i ∈ v.identities, ledger.asks i = 0

/-- The same value with its candidates in memory, where they can be read any number of times. -/
def owned : Value → Value
  | .superposition handle candidates => .superposition ⟨handle.identity, .owned⟩ candidates
  | v => v

/-- Reading the first value finds what reading the second one does, and spends what is listed. -/
inductive Offers (listed : List Identity) : Value → Value → Prop where
  /-- Both are the same value, and there is nothing to read. -/
  | plain {v : Value} (plain : v.IsPlain) : Offers listed v v
  /-- Both are superpositions with the same candidates, and both answer. -/
  | candidates {handle handle' : Handle} {candidates : List Value}
      (plain : ∀ c ∈ candidates, c.IsPlain)
      (answers : handle.Answers listed handle') :
      Offers listed (.superposition handle candidates) (.superposition handle' candidates)

variable {xs ys : List Identity} {left left' right right' v w : Value}

theorem isPlain_null : null.IsPlain :=
  ⟨by rintro _ _ ⟨⟩, trivial⟩

theorem offers_owned (h : v.IsFlat) : Offers v.identities v v.owned := by
  rcases isSingle_or v with hsingle | ⟨handle, candidates, rfl⟩
  · cases v with
    | superposition => exact absurd rfl (hsingle _ _)
    | _ => exact .plain ⟨hsingle, h⟩
  · exact .candidates h (handle.answers_owned _)

theorem Offers.isNull_eq (h : Offers xs v w) : v.isNull = w.isNull := by
  cases h <;> rfl

theorem Offers.isCollection_eq (h : Offers xs v w) : v.isCollection = w.isCollection := by
  cases h <;> rfl

theorem Offers.typeName_eq (h : Offers xs v w) : v.typeName = w.typeName := by
  cases h <;> rfl

/-! ## Copies -/

/-- A copy can be read without spending anything. -/
theorem spends_ofCandidates {candidates : List Value} (h : ∀ c ∈ candidates, c.IsPlain) :
    Spends [] (Offers []) (ofCandidates candidates) (ofCandidates candidates) := by
  intro ledger ledger' _
  match candidates with
  | [] => exact ⟨.plain isPlain_null, fun _ => Nat.le_refl _⟩
  | [v] => exact ⟨.plain (h v (by simp)), fun _ => Nat.le_refl _⟩
  | _ :: _ :: _ => exact ⟨.candidates h (Handle.answers_nil _ _), fun _ => Nat.le_refl _⟩

/-- Making a copy spends what the value has to offer. -/
theorem spends_settle (h : Offers xs v w) : Spends xs (Offers []) v.settle w.settle := by
  cases h with
  | plain plain =>
    rw [settle_of_isSingle plain.1]
    exact spends_pure (.plain plain)
  | candidates plain answers =>
    refine (answers.spends_readAll _).bind_nil ?_
    rintro _ _ ⟨rfl, rfl⟩
    exact spends_ofCandidates plain

/-! ## Searching for pairs -/

section

variable {ignores : Value → Bool} {test : Value → Value → Judging Bool}

theorem spends_searchRight_of_isSingle
    (htest : ∀ a b, Spends [] Eq (test a b).run (test a b).run) (left : Value)
    (h : right.IsSingle) : Spends [] Eq (searchRight ignores test left right).run
      (searchRight ignores test left right).run := by
  rw [searchRight_of_isSingle left h]
  split
  · exact spends_pure rfl
  · exact htest left right

theorem spends_searchRight (htest : ∀ a b, Spends [] Eq (test a b).run (test a b).run)
    (left : Value) (h : Offers xs right right') :
    Spends xs Eq (searchRight ignores test left right).run
      (searchRight ignores test left right').run := by
  cases h with
  | plain plain =>
    exact (spends_searchRight_of_isSingle htest left plain.1).sublist (List.nil_sublist _)
  | candidates plain answers =>
    rw [searchRight, searchRight, searchRightAll_eq, searchRightAll_eq]
    exact answers.spends_firstTrue fun c hc =>
      spends_searchRight_of_isSingle htest left (plain c hc).1

theorem spends_search_of_isSingle (htest : ∀ a b, Spends [] Eq (test a b).run (test a b).run)
    (hl : left.IsSingle) (hr : Offers xs right right') :
    Spends xs Eq (search ignores test left right).run (search ignores test left right').run := by
  rw [search_of_isSingle hl, search_of_isSingle hl]
  split
  · exact spends_pure rfl
  · exact spends_searchRight htest left hr

/-- A search copies the right side, if it goes through it more than once. -/
theorem spends_search (hignores : ∀ {v w}, Offers ys v w → ignores v = ignores w)
    (htest : ∀ a b, Spends [] Eq (test a b).run (test a b).run) (hl : Offers xs left left')
    (hr : Offers ys right right') (hdisjoint : ys.Disjoint xs) :
    Spends (ys ++ xs) Eq (search ignores test left right).run
      (search ignores test left' right').run := by
  cases hl with
  | plain plain =>
    exact (spends_search_of_isSingle htest plain.1 hr).sublist (List.sublist_append_left _ _)
  | candidates plain answers =>
    rw [search, search, ← hignores hr]
    split
    · exact spends_pure rfl
    · refine spends_lift (spends_settle hr) (fun copy copy' hcopy => ?_) hdisjoint
      rw [searchAll_eq, searchAll_eq]
      exact answers.spends_firstTrue fun c hc =>
        spends_search_of_isSingle htest (plain c hc).1 hcopy

end

theorem spends_equivalent (hl : Offers xs left left') (hr : Offers ys right right')
    (hdisjoint : ys.Disjoint xs) :
    Spends (ys ++ xs) Eq (equivalent left right).run (equivalent left' right').run :=
  spends_search (fun h => h.isNull_eq) (fun _ _ => spends_pure rfl) hl hr hdisjoint

/-! ## Membership -/

/-- Two values without candidates are compared without reading anything. -/
theorem spends_equivalent_of_isSingle (hv : v.IsSingle) (hw : w.IsSingle) :
    Spends [] Eq (equivalent v w).run (equivalent v w).run := by
  rw [equivalent, search_of_isSingle hv]
  split
  · exact spends_pure rfl
  · exact spends_searchRight_of_isSingle (fun _ _ => spends_pure rfl) v hw

theorem spends_equivalentToAny {items : List Value} (h : v.IsSingle)
    (hitems : ∀ item ∈ items, item.IsSingle) :
    Spends [] Eq (equivalentToAny v items).run (equivalentToAny v items).run := by
  rw [equivalentToAny_eq]
  exact spends_firstTrue (spends_pure trivial) fun item hitem =>
    spends_equivalent_of_isSingle h (hitems item hitem)

theorem spends_memberOf (hl : v.IsSingle) (hr : Offers xs right right') :
    Spends xs Eq (memberOf v right).run (memberOf v right').run := by
  cases hr with
  | candidates plain answers =>
    rw [memberOf, memberOf, candidateEquivalent_eq, candidateEquivalent_eq]
    exact answers.spends_firstTrue fun c hc => spends_equivalent_of_isSingle hl (plain c hc).1
  | plain plain =>
    cases right with
    | null => exact spends_pure rfl
    | superposition => exact absurd rfl (plain.1 _ _)
    | array items => exact (spends_equivalentToAny hl plain.2).sublist (List.nil_sublist _)
    | string whole => cases v <;> exact spends_pure rfl
    | object fields => cases v <;> exact spends_pure rfl
    | _ => cases v <;> exact spends_pure rfl

theorem spends_member_of_isSingle (hl : left.IsSingle) (hr : Offers xs right right') :
    Spends xs Eq (member left right).run (member left right').run := by
  rw [member_of_isSingle hl, member_of_isSingle hl]
  split
  · exact spends_pure rfl
  · exact spends_memberOf hl hr

/-- Membership copies the right side, if it looks into it more than once. -/
theorem spends_member (hl : Offers xs left left') (hr : Offers ys right right')
    (hdisjoint : ys.Disjoint xs) :
    Spends (ys ++ xs) Eq (member left right).run (member left' right').run := by
  cases hl with
  | plain plain =>
    exact (spends_member_of_isSingle plain.1 hr).sublist (List.sublist_append_left _ _)
  | candidates plain answers =>
    rw [member, member, ← hr.isNull_eq]
    split
    · exact spends_pure rfl
    · refine spends_lift (spends_settle hr) (fun copy copy' hcopy => ?_) hdisjoint
      rw [memberAll_eq, memberAll_eq]
      exact answers.spends_firstTrue fun c hc => spends_member_of_isSingle (plain c hc).1 hcopy

/-! ## Subsets -/

/-- The elements of a collection are never superpositions. -/
theorem spends_elements (h : Offers xs v w) :
    Spends xs (fun found found' => found = found' ∧ ∀ c ∈ found, c.IsSingle)
      v.elements w.elements := by
  cases h with
  | candidates plain answers =>
    refine (answers.spends_readAll _).mono ?_
    rintro _ _ ⟨rfl, rfl⟩
    exact ⟨rfl, fun c hc => (plain c hc).1⟩
  | plain plain =>
    cases v with
    | null => exact spends_pure ⟨rfl, by simp⟩
    | superposition => exact absurd rfl (plain.1 _ _)
    | array items => exact spends_pure ⟨rfl, plain.2⟩
    | _ => exact spends_pure ⟨rfl, List.forall_mem_singleton.2 plain.1⟩

theorem spends_allIn {take take' : Reading Unit} {others elements : List Value}
    (htake : Spends [] (fun _ _ => True) take take') (hothers : ∀ c ∈ others, c.IsSingle)
    (helements : ∀ c ∈ elements, c.IsSingle) :
    Spends [] Eq (allIn take others elements).run (allIn take' others elements).run := by
  induction elements with
  | nil => exact spends_pure rfl
  | cons element rest ih =>
    rw [List.forall_mem_cons] at helements
    refine spends_lift htake (fun _ _ _ => ?_) (List.disjoint_nil_left _)
    refine spends_run_bind (spends_equivalentToAny helements.1 hothers) fun found => ?_
    split
    · exact ih helements.2
    · exact spends_pure rfl

/-- A subset test reads the right side first, and then goes through the left side. -/
theorem spends_subset (hl : Offers xs left left') (hr : Offers ys right right')
    (hdisjoint : ys.Disjoint xs) :
    Spends (ys ++ xs) Eq (subset left right).run (subset left' right').run := by
  unfold subset
  rw [← hl.isCollection_eq, ← hr.isCollection_eq, ← hl.typeName_eq, ← hr.typeName_eq]
  cases left.isCollection with
  | false => exact spends_pure rfl
  | true =>
  cases right.isCollection with
  | false => exact spends_pure rfl
  | true =>
  refine spends_lift (spends_elements hr) ?_ hdisjoint
  rintro others _ ⟨rfl, hothers⟩
  cases hl with
  | candidates plain answers =>
    refine answers.spends_bind ?_
    exact spends_allIn (Handle.spends_take _ _) hothers fun c hc => (plain c hc).1
  | plain plain =>
    cases left with
    | superposition => exact absurd rfl (plain.1 _ _)
    | array items =>
      exact (spends_allIn (spends_pure trivial) hothers plain.2).sublist (List.nil_sublist _)
    | _ => exact spends_pure rfl

/-! ## Patterns -/

theorem spends_matched_of_isSingle (pattern : Pattern) (h : v.IsSingle) :
    Spends [] Eq (matched pattern v).run (matched pattern v).run := by
  cases v with
  | superposition => exact absurd rfl (h _ _)
  | _ => exact spends_pure rfl

theorem spends_matched (pattern : Pattern) (h : Offers xs v w) :
    Spends xs Eq (matched pattern v).run (matched pattern w).run := by
  cases h with
  | plain plain => exact (spends_matched_of_isSingle pattern plain.1).sublist (List.nil_sublist _)
  | candidates plain answers =>
    rw [matched, matched, matchedAny_eq, matchedAny_eq]
    exact answers.spends_firstTrue fun c hc => spends_matched_of_isSingle pattern (plain c hc).1

/-! ## Comparing copies in memory -/

/-- The first computation comes to what the second one comes to at any time, and asks no
superposition for its candidates more than once. -/
def ReadsOnce (ledger : Ledger) (m m' : Judging Bool) : Prop :=
  (∀ ledger', (m.run ledger).1 = (m'.run ledger').1) ∧
    ∀ i, (m.run ledger).2.asks i ≤ ledger.asks i + 1

theorem readsOnce_of_spends {ledger : Ledger} {m m' : Judging Bool} (hxs : xs.Nodup)
    (hunread : ∀ i ∈ xs, ledger.asks i = 0) (h : Spends xs Eq m.run m'.run) :
    ReadsOnce ledger m m' := by
  refine ⟨fun ledger' => (h ledger ledger' hunread).1, fun i => ?_⟩
  calc (m.run ledger).2.asks i
      ≤ ledger.asks i + xs.count i := (h ledger ledger hunread).2 i
    _ ≤ ledger.asks i + 1 := Nat.add_le_add_left (List.nodup_iff_count_le_one.1 hxs i) _

theorem nodup_identities (v : Value) : v.identities.Nodup := by
  cases v with
  | superposition => exact List.nodup_singleton _
  | _ => exact List.nodup_nil

/-- **Comparing single-pass superpositions is comparing copies in memory.**  Two flat operands
that were not read before, and that are not the same superposition, compare as they would with
their candidates in memory, and each is asked for its candidates once at most. -/
theorem compare_owned {ledger : Ledger} (hl : left.IsFlat) (hr : right.IsFlat)
    (hdistinct : left.identities.Disjoint right.identities) (hleft : left.IsUnread ledger)
    (hright : right.IsUnread ledger) :
    ReadsOnce ledger (equivalent left right) (equivalent left.owned right.owned) ∧
    (∀ test : Value → Value → Except Fault Bool, ReadsOnce ledger
      (search (fun _ => false) (fun a b => liftM (test a b)) left right)
      (search (fun _ => false) (fun a b => liftM (test a b)) left.owned right.owned)) ∧
    ReadsOnce ledger (member left right) (member left.owned right.owned) ∧
    ReadsOnce ledger (subset left right) (subset left.owned right.owned) ∧
    ∀ pattern, ReadsOnce ledger (matched pattern left) (matched pattern left.owned) := by
  have hdisjoint := List.disjoint_symm hdistinct
  have once : ∀ {m m' : Judging Bool},
      Spends (right.identities ++ left.identities) Eq m.run m'.run → ReadsOnce ledger m m' :=
    readsOnce_of_spends
      (List.nodup_append'.2 ⟨nodup_identities right, nodup_identities left, hdisjoint⟩)
      (List.forall_mem_append.2 ⟨hright, hleft⟩)
  have hleftOffers := offers_owned hl
  have hrightOffers := offers_owned hr
  refine ⟨once ?equivalent, fun test => once ?search, once ?member, once ?subset,
    fun pattern => ?matched⟩
  case equivalent => exact spends_equivalent hleftOffers hrightOffers hdisjoint
  case search =>
    exact spends_search (fun _ => rfl) (fun _ _ => spends_pure rfl) hleftOffers hrightOffers
      hdisjoint
  case member => exact spends_member hleftOffers hrightOffers hdisjoint
  case subset => exact spends_subset hleftOffers hrightOffers hdisjoint
  case matched =>
    exact readsOnce_of_spends (nodup_identities left) hleft (spends_matched pattern hleftOffers)

/-- Two single-pass superpositions that have one candidate in common, compared in every way. -/
theorem compare_owned_common :
    let left : Value := .superposition ⟨0, .singlePass⟩ [.integer 1, .integer 2]
    let right : Value := .superposition ⟨1, .singlePass⟩ [.integer 3, .integer 2]
    ReadsOnce ⟨2, []⟩ (equivalent left right) (equivalent left.owned right.owned) ∧
    (∀ test : Value → Value → Except Fault Bool, ReadsOnce ⟨2, []⟩
      (search (fun _ => false) (fun a b => liftM (test a b)) left right)
      (search (fun _ => false) (fun a b => liftM (test a b)) left.owned right.owned)) ∧
    ReadsOnce ⟨2, []⟩ (member left right) (member left.owned right.owned) ∧
    ReadsOnce ⟨2, []⟩ (subset left right) (subset left.owned right.owned) ∧
    ∀ pattern, ReadsOnce ⟨2, []⟩ (matched pattern left) (matched pattern left.owned) := by
  intro left right
  have plain : ∀ n : Int64, (Value.integer n).IsPlain := fun n => ⟨by rintro _ _ ⟨⟩, trivial⟩
  have hleft : left.IsFlat := by simp [left, IsFlat, plain]
  have hright : right.IsFlat := by simp [right, IsFlat, plain]
  have hdistinct : left.identities.Disjoint right.identities := by
    simp [left, right, identities]
  exact compare_owned hleft hright hdistinct (fun _ _ => rfl) (fun _ _ => rfl)

end Value

end FieldQuery
