import FieldQuery.Proofs.Collections
import FieldQuery.Proofs.Symmetry

/-!
# Containment is membership of every element

Three walks look for a value among others: the subset test goes through the elements of both sides,
the membership test splits what is looked for first and then goes by the kind of the collection, and
equality pairs candidates.  They find the same.  A collection is in another one if each of its
elements is found there, and to be found in a superposition is to be equal to it, with the same
reads on the way.

* `Value.Collects` — no value, an array, or a superposition that does not stand for one candidate.
* `Value.Collects.ensures_subset`, `Value.Collects.ensures_member` — both tests in terms of leaves.
* `Value.member_eq_equivalent` — membership in a superposition is equality.
* `Value.subset_iff_forall_member` — containment is membership of every element.
-/

namespace FieldQuery

open Reading Judging

namespace Value

/-! ## Leaves that are found -/

@[simp] theorem meets_null (v : Value) : Value.null.meets v = false := by
  simp [meets]

/-- A superposition has a leaf in common with a value if one of its candidates has. -/
theorem meets_superposition (handle : Handle) (candidates : List Value) (v : Value) :
    (Value.superposition handle candidates).meets v = candidates.any fun c => c.meets v := by
  simp only [meets, leaves_superposition, SProd.sprod, List.product, List.flatMap_assoc,
    List.any_flatMap]

/-- A value is equal to one of some values if it has a leaf in common with one of them. -/
theorem ensures_equivalentToAny {v : Value} {items : List Value} (hv : v.Reopens)
    (hitems : ∀ item ∈ items, item.Reopens) :
    Ensures (· = .ok (items.any v.meets)) (equivalentToAny v items).run := by
  rw [equivalentToAny_eq, ← firstDecided_ok]
  exact ensures_firstTrue fun item hitem => hv.ensures_equivalent (hitems item hitem)

theorem ensures_allIn (take : Reading Unit) {others elements : List Value}
    (hothers : ∀ other ∈ others, other.Reopens) (helements : ∀ e ∈ elements, e.Reopens) :
    Ensures (· = .ok (elements.all fun e => others.any e.meets))
      (allIn take others elements).run := by
  induction elements with
  | nil => exact ensures_pure rfl
  | cons e es ih =>
    refine ensures_lift (ensures_true take) fun _ _ => ?_
    rw [ExceptT.run_bind, List.all_cons]
    refine (ensures_equivalentToAny (helements e (by simp)) hothers).bind ?_
    rintro _ rfl
    cases others.any e.meets with
    | true => exact ih fun d hd => helements d (by simp [hd])
    | false => exact ensures_pure rfl

/-! ## Collections -/

/-- A value is a collection of these elements: no value has none, an array has its items, and a
superposition has its candidates, unless it has only one and stands for it. -/
inductive Collects : Value → List Value → Prop where
  /-- No value. -/
  | null : Collects .null []
  /-- An array. -/
  | array (items : List Value) : Collects (.array items) items
  /-- No or several candidates. -/
  | superposition (handle : Handle) {candidates : List Value} (h : candidates.length ≠ 1) :
    Collects (.superposition handle candidates) candidates

namespace Collects

variable {v a : Value} {vs : List Value}

theorem isCollection (h : v.Collects vs) : v.isCollection = true := by
  cases h <;> rfl

theorem ensures_elements (h : v.Collects vs) (hv : v.Reopens) : Ensures (· = vs) v.elements := by
  cases h with
  | null => exact ensures_pure rfl
  | array => exact ensures_pure rfl
  | superposition handle _ => exact ensures_readAll (reopens_superposition.1 hv).1 vs

theorem of_standsFor (h : StandsFor vs v) (hcount : vs.length ≠ 1) : v.Collects vs := by
  cases h with
  | none => exact .null
  | one c => exact absurd rfl hcount
  | several i _ => exact .superposition _ hcount

/-- A copy of a collection is a collection of the same elements. -/
theorem ensures_settle (h : v.Collects vs) (hv : v.Reopens) :
    Ensures (fun copy => copy.Collects vs ∧ copy.Reopens) v.settle := by
  have hcollects : Ensures (fun copy => copy.Collects vs) v.settle := by
    cases h with
    | null => exact ensures_pure .null
    | array => exact ensures_pure (.array vs)
    | superposition handle hcount =>
      refine (ensures_readAll (reopens_superposition.1 hv).1 vs).bind ?_
      rintro _ rfl
      exact (ensures_ofCandidates_standsFor _).mono fun _ hstands => of_standsFor hstands hcount
  intro ledger
  exact ⟨hcollects ledger, (hv.ensures_settle ledger).1⟩

/-- The subset test looks for every element of the one side among those of the other. -/
theorem ensures_subset {w : Value} {ws : List Value} (hl : v.Collects vs) (hr : w.Collects ws)
    (hv : v.Reopens) (hw : w.Reopens) (hvs : ∀ e ∈ vs, e.Reopens) (hws : ∀ e ∈ ws, e.Reopens) :
    Ensures (· = .ok (vs.all fun e => ws.any e.meets)) (subset v w).run := by
  have hall (take : Reading Unit) : Ensures _ (allIn take ws vs).run := ensures_allIn take hws hvs
  rw [subset, hl.isCollection, hr.isCollection]
  refine ensures_lift (hr.ensures_elements hw) ?_
  rintro _ rfl
  cases hl with
  | null => exact ensures_pure rfl
  | array items => exact hall _
  | superposition handle _ =>
    refine ensures_lift (ensures_ask (reopens_superposition.1 hv).1) ?_
    rintro _ rfl
    exact hall _

/-- A single value is in a collection if it is equal to one of the elements. -/
theorem ensures_memberOf (h : v.Collects vs) (hv : v.Reopens) (hvs : ∀ e ∈ vs, e.Reopens)
    (ha : a.Reopens) : Ensures (· = .ok (vs.any a.meets)) (memberOf a v).run := by
  cases h with
  | null => exact ensures_pure rfl
  | array items => exact ensures_equivalentToAny ha hvs
  | superposition handle _ =>
    rw [memberOf, candidateEquivalent_eq, ← firstDecided_ok]
    refine ensures_lift (ensures_ask (reopens_superposition.1 hv).1) ?_
    rintro _ rfl
    exact ensures_firstTrue fun c hc => ha.ensures_equivalent (hvs c hc)

/-- Some value has a leaf in common with some candidate if some candidate has one with some
value. -/
theorem any_meets_superposition (handle : Handle) (candidates vs : List Value) :
    vs.any (Value.superposition handle candidates).meets =
      candidates.any fun c => vs.any c.meets := by
  rw [Bool.eq_iff_iff]
  simp only [List.any_eq_true, meets_superposition]
  constructor
  · rintro ⟨e, he, c, hc, hmeets⟩
    exact ⟨c, hc, e, he, hmeets⟩
  · rintro ⟨c, hc, e, he, hmeets⟩
    exact ⟨e, he, c, hc, hmeets⟩

/-- **A value is in a collection if it has a leaf in common with one of the elements.** -/
theorem ensures_member (h : v.Collects vs) (hv : v.Reopens) (hvs : ∀ e ∈ vs, e.Reopens)
    (ha : a.Reopens) : Ensures (· = .ok (vs.any a.meets)) (member a v).run := by
  induction a using candidates_induction generalizing v with
  | single a hsingle =>
    rw [member_of_isSingle hsingle]
    cases a with
    | null =>
      have hnone : vs.any Value.null.meets = false := by simp
      exact ensures_pure (by rw [hnone])
    | _ => exact h.ensures_memberOf hv hvs ha
  | superposition handle candidates ih =>
    rw [reopens_superposition] at ha
    rw [member]
    split
    · rename_i hnull
      cases h with
      | null => exact ensures_pure rfl
      | array items => cases hnull
      | superposition _ _ => cases hnull
    · -- what is searched is a copy, in which the elements are the same
      refine ensures_lift (h.ensures_settle hv) ?_
      rintro copy ⟨hcollects, hcopy⟩
      refine ensures_lift (ensures_ask ha.1) ?_
      rintro _ rfl
      rw [if_pos rfl, memberAll_eq, any_meets_superposition, ← firstDecided_ok]
      exact ensures_firstTrue fun c hc => ih c hc hcollects hcopy (ha.2 c hc)

end Collects

/-! ## Superpositions -/

/-- No value, or a superposition with no or several candidates. -/
def IsSpread (v : Value) : Prop :=
  v = .null ∨ ∃ handle candidates, v = .superposition handle candidates ∧ candidates.length ≠ 1

/-- A copy of such a superposition is one too, or no value, also if it is spent. -/
theorem ensures_settle_isSpread (handle : Handle) {candidates : List Value}
    (hcount : candidates.length ≠ 1) :
    Ensures IsSpread (settle (.superposition handle candidates)) := by
  have hread : Ensures (fun found => found.length ≠ 1) (handle.readAll candidates) := by
    refine (ensures_true handle.ask).bind fun answer _ => ?_
    cases answer with
    | true => exact (ensures_takeAll handle candidates).mono (by rintro _ rfl; exact hcount)
    | false => exact ensures_pure (by simp)
  refine hread.bind fun found hfound => ?_
  refine (ensures_ofCandidates_standsFor found).mono ?_
  rintro v (_ | c | ⟨i, _⟩)
  · exact .inl rfl
  · exact absurd rfl hfound
  · exact .inr ⟨_, _, rfl, hfound⟩

/-- Looking for a single value in a superposition is comparing it with the candidates. -/
theorem memberOf_of_isSingle {x v : Value} (hx : x.IsSingle) (hnull : x.isNull = false)
    (hv : v.IsSpread) : memberOf x v = equivalent x v := by
  have hsearch : equivalent x = searchRight isNull (fun a b => return numericallySame a b) x := by
    funext c
    rw [equivalent, search_of_isSingle hx, hnull, if_neg Bool.false_ne_true]
  obtain rfl | ⟨handle, candidates, rfl, -⟩ := hv
  · rw [hsearch]
    rfl
  · rw [memberOf, candidateEquivalent_eq, hsearch, searchRight, searchRightAll_eq]

/-- **To be found in a superposition is to be equal to it**, unless it has only one candidate: both
tests come to the same and read the same, whatever is looked for and whatever was read before. -/
theorem member_eq_equivalent (x : Value) {v : Value} (hv : v.IsSpread) :
    member x v = equivalent x v := by
  induction x using candidates_induction generalizing v with
  | single x hsingle =>
    rw [member_of_isSingle hsingle]
    cases hnull : x.isNull with
    | true => rw [if_pos rfl, equivalent, search_of_isSingle hsingle, hnull, if_pos rfl]
    | false => exact memberOf_of_isSingle hsingle hnull hv
  | superposition handle candidates ih =>
    rw [equivalent, member, search]
    obtain rfl | ⟨other, others, rfl, hcount⟩ := hv
    · rfl
    · refine lift_bind_congr (ensures_settle_isSpread other hcount) fun copy hcopy => ?_
      rw [memberAll_eq, searchAll_eq]
      have hall : firstTrue handle.take (fun c => member c copy) candidates =
          firstTrue handle.take (fun c => equivalent c copy) candidates :=
        firstTrue_congr fun c hc => ih c hc hcopy
      rw [hall]
      rfl

/-- **A collection is in another one exactly if each of its elements is found there.**  Neither test
fails, whatever was read before, if no superposition that is a collection, an element or below one
is single-pass.  Where the other collection is a superposition, being found there is being equal to
it: the two tests are one and the same computation, with the same reads, for anything that is
looked for. -/
theorem subset_iff_forall_member :
    (∀ {v w : Value} {vs ws : List Value}, v.Collects vs → w.Collects ws → v.Reopens → w.Reopens →
      (∀ e ∈ vs, e.Reopens) → (∀ e ∈ ws, e.Reopens) → ∃ (holds : Bool) (found : Value → Bool),
        Ensures (· = .ok holds) (subset v w).run ∧
        (∀ e ∈ vs, Ensures (· = .ok (found e)) (member e w).run) ∧
        (holds = true ↔ ∀ e ∈ vs, found e = true)) ∧
    ∀ (x : Value) (handle : Handle) (candidates : List Value), candidates.length ≠ 1 →
      member x (.superposition handle candidates) =
        equivalent x (.superposition handle candidates) := by
  constructor
  · intro v w vs ws hl hr hv hw hvs hws
    refine ⟨_, fun e => ws.any e.meets, hl.ensures_subset hr hv hw hvs hws, fun e he => ?_,
      List.all_eq_true⟩
    exact hr.ensures_member hw hws (hvs e he)
  · intro x handle candidates hcount
    exact member_eq_equivalent x (.inr ⟨handle, candidates, rfl, hcount⟩)

/-- Two candidates, one of them a list with an element that is read once. -/
def mixed : Value :=
  .superposition ⟨4, .supplied⟩ [.integer 1, .array [.superposition ⟨5, .singlePass⟩ []]]

/-- The number among the candidates is found in an element that is a superposition itself. -/
theorem subset_iff_forall_member_mixed :
    Ensures (· = .ok true) (subset mixed (.array [Expr.layered, .null,
        .array [.superposition ⟨5, .singlePass⟩ []]])).run ∧
      Ensures (· = .ok true) (member (.integer 1) (.array [Expr.layered, .null,
        .array [.superposition ⟨5, .singlePass⟩ []]])).run ∧
      member Expr.layered mixed = equivalent Expr.layered mixed := by
  obtain ⟨hcontained, hfound⟩ := subset_iff_forall_member
  have hlist (items : List Value) : (Value.array items).Reopens := .single nofun
  have hone : (Value.integer 1).Reopens := .single nofun
  have hnull : Value.null.Reopens := .single nofun
  have hmixed : mixed.Collects [.integer 1, .array [.superposition ⟨5, .singlePass⟩ []]] :=
    .superposition _ (by simp)
  obtain ⟨holds, found, hsubset, hmember, hiff⟩ :=
    hcontained hmixed (.array [Expr.layered, .null, .array [.superposition ⟨5, .singlePass⟩ []]])
      (by simp [mixed, hone, hlist]) (hlist _) (by simp [hone, hlist])
      (by simp [Expr.isReadable_layered.reopens, hnull, hlist])
  have hholds : (Except.ok holds : Except Fault Bool) = .ok true := (hsubset ⟨6, []⟩).symm
  obtain rfl : holds = true := by simpa using hholds
  have hnumber := hmember (.integer 1) (by simp)
  rw [hiff.1 rfl _ (by simp)] at hnumber
  exact ⟨hsubset, hnumber, hfound Expr.layered ⟨4, .supplied⟩ _ (by simp)⟩

end Value

end FieldQuery
