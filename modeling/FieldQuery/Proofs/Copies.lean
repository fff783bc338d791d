import FieldQuery.Proofs.Composition
import FieldQuery.Proofs.Unresolved

/-!
# Copies of what is found

A field comes to a copy of what is found at its path, so that a superposition can be read again
and again.  A copy is made of the candidates of the superposition, though, and a single candidate
stands for itself: where a superposition holds nothing but another one, the field comes to that
one as the application made it.

* `Reading.Composed.fresh_le` — solving never gives out an identity twice.
* `Value.IsCopy` — a superposition that the solver made of several candidates, behind a given
  identity; seeing whether it counts as true and reading it leave the ledger as it is.
* `Value.Copies` — a path leads to a superposition from which several candidates are read.
* `Value.HandsOn` — a path leads to a superposition of the context that holds one value.
* `Expr.solve_field_superposition` — a field comes to a superposition exactly where its path leads
  to several candidates, of which it makes a copy, or where one is handed on.
* `Expr.solve_field_isCopy` — where no superposition of the context holds nothing but another one,
  it is a copy.
-/

namespace FieldQuery

open Reading Judging

/-! ## Identities -/

/-- **Solving never gives out an identity twice**: the next free one never gets smaller. -/
theorem Reading.Composed.fresh_le {α : Type} {m : Reading α} (h : Composed m) (ledger : Ledger) :
    ledger.fresh ≤ (m.run ledger).2.fresh := by
  induction h generalizing ledger with
  | pure a => exact Nat.le_refl _
  | bind _ _ ihFirst ihRest => exact Nat.le_trans (ihFirst ledger) (ihRest _ _)
  | note event => exact Nat.le_refl _
  | ask handle =>
    obtain ⟨i, source⟩ := handle
    cases source <;> exact Nat.le_refl _
  | ofCandidates candidates =>
    match candidates with
    | [] | [_] => exact Nat.le_refl _
    | _ :: _ :: _ => exact Nat.le_succ _

namespace Value

/-! ## What is read, and what is made of it -/

/-- All candidates are read, or none. -/
theorem ensures_readAll_or (handle : Handle) (candidates : List Value) :
    Ensures (fun found => found = [] ∨ found = candidates) (handle.readAll candidates) := by
  refine (ensures_true handle.ask).bind fun answer _ => ?_
  split
  · exact (ensures_takeAll handle candidates).mono fun _ => .inr
  · exact ensures_pure (.inl rfl)

/-- Several candidates become a superposition with the next free identity. -/
theorem run_ofCandidates_of_several {candidates : List Value} (hlength : 2 ≤ candidates.length)
    (ledger : Ledger) :
    (ofCandidates candidates).run ledger =
      (.superposition ⟨ledger.fresh, .owned⟩ candidates,
        { ledger with fresh := ledger.fresh + 1 }) := by
  match candidates with
  | [] | [_] => simp at hlength
  | _ :: _ :: _ => rfl

/-- A superposition that the solver made of several candidates, with an identity that was free.
What is asked of it later leaves no trace in the ledger and finds the same every time. -/
structure IsCopy (first : Identity) (handle : Handle) (candidates : List Value) : Prop where
  /-- The solver made it. -/
  owned : handle.source = .owned
  /-- Its identity was free. -/
  free : first ≤ handle.identity
  /-- It holds several candidates. -/
  several : 2 ≤ candidates.length
  /-- It counts as true, and seeing that reads nothing. -/
  isTruthy : ∀ ledger : Ledger,
    (Value.superposition handle candidates).isTruthy.run ledger = (true, ledger)
  /-- All its candidates are there to be read at any time. -/
  readAll : ∀ ledger : Ledger, (handle.readAll candidates).run ledger = (candidates, ledger)

/-- What the solver makes of several candidates is a copy. -/
theorem isCopy_made {first i : Identity} (hfree : first ≤ i) {candidates : List Value}
    (hlength : 2 ≤ candidates.length) : IsCopy first ⟨i, .owned⟩ candidates where
  owned := rfl
  free := hfree
  several := hlength
  isTruthy ledger := by
    match candidates with
    | [] | [_] => simp at hlength
    | _ :: _ :: _ => rfl
  readAll ledger := readAll_owned i candidates ledger

/-- The path leads to a superposition from which several candidates are read, and the solver makes
a new one of them. -/
def Copies (path : List String) (scope : Value) (ledger : Ledger) (handle : Handle)
    (candidates : List Value) (after : Ledger) : Prop :=
  ∃ outer middle read, (resolve path scope).run ledger = (.superposition outer candidates, middle) ∧
    (outer.readAll candidates).run middle = (candidates, read) ∧ 2 ≤ candidates.length ∧
    handle = ⟨read.fresh, .owned⟩ ∧ after = { read with fresh := read.fresh + 1 }

/-- The path leads to a superposition of the context that holds one value, and the value is read
from it. -/
def HandsOn (path : List String) (scope : Value) (ledger : Ledger) (v : Value) (after : Ledger) :
    Prop :=
  ∃ outer middle, (Value.superposition outer [v]).Inside scope ∧
    (resolve path scope).run ledger = (.superposition outer [v], middle) ∧
    (outer.readAll [v]).run middle = ([v], after)

/-- What is made of several candidates is a copy, and its identity was free all the while. -/
theorem Copies.isCopy {path : List String} {scope : Value} {ledger after : Ledger}
    {handle : Handle} {candidates : List Value}
    (h : Copies path scope ledger handle candidates after) :
    IsCopy ledger.fresh handle candidates := by
  obtain ⟨outer, middle, read, hresolve, hread, hlength, rfl, -⟩ := h
  have hfollow := (composed_resolve path scope).fresh_le ledger
  have hlast := (composed_readAll outer candidates).fresh_le middle
  rw [hresolve] at hfollow
  rw [hread] at hlast
  exact isCopy_made (Nat.le_trans hfollow hlast) hlength

/-- The copy of a superposition is a superposition if several candidates are read, and if the only
one that is read is itself a superposition. -/
theorem run_settle_eq_superposition {outer handle : Handle} {found candidates : List Value}
    {ledger after : Ledger} :
    (Value.superposition outer found).settle.run ledger =
        (.superposition handle candidates, after) ↔
      (∃ read, (outer.readAll found).run ledger = (candidates, read) ∧ 2 ≤ candidates.length ∧
        handle = ⟨read.fresh, .owned⟩ ∧ after = { read with fresh := read.fresh + 1 }) ∨
      (outer.readAll found).run ledger = ([.superposition handle candidates], after) := by
  rcases hread : (outer.readAll found).run ledger with ⟨values, read⟩
  rw [run_settle_of_readAll hread]
  constructor
  · intro h
    match values, h with
    | [_], rfl => exact .inr rfl
    | c :: d :: rest, h =>
      have hlength : 2 ≤ (c :: d :: rest).length := by simp
      rw [run_ofCandidates_of_several hlength] at h
      cases h
      exact .inl ⟨read, rfl, hlength, rfl, rfl⟩
  · rintro (⟨_, ⟨⟩, hlength, rfl, rfl⟩ | ⟨⟨⟩⟩)
    · exact run_ofCandidates_of_several hlength read
    · rfl

/-- What is read from a superposition, if that is anything, are its candidates. -/
theorem eq_of_readAll {handle : Handle} {candidates found : List Value} {ledger after : Ledger}
    (h : (handle.readAll candidates).run ledger = (found, after)) (hfound : found ≠ []) :
    candidates = found := by
  have hall := ensures_readAll_or handle candidates ledger
  rw [h] at hall
  exact (hall.resolve_left hfound).symm

end Value

/-! ## Fields -/

namespace Expr

variable {app : Application} {path : Path}

/-- A value at a path is what is found there. -/
theorem eq_of_valueAt {scope v found : Value} {ledger middle after : Ledger}
    (hresolve : (Value.resolve path.segments scope).run ledger = (v, middle))
    (h : (valueAt app path scope).run ledger = (.ok found, after)) : found = v := by
  unfold valueAt at h
  rw [run_lift_bind, hresolve] at h
  split at h
  · split at h <;> cases h
    rfl
  · cases h
    rfl

/-- What a field comes to, if that is a value at all, is a copy of what is found at its path. -/
theorem resolve_of_solve_field {scope w : Value} {ledger after : Ledger} (hw : w.isNull = false)
    (h : ((Expr.field path).solve app scope).run ledger = (.ok (.plain w), after)) :
    ∃ v middle, (Value.resolve path.segments scope).run ledger = (v, middle) ∧
      v.settle.run middle = (w, after) := by
  rcases hresolve : (Value.resolve path.segments scope).run ledger with ⟨v, middle⟩
  refine ⟨v, middle, rfl, ?_⟩
  cases hv : v.isNull with
  | false =>
    rw [run_field_of_resolve hv hresolve] at h
    injection h with hvalue hafter
    injection hvalue with hvalue
    injection hvalue with hvalue
    exact Prod.ext hvalue hafter
  | true =>
    -- the copy of no value is no value
    rw [solve] at h
    obtain ⟨found, before, hfound, hcopy⟩ := run_bind_eq_ok h
    obtain rfl := eq_of_valueAt hresolve hfound
    cases found with
    | null =>
      cases hcopy
      cases hw
    | _ => cases hv

/-- A superposition that a field comes to is a copy, or it is handed on. -/
theorem copies_or_handsOn {scope : Value} {ledger after : Ledger} {handle : Handle}
    {candidates : List Value} (h : ((Expr.field path).solve app scope).run ledger =
      (.ok (.plain (.superposition handle candidates)), after)) :
    Value.Copies path.segments scope ledger handle candidates after ∨
      Value.HandsOn path.segments scope ledger (.superposition handle candidates) after := by
  obtain ⟨v, middle, hresolve, hcopy⟩ := resolve_of_solve_field rfl h
  rcases Value.isSingle_or v with hsingle | ⟨outer, found, rfl⟩
  · rw [Value.settle_of_isSingle hsingle] at hcopy
    cases hcopy
    exact absurd rfl (hsingle handle candidates)
  obtain ⟨read, hread, hlength, hhandle, hafter⟩ | hread :=
    Value.run_settle_eq_superposition.1 hcopy
  · obtain rfl := Value.eq_of_readAll hread (List.ne_nil_of_length_pos (by omega))
    exact .inl ⟨outer, middle, read, hresolve, hread, hlength, hhandle, hafter⟩
  · obtain rfl := Value.eq_of_readAll hread (List.cons_ne_nil _ _)
    -- the solver makes no superposition of one candidate, so that this one is in the scope
    have hinside := Value.ensures_resolve_inside path.segments scope ledger
    rw [hresolve] at hinside
    obtain hinside | ⟨-, hlength⟩ := hinside outer _ rfl
    · exact .inr ⟨outer, middle, hinside, hresolve, hread⟩
    · simp at hlength

/-- A copy is what the field comes to. -/
theorem solve_field_of_copies {scope : Value} {ledger after : Ledger} {handle : Handle}
    {candidates : List Value}
    (h : Value.Copies path.segments scope ledger handle candidates after) :
    ((Expr.field path).solve app scope).run ledger =
      (.ok (.plain (.superposition handle candidates)), after) := by
  obtain ⟨outer, middle, read, hresolve, hread⟩ := h
  rw [run_field_of_resolve rfl hresolve,
    Value.run_settle_eq_superposition.2 (.inl ⟨read, hread⟩)]

/-- What is handed on is what the field comes to. -/
theorem solve_field_of_handsOn {scope v : Value} {ledger after : Ledger}
    (h : Value.HandsOn path.segments scope ledger v after) :
    ((Expr.field path).solve app scope).run ledger = (.ok (.plain v), after) := by
  obtain ⟨outer, middle, -, hresolve, hread⟩ := h
  rw [run_field_of_resolve rfl hresolve, Value.run_settle_of_readAll hread]
  rfl

/-- **What superpositions a field comes to.**  Whatever the application, the path and the scope, it
is either a copy of several candidates that are read where the path leads, or one that a
superposition of the scope holds as its only candidate.  The copy is the solver's own: truth tests
and reads of it leave no trace. -/
theorem solve_field_superposition (app : Application) (path : Path) (scope : Value)
    (ledger after : Ledger) (handle : Handle) (candidates : List Value) :
    (((Expr.field path).solve app scope).run ledger =
        (.ok (.plain (.superposition handle candidates)), after) ↔
      Value.Copies path.segments scope ledger handle candidates after ∨
        Value.HandsOn path.segments scope ledger (.superposition handle candidates) after) ∧
    (Value.Copies path.segments scope ledger handle candidates after →
      Value.IsCopy ledger.fresh handle candidates) :=
  ⟨⟨copies_or_handsOn, fun h => h.elim solve_field_of_copies solve_field_of_handsOn⟩,
    Value.Copies.isCopy⟩

/-- A room that is one of two, and a guest who is one of those that are hidden behind another
superposition.  The numbers can be read once only. -/
def lodgings : Value :=
  .object [("room", .superposition ⟨0, .singlePass⟩ [.integer 3, .integer 4]),
    ("guest", .superposition ⟨1, .supplied⟩
      [.superposition ⟨2, .singlePass⟩ [.integer 1, .integer 2]])]

theorem solve_field_superposition_lodgings :
    Value.IsCopy 3 ⟨3, .owned⟩ [.integer 3, .integer 4] ∧
    ((Expr.field ⟨["guest"]⟩).solve Application.standard lodgings).run ⟨3, []⟩ =
      (.ok (.plain (.superposition ⟨2, .singlePass⟩ [.integer 1, .integer 2])),
        ⟨3, [.taken 1, .asked 1]⟩) := by
  constructor
  · have hcopies : Value.Copies ["room"] lodgings ⟨3, []⟩ ⟨3, .owned⟩ [.integer 3, .integer 4]
        ⟨4, [.taken 0, .taken 0, .asked 0]⟩ :=
      ⟨⟨0, .singlePass⟩, ⟨3, []⟩, ⟨3, [.taken 0, .taken 0, .asked 0]⟩,
        rfl, rfl, by decide, rfl, rfl⟩
    exact (solve_field_superposition Application.standard ⟨["room"]⟩ lodgings _ _ _ _).2 hcopies
  · refine (solve_field_superposition Application.standard ⟨["guest"]⟩ lodgings _ _ _ _).1.2 ?_
    exact .inr ⟨⟨1, .supplied⟩, ⟨3, []⟩,
      .field (List.mem_cons_of_mem _ (List.mem_cons_self ..)) .self, rfl, rfl⟩

/-- The guest is the superposition of the application itself, and not a copy: seeing that it counts
as true spends it, and nothing is left to be read. -/
theorem solve_field_lodgings_spent :
    ∃ handle candidates after,
      ((Expr.field ⟨["guest"]⟩).solve Application.standard lodgings).run ⟨3, []⟩ =
        (.ok (.plain (.superposition handle candidates)), after) ∧
      handle.source = .singlePass ∧ candidates.length = 2 ∧
      ((Value.superposition handle candidates).isTruthy.run after).1 = true ∧
      ((handle.readAll candidates).run
        ((Value.superposition handle candidates).isTruthy.run after).2).1 = [] :=
  ⟨⟨2, .singlePass⟩, [.integer 1, .integer 2], ⟨3, [.taken 1, .asked 1]⟩, rfl, rfl, rfl, rfl, rfl⟩

/-- **Where no superposition of the scope holds nothing but another one, a superposition that a
field comes to is a copy**, whatever can be read once only. -/
theorem solve_field_isCopy {scope : Value}
    (hscope : ∀ outer handle candidates,
      ¬ (Value.superposition outer [.superposition handle candidates]).Inside scope)
    {ledger after : Ledger} {handle : Handle} {candidates : List Value}
    (h : ((Expr.field path).solve app scope).run ledger =
      (.ok (.plain (.superposition handle candidates)), after)) :
    Value.IsCopy ledger.fresh handle candidates := by
  obtain hcopies | ⟨outer, middle, hinside, -, -⟩ := copies_or_handsOn h
  · exact hcopies.isCopy
  · exact absurd hinside (hscope outer handle candidates)

end Expr

end FieldQuery
