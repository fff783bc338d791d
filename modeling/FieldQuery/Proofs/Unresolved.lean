import FieldQuery.Proofs.Kinds

/-!
# Where strict field paths lead

A strict application makes a field path without a value an error.  Whether there is a value is
seen before what is found is copied, so that a superposition counts as one, whatever it holds.  If
it holds nothing, or nothing but no value, the copy is no value after all.

* `Value.Inside` — a value is somewhere in another one.
* `Value.ensures_resolve_inside` — a path leads to superpositions of the context, or to those that
  the solver makes of several candidates.
* `Expr.solve_field_null_iff` — a strict field path comes to no value where it leads to a
  superposition of the context that reads as empty or as no value alone, and nowhere else.
* `Expr.solve_field_ne_null` — where there are no such superpositions it never does.
-/

namespace FieldQuery

open Reading Judging

/-! ## Superpositions inside a value -/

namespace Value

/-- A value is another one or somewhere in it, at any depth. -/
inductive Inside (part : Value) : Value → Prop where
  /-- The value itself. -/
  | self : Inside part part
  /-- In an element of a list. -/
  | item {items : List Value} {v : Value} (hv : v ∈ items) (h : Inside part v) :
    Inside part (.array items)
  /-- In a field of an object. -/
  | field {fields : List (String × Value)} {field : String × Value} (hfield : field ∈ fields)
    (h : Inside part field.2) : Inside part (.object fields)
  /-- In a field of a record. -/
  | recordField {identity : Identity} {typeName : String} {fields : List (String × Value)}
    {field : String × Value} (hfield : field ∈ fields) (h : Inside part field.2) :
    Inside part (.record identity typeName fields)
  /-- In a candidate of a superposition. -/
  | candidate {handle : Handle} {candidates : List Value} {v : Value} (hv : v ∈ candidates)
    (h : Inside part v) : Inside part (.superposition handle candidates)

variable {part v w : Value}

/-- What a name leads to is in the value. -/
theorem Inside.of_next? {name : String} (h : v.next? name = some w) (hw : part.Inside w) :
    part.Inside v := by
  obtain rfl | ⟨fields, hfound, rfl | ⟨identity, typeName, rfl⟩⟩ := next?_cases h
  · exact hw
  · exact .field (mem_of_lookup hfound) hw
  · exact .recordField (mem_of_lookup hfound) hw

/-- The superpositions in a value are in the context, or they stand for several candidates. -/
def DrawnFrom (scope v : Value) : Prop :=
  ∀ handle candidates, (Value.superposition handle candidates).Inside v →
    (Value.superposition handle candidates).Inside scope ∨
      handle.source = .owned ∧ 2 ≤ candidates.length

theorem carries_drawnFrom (scope : Value) : Carries (DrawnFrom scope) (DrawnFrom scope) where
  context_of_result _ h := h
  result_of_isSingle _ _ h := h
  null := by rintro handle candidates ⟨⟩
  next? h hnext handle candidates hinside := h handle candidates (hinside.of_next? hnext)
  candidates h c hc handle candidates hinside := h handle candidates (.candidate hc hinside)
  made i candidates hlength h := by
    intro handle candidates' hinside
    cases hinside with
    | self => exact .inr ⟨rfl, hlength⟩
    | candidate hc hinside => exact h _ hc handle candidates' hinside

/-- **A path leads to superpositions of the context**, or to those that the solver makes of several
candidates. -/
theorem ensures_resolve_inside (path : List String) (scope : Value) :
    Ensures (fun v => ∀ handle candidates, v = .superposition handle candidates →
      (Value.superposition handle candidates).Inside scope ∨
        handle.source = .owned ∧ 2 ≤ candidates.length) (resolve path scope) := by
  have hscope : DrawnFrom scope scope := fun _ _ => .inl
  refine ((carries_drawnFrom scope).ensures_resolve path hscope).mono ?_
  rintro v hv handle candidates rfl
  exact hv handle candidates .self

/-! ## Copies -/

/-- Some candidates stand for no value when there are none, or only that. -/
theorem run_ofCandidates_eq_null {candidates : List Value} {ledger after : Ledger} :
    (ofCandidates candidates).run ledger = (.null, after) ↔
      (candidates = [] ∨ candidates = [.null]) ∧ ledger = after := by
  match candidates with
  | [] =>
    show ((.null, ledger) : Value × Ledger) = (.null, after) ↔ _
    simp
  | [c] =>
    show (c, ledger) = (.null, after) ↔ _
    simp
  | c :: d :: rest =>
    show (Value.superposition ⟨ledger.fresh, .owned⟩ (c :: d :: rest), _) = (.null, after) ↔ _
    simp

/-- The copy of a superposition is made of what is read from it. -/
theorem run_settle_of_readAll {handle : Handle} {candidates found : List Value}
    {ledger middle : Ledger} (hread : (handle.readAll candidates).run ledger = (found, middle)) :
    (Value.superposition handle candidates).settle.run ledger =
      (ofCandidates found).run middle := by
  show (ofCandidates ((handle.readAll candidates).run ledger).1).run
    ((handle.readAll candidates).run ledger).2 = _
  rw [hread]

/-- The copy of a superposition is no value when what is read from it stands for that. -/
theorem run_settle_eq_null {handle : Handle} {candidates : List Value} {ledger after : Ledger} :
    (Value.superposition handle candidates).settle.run ledger = (.null, after) ↔
      (handle.readAll candidates).run ledger = ([], after) ∨
        (handle.readAll candidates).run ledger = ([.null], after) := by
  rcases hread : (handle.readAll candidates).run ledger with ⟨found, middle⟩
  rw [run_settle_of_readAll hread, run_ofCandidates_eq_null]
  constructor
  · rintro ⟨rfl | rfl, rfl⟩
    · exact .inl rfl
    · exact .inr rfl
  · rintro (⟨⟨⟩⟩ | ⟨⟨⟩⟩)
    · exact ⟨.inl rfl, rfl⟩
    · exact ⟨.inr rfl, rfl⟩

/-- A superposition of the solver with several candidates is never no value. -/
theorem readAll_owned (i : Identity) (candidates : List Value) (ledger : Ledger) :
    (Handle.readAll ⟨i, .owned⟩ candidates).run ledger = (candidates, ledger) := by
  have htake : (candidates.forM fun _ => Handle.take ⟨i, .owned⟩).run ledger = ((), ledger) := by
    induction candidates with
    | nil => rfl
    | cons c cs ih => exact ih
  show ((candidates, ((candidates.forM fun _ => Handle.take ⟨i, .owned⟩).run ledger).2) :
    List Value × Ledger) = _
  rw [htake]

end Value

/-! ## Strict field paths -/

namespace Expr

variable {app : Application} {path : Path}

/-- A field path comes to a copy of the value that is found, if there is one. -/
theorem run_field_of_resolve {scope v : Value} {ledger middle : Ledger} (hvalue : v.isNull = false)
    (hresolve : (Value.resolve path.segments scope).run ledger = (v, middle)) :
    ((Expr.field path).solve app scope).run ledger =
      (.ok (.plain (v.settle.run middle).1), (v.settle.run middle).2) := by
  have hfound : (valueAt app path scope).run ledger = (.ok v, middle) := by
    unfold valueAt
    rw [run_lift_bind, hresolve, hvalue]
    rfl
  rw [solve, run_bind_of_ok hfound]
  rfl

/-- A strict field path is an error if no value is found. -/
theorem run_field_of_missing (hstrict : app.strict = true) (hpath : path.isCurrent = false)
    {scope : Value} {ledger middle : Ledger}
    (hresolve : (Value.resolve path.segments scope).run ledger = (.null, middle)) :
    ((Expr.field path).solve app scope).run ledger = (.error (.unresolved path), middle) := by
  have hmissing : (valueAt app path scope).run ledger = (.error (.unresolved path), middle) := by
    unfold valueAt
    rw [run_lift_bind, hresolve, hpath, hstrict]
    rfl
  rw [solve, run_bind_of_error hmissing]

/-- **Where a strict field path comes to no value.**  Whatever the scope, this is so where the path
leads to a superposition of the scope that reads as empty or as no value alone, and nowhere else:
a name without a value, no value itself and what the solver makes of candidates are none of the
solutions of the path. -/
theorem solve_field_null_iff (hstrict : app.strict = true) (hpath : path.isCurrent = false)
    (scope : Value) (ledger after : Ledger) :
    ((Expr.field path).solve app scope).run ledger = (.ok (.plain .null), after) ↔
      ∃ handle candidates middle, (Value.superposition handle candidates).Inside scope ∧
        (Value.resolve path.segments scope).run ledger =
          (.superposition handle candidates, middle) ∧
        ((handle.readAll candidates).run middle = ([], after) ∨
          (handle.readAll candidates).run middle = ([.null], after)) := by
  rcases hresolve : (Value.resolve path.segments scope).run ledger with ⟨v, middle⟩
  have hinside := Value.ensures_resolve_inside path.segments scope ledger
  rw [hresolve] at hinside
  constructor
  · intro hsolve
    rcases Value.isSingle_or v with hsingle | ⟨handle, candidates, rfl⟩
    · -- a single value is its own copy, and no value is an error
      by_cases hnull : v.isNull = true
      · cases v with
        | null =>
          rw [run_field_of_missing hstrict hpath hresolve] at hsolve
          cases hsolve
        | _ => cases hnull
      · rw [run_field_of_resolve (by simpa using hnull) hresolve,
          Value.settle_of_isSingle hsingle] at hsolve
        cases hsolve
        exact absurd rfl hnull
    · rw [run_field_of_resolve rfl hresolve] at hsolve
      injection hsolve with hvalue hafter
      injection hvalue with hvalue
      injection hvalue with hvalue
      have hread := Value.run_settle_eq_null.1 (Prod.ext hvalue hafter)
      refine ⟨handle, candidates, middle, ?_, rfl, hread⟩
      rcases hinside handle candidates rfl with hinside | ⟨howned, hlength⟩
      · exact hinside
      · obtain ⟨i, source⟩ := handle
        subst howned
        rw [Value.readAll_owned] at hread
        rcases hread with ⟨⟨⟩⟩ | ⟨⟨⟩⟩ <;> simp at hlength
  · rintro ⟨handle, candidates, middle', -, ⟨⟩, hread⟩
    rw [run_field_of_resolve rfl hresolve, Value.run_settle_eq_null.2 hread]

/-- Guests that are nobody: none at all, one that is no value, and one whose name is hidden behind
another superposition. -/
def vacancies : Value :=
  .object [("gone", .superposition ⟨0, .owned⟩ []), ("lost", .superposition ⟨1, .owned⟩ [.null]),
    ("guest", .superposition ⟨2, .owned⟩ [.object [("name", .superposition ⟨3, .owned⟩
      [.superposition ⟨4, .owned⟩ []])]])]

theorem solve_field_null_iff_vacancies :
    ∃ handle candidates middle, (Value.superposition handle candidates).Inside vacancies ∧
      (Value.resolve ["guest", "name"] vacancies).run ⟨5, []⟩ =
        (.superposition handle candidates, middle) ∧
      ((handle.readAll candidates).run middle = ([], ⟨5, []⟩) ∨
        (handle.readAll candidates).run middle = ([.null], ⟨5, []⟩)) := by
  let strict : Application := { Application.standard with strict := true }
  have hstrict : strict.strict = true := rfl
  have hpath : Path.isCurrent ⟨["guest", "name"]⟩ = false := rfl
  exact (solve_field_null_iff hstrict hpath vacancies ⟨5, []⟩ ⟨5, []⟩).1 rfl

/-- A strict path comes to no value at superpositions without candidates, at those of no value
alone, and where one of them is the only candidate that is found. -/
theorem solve_field_vacancies :
    (((Expr.field ⟨["gone"]⟩).solve { Application.standard with strict := true } vacancies).run
      ⟨5, []⟩).1 = .ok (.plain .null) ∧
    (((Expr.field ⟨["lost"]⟩).solve { Application.standard with strict := true } vacancies).run
      ⟨5, []⟩).1 = .ok (.plain .null) ∧
    (((Expr.field ⟨["guest", "name"]⟩).solve { Application.standard with strict := true }
      vacancies).run ⟨5, []⟩).1 = .ok (.plain .null) :=
  ⟨rfl, rfl, rfl⟩

/-- **Where every superposition of the scope can be read again and holds more than no value, a
strict field path never comes to no value.** -/
theorem solve_field_ne_null (hstrict : app.strict = true) (hpath : path.isCurrent = false)
    {scope : Value}
    (hscope : ∀ handle candidates, (Value.superposition handle candidates).Inside scope →
      handle.source ≠ .singlePass ∧ candidates ≠ [] ∧ candidates ≠ [.null])
    (ledger after : Ledger) :
    ((Expr.field path).solve app scope).run ledger ≠ (.ok (.plain .null), after) := by
  intro hnull
  obtain ⟨handle, candidates, middle, hinside, -, hread⟩ :=
    (solve_field_null_iff hstrict hpath scope ledger after).1 hnull
  obtain ⟨hsource, hsome, hvalue⟩ := hscope handle candidates hinside
  have hfound := Value.ensures_readAll hsource candidates middle
  rcases hread with hread | hread <;> rw [hread] at hfound
  · exact hsome hfound.symm
  · exact hvalue hfound.symm

end Expr

end FieldQuery
