import FieldQuery.Proofs.Unresolved

/-!
# Components and fields

Whether a value has a component and what a path of one name leads to are found in two ways.  A
component is looked up in the value itself, a path goes on from the candidates of a
superposition.  The answers are the same for single values, save where a copy comes to nothing.  A
superposition has no components, whatever its candidates have.

* `Application.standard_hasComponent` — a component is a field with a value.
* `Value.ensures_settle_isNull` — a copy is no value if it is one of nothing.
* `Value.ensures_resolve_null` — a name that is no component of any leaf leads to no value.
* `Expr.solve_component_field` — the test for a component beside the field of its name.
-/

namespace FieldQuery

open Reading Judging

/-- **A component is a field with a value.** -/
theorem Application.standard_hasComponent {v : Value} {name : String} :
    Application.standard.hasComponent v name = true ↔
      ∃ component, v.get? name = some component ∧ component.isNull = false := by
  show ((v.get? name).map fun component => !component.isNull).getD false = true ↔ _
  cases v.get? name <;> simp

namespace Value

variable {v : Value} {name : String}

/-- A name leads to the field of the name, unless it is the type's name of a record. -/
theorem next?_eq_get? (h : ∀ identity fields, v ≠ .record identity name fields) :
    v.next? name = v.get? name := by
  cases v with
  | record identity typeName fields =>
    have htype : typeName ≠ name := fun htype => h identity fields (htype ▸ rfl)
    simp only [next?, get?, if_neg htype]
    cases lookup name fields <;> rfl
  | _ => rfl

/-! ## Where there is no value -/

/-- Some candidates stand for no value if there are none, or only that. -/
theorem ensures_ofCandidates_isNull (candidates : List Value) :
    Ensures (fun w => w.isNull = true ↔ candidates = [] ∨ candidates = [.null])
      (ofCandidates candidates) := by
  intro ledger
  rcases hrun : (ofCandidates candidates).run ledger with ⟨w, after⟩
  constructor
  · intro hnull
    have hw : w = .null := by cases w <;> first | rfl | cases hnull
    exact (run_ofCandidates_eq_null.1 (hw ▸ hrun)).1
  · intro hnothing
    rw [run_ofCandidates_eq_null.2 ⟨hnothing, rfl⟩] at hrun
    cases hrun
    rfl

/-- A copy is no value if it is one of no value, or of a superposition that holds nothing else. -/
theorem ensures_settle_isNull (hv : v.IsReadable) :
    Ensures (fun copy => copy.isNull = true ↔ v.isNull = true ∨ ∃ handle candidates,
      v = .superposition handle candidates ∧ (candidates = [] ∨ candidates = [.null]))
      v.settle := by
  rcases isSingle_or v with hsingle | ⟨handle, candidates, rfl⟩
  · rw [settle_of_isSingle hsingle]
    refine ensures_pure ⟨.inl, ?_⟩
    rintro (hnull | ⟨handle, candidates, rfl, -⟩)
    · exact hnull
    · exact absurd rfl (hsingle _ _)
  · refine (ensures_readAll (isReadable_superposition.1 hv).1 candidates).bind ?_
    rintro _ rfl
    simpa [isNull] using ensures_ofCandidates_isNull _

/-- Where nothing is found from any candidate, nothing is gathered. -/
theorem ensures_descendAll_nil {follow : Value → Reading Value} {handle : Handle}
    {candidates : List Value}
    (hnull : ∀ c ∈ candidates, Ensures (·.isNull = true) (descend name follow c)) :
    Ensures (· = []) (descendAll name follow handle candidates) := by
  induction candidates with
  | nil => exact ensures_pure rfl
  | cons c cs ih =>
    rw [List.forall_mem_cons] at hnull
    rw [descendAll_cons]
    refine (ensures_true handle.take).bind fun _ _ => ?_
    refine hnull.1.bind fun found hfound => ?_
    have hnothing : Ensures (· = []) (hits found) := by
      cases found with
      | null => exact ensures_pure rfl
      | _ => cases hfound
    refine hnothing.bind ?_
    rintro _ rfl
    refine (ih hnull.2).bind ?_
    rintro _ rfl
    exact ensures_pure rfl

/-- **A name leads to no value where it does so from every leaf.** -/
theorem ensures_resolve_null (hv : v.IsReadable)
    (hleaves : ∀ leaf ∈ v.leaves, ∀ next, leaf.next? name = some next → next.isNull = true) :
    Ensures (·.isNull = true) (resolve [name] v) := by
  induction v using candidates_induction with
  | single v hsingle =>
    rw [resolve, descend_of_isSingle name _ hsingle]
    cases hnext : v.next? name with
    | none => exact ensures_pure rfl
    | some next =>
      by_cases hnull : v.isNull = true
      · cases v <;> first | cases hnext | cases hnull
      · rw [leaves_of_isSingle hsingle (by simpa using hnull)] at hleaves
        exact ensures_pure (hleaves v (by simp) next hnext)
  | superposition handle candidates ih =>
    rw [isReadable_superposition] at hv
    rw [leaves_superposition] at hleaves
    have hcandidates : ∀ c ∈ candidates, Ensures (·.isNull = true) (resolve [name] c) :=
      fun c hc => ih c hc (hv.2 c hc) fun leaf hleaf =>
        hleaves leaf (List.mem_flatMap_of_mem hc hleaf)
    rw [resolve, descend]
    refine (ensures_ask hv.1).bind ?_
    rintro _ rfl
    refine (ensures_descendAll_nil hcandidates).bind ?_
    rintro _ rfl
    exact ensures_pure rfl

/-- What a path of one name leads to from a single value is the field of the name. -/
theorem ensures_resolve_of_isSingle (hsingle : v.IsSingle)
    (hname : ∀ identity fields, v ≠ .record identity name fields) :
    Ensures (· = (v.get? name).getD .null) (resolve [name] v) := by
  rw [resolve, descend_of_isSingle name _ hsingle, next?_eq_get? hname]
  cases v.get? name <;> exact ensures_pure rfl

end Value

namespace Expr

variable {scope : Value} {name : String}

/-- In a single value, a name is a component when its field has a value, or a superposition that
holds no value. -/
theorem ensures_field_of_isSingle (hscope : scope.IsReadable) (hsingle : scope.IsSingle)
    (hname : ∀ identity fields, scope ≠ .record identity name fields) :
    Ensures (fun x => ∃ w : Value, x = .ok (.plain w) ∧
      (Application.standard.hasComponent scope name = true ↔ w.isNull = false ∨
        ∃ handle candidates, scope.get? name = some (.superposition handle candidates) ∧
          (candidates = [] ∨ candidates = [.null])))
      ((Expr.field ⟨[name]⟩).solve .standard scope).run := by
  have hfound : Ensures (fun v => v = (scope.get? name).getD .null ∧ v.IsReadable)
      (Value.resolve [name] scope) := fun ledger =>
    ⟨Value.ensures_resolve_of_isSingle hsingle hname ledger,
      (ensures_resolve [name] hscope ledger).1⟩
  refine ensures_field_of_resolve rfl hfound ?_
  rintro v ⟨hv, hreadable⟩
  refine (Value.ensures_settle_isNull hreadable).mono fun copy hcopy => ?_
  rw [Application.standard_hasComponent]
  cases hget : scope.get? name with
  | none =>
    rw [hget] at hv
    have hnull : copy.isNull = true := hcopy.2 (.inl (hv ▸ rfl))
    simp [hnull]
  | some component =>
    rw [hget, Option.getD_some] at hv
    rw [hv] at hcopy
    have hvalue : (∃ handle candidates, component = .superposition handle candidates ∧
        (candidates = [] ∨ candidates = [.null])) → component.isNull = false := by
      rintro ⟨handle, candidates, rfl, -⟩
      rfl
    rw [← Bool.not_eq_true copy.isNull, hcopy]
    simp only [Option.some.injEq, exists_eq_left']
    grind

/-- From any value, a name leads to a value only if it is a component of a leaf, and it does if
that component has a leaf. -/
theorem ensures_field_leaves (hscope : scope.IsReadable)
    (hname : ∀ identity fields, Value.record identity name fields ∉ scope.leaves) :
    Ensures (fun x => ∃ w : Value, x = .ok (.plain w) ∧
      (w.isNull = false →
        ∃ leaf ∈ scope.leaves, Application.standard.hasComponent leaf name = true) ∧
      ∀ leaf ∈ scope.leaves, ∀ component, leaf.get? name = some component →
        component.leaves ≠ [] → w.isNull = false)
      ((Expr.field ⟨[name]⟩).solve .standard scope).run := by
  have hnext : ∀ leaf ∈ scope.leaves, leaf.next? name = leaf.get? name := fun leaf hleaf =>
    Value.next?_eq_get? fun identity fields hrecord => hname identity fields (hrecord ▸ hleaf)
  have hfound : Ensures (fun v => v.IsReadable ∧ v.leaves = Value.trail [name] scope ∧
      ((¬ ∃ leaf ∈ scope.leaves, Application.standard.hasComponent leaf name = true) →
        v.isNull = true)) (Value.resolve [name] scope) := by
    intro ledger
    obtain ⟨hreadable, hleaves⟩ := ensures_resolve [name] hscope ledger
    refine ⟨hreadable, hleaves, fun hnone => ?_⟩
    refine Value.ensures_resolve_null hscope (fun leaf hleaf next hget => ?_) ledger
    rw [hnext leaf hleaf] at hget
    by_contra hvalue
    exact hnone ⟨leaf, hleaf,
      Application.standard_hasComponent.2 ⟨next, hget, by simpa using hvalue⟩⟩
  refine ensures_field_of_resolve rfl hfound ?_
  rintro v ⟨hreadable, hleaves, hnull⟩ ledger
  have hcopy := (Value.ensures_settle hreadable ledger).2
  have hisNull := Value.ensures_settle_isNull hreadable ledger
  refine ⟨fun hvalue => ?_, fun leaf hleaf component hget hsome => ?_⟩
  · by_contra hnone
    rw [hisNull.2 (.inl (hnull hnone))] at hvalue
    cases hvalue
  · -- the leaves of the component are among those of the copy
    by_contra hvalue
    rw [Bool.not_eq_false] at hvalue
    rw [Value.leaves_of_isNull hvalue, hleaves] at hcopy
    have hnothing := List.flatMap_eq_nil_iff.1 hcopy.symm leaf hleaf
    rw [hnext leaf hleaf, hget] at hnothing
    exact hsome (by simpa [Value.trail] using hnothing)

/-- **The test for a component beside the field of its name.**  In a single value the test tells
whether the field has a value, save for a superposition that holds none.  In a superposition it is
false, but the field has a value if that of some candidate has, at any depth. -/
theorem solve_component_field (hscope : scope.IsReadable)
    (hname : ∀ identity fields, Value.record identity name fields ∉ scope.leaves)
    (ledger ledger' : Ledger) :
    ∃ b w, (((Expr.component name).solve .standard scope).run ledger).1 = .ok (.plainBool b) ∧
      (((Expr.field ⟨[name]⟩).solve .standard scope).run ledger').1 = .ok (.plain w) ∧
      (scope.IsSingle → (b = true ↔ w.isNull = false ∨ ∃ handle candidates,
        scope.get? name = some (.superposition handle candidates) ∧
          (candidates = [] ∨ candidates = [.null]))) ∧
      (¬ scope.IsSingle → b = false ∧
        (w.isNull = false →
          ∃ leaf ∈ scope.leaves, Application.standard.hasComponent leaf name = true) ∧
        ∀ leaf ∈ scope.leaves, ∀ component, leaf.get? name = some component →
          component.leaves ≠ [] → w.isNull = false) := by
  refine ⟨Application.standard.hasComponent scope name, ?_⟩
  by_cases hsingle : scope.IsSingle
  · have hrecord : ∀ identity fields, scope ≠ .record identity name fields := by
      rintro identity fields rfl
      exact hname identity fields (by simp [Value.leaves])
    obtain ⟨w, hw, hagree⟩ := ensures_field_of_isSingle hscope hsingle hrecord ledger'
    exact ⟨w, rfl, hw, fun _ => hagree, fun hmany => absurd hsingle hmany⟩
  · obtain ⟨w, hw, hcandidates⟩ := ensures_field_leaves hscope hname ledger'
    obtain ⟨handle, candidates, rfl⟩ := (Value.isSingle_or scope).resolve_left hsingle
    exact ⟨w, rfl, hw, fun h => absurd h hsingle, fun _ => ⟨rfl, hcandidates⟩⟩

/-- Two guests, of whom either may be the one that is asked for. -/
def visitors : Value :=
  .superposition ⟨0, .owned⟩ [.object [("name", .string "Ann")], .object [("name", .string "Bob")]]

/-- The guests have no name, but a guest has one. -/
theorem solve_component_field_guests :
    ∃ b w, (((Expr.component "name").solve .standard visitors).run ⟨1, []⟩).1 =
        .ok (.plainBool b) ∧
      (((Expr.field ⟨["name"]⟩).solve .standard visitors).run ⟨1, []⟩).1 = .ok (.plain w) ∧
      b = false ∧ w.isNull = false := by
  have hscope : visitors.IsReadable := by simp [visitors]
  have hname : ∀ identity fields, Value.record identity "name" fields ∉ visitors.leaves := by
    simp [visitors, Value.leaves]
  obtain ⟨b, w, hb, hw, -, hmany⟩ := solve_component_field hscope hname ⟨1, []⟩ ⟨1, []⟩
  obtain ⟨hfalse, -, hvalue⟩ := hmany fun hsingle => hsingle _ _ rfl
  have hAnn : Value.object [("name", .string "Ann")] ∈ visitors.leaves := by
    simp [visitors, Value.leaves]
  exact ⟨b, w, hb, hw, hfalse, hvalue _ hAnn (.string "Ann") rfl (by simp [Value.leaves])⟩

/-- Where a path leads to several guests, they have no component, although the field of its name
has a value.  An object has a component without guests, although its field has none. -/
theorem solve_component_guests :
    (((Expr.within (.field ⟨["guests"]⟩) (.component "name")).solve .standard
      (.object [("guests", visitors)])).run ⟨1, []⟩).1 = .ok (.plainBool false) ∧
    (((Expr.within (.field ⟨["guests"]⟩) (.field ⟨["name"]⟩)).solve .standard
      (.object [("guests", visitors)])).run ⟨1, []⟩).1 =
        .ok (.plain (.superposition ⟨3, .owned⟩ [.string "Ann", .string "Bob"])) ∧
    (((Expr.component "guests").solve .standard
      (.object [("guests", .superposition ⟨0, .owned⟩ [])])).run ⟨1, []⟩).1 =
        .ok (.plainBool true) ∧
    (((Expr.field ⟨["guests"]⟩).solve .standard
      (.object [("guests", .superposition ⟨0, .owned⟩ [])])).run ⟨1, []⟩).1 =
        .ok (.plain .null) :=
  ⟨rfl, rfl, rfl, rfl⟩

end Expr

end FieldQuery
