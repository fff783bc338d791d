import FieldQuery.Proofs.Parts
import FieldQuery.Proofs.Walks

/-!
# Solving again finds the same

Where nothing is single-pass, a second solve finds what the first one did, whatever was read
before and in between.  Only the superpositions that the solver makes have other identities
then, and nothing depends on these, provided that the application does not look at them.

* `Application.IsPure` — the application judges values that are alike alike.
* `Expr.IsReadable` — the literals of an expression can be read again.
* `Value.concur_holds` — comparisons come to the same.
* `Quantifier.concur_across` — so do quantifiers.
* `Expr.concur_solve` — and so does every expression, in contexts that are alike.
-/

namespace FieldQuery

open Reading Judging

/-! ## Comparisons -/

namespace Value

variable {left left' right right' : Value}

theorem concur_equivalent (hl : Alike left left') (hr : Alike right right') :
    Concur Eq (equivalent left right) (equivalent left' right') := by
  have hsame := ensures_equivalent hl.symm.readable hr.symm.readable
  rw [← hl.leaves_eq, ← hr.leaves_eq] at hsame
  exact concur_of_ensures (ensures_equivalent hl.readable hr.readable) hsame

theorem concur_ordered (accepts : Ordering → Bool) (hl : Alike left left')
    (hr : Alike right right') :
    Concur Eq (ordered accepts left right) (ordered accepts left' right') := by
  have hsame := ensures_ordered accepts hl.symm.readable hr.symm.readable
  rw [← hl.leaves_eq, ← hr.leaves_eq] at hsame
  exact concur_of_ensures (ensures_ordered accepts hl.readable hr.readable) hsame

theorem concur_matched (pattern : Pattern) (h : Alike left left') :
    Concur Eq (matched pattern left) (matched pattern left') := by
  have hsame := ensures_matched pattern h.symm.readable
  rw [← h.leaves_eq] at hsame
  exact concur_of_ensures (ensures_matched pattern h.readable) hsame

theorem concur_searched (hl : Alike left left') (hr : Alike right right') :
    Concur Eq (searched left right) (searched left' right') := by
  obtain ⟨-, rfl⟩ | ⟨handle, handle', candidates, rfl, rfl, -⟩ := hr.single_or_candidates
  · cases right with
    | null => exact concur_pure rfl
    | string s =>
      simp only [searched]
      cases Pattern.ofText? s.toList with
      | none => exact concur_throw _
      | some pattern => exact concur_matched pattern hl
    | _ => exact concur_throw _
  · exact concur_throw _

theorem equivalentToAny_eq (v : Value) (items : List Value) :
    equivalentToAny v items = firstTrue (pure ()) (equivalent v) items := by
  induction items with
  | nil => rfl
  | cons item items ih =>
    rw [equivalentToAny, ih]
    rfl

theorem concur_equivalentToAny (h : Alike left left') {items : List Value}
    (hitems : ∀ item ∈ items, item.IsReadable) :
    Concur Eq (equivalentToAny left items) (equivalentToAny left' items) := by
  rw [equivalentToAny_eq, equivalentToAny_eq]
  exact concur_firstTrue fun item hitem => concur_equivalent h (.same (hitems item hitem))

/-! ### Membership -/

theorem candidateEquivalent_eq (needle : Value) (handle : Handle) (candidates : List Value) :
    memberOf.candidateEquivalent needle handle candidates =
      firstTrue handle.take (equivalent needle) candidates := by
  induction candidates with
  | nil => rfl
  | cons c cs ih => rw [memberOf.candidateEquivalent, firstTrue, ih]

theorem memberAll_eq (handle : Handle) (haystack : Value) (candidates : List Value) :
    memberAll handle haystack candidates =
      firstTrue handle.take (fun c => member c haystack) candidates := by
  induction candidates with
  | nil => rw [memberAll, firstTrue]
  | cons c cs ih => rw [memberAll, firstTrue, ih]

theorem concur_memberOf (hl : left.IsReadable) (hr : Alike right right') :
    Concur Eq (memberOf left right) (memberOf left right') := by
  obtain ⟨hsingle, rfl⟩ | ⟨handle, handle', candidates, rfl, rfl, hh, hh', hcandidates⟩ :=
    hr.single_or_candidates
  · cases right with
    | null => exact concur_pure rfl
    | superposition => exact absurd rfl (hsingle _ _)
    | array items =>
      exact concur_equivalentToAny (.same hl) (isReadable_array.1 hr.readable)
    | string whole =>
      cases left with
      | string part => exact concur_pure rfl
      | _ => exact concur_throw _
    | object fields =>
      cases left with
      | string name => exact concur_pure rfl
      | _ => exact concur_throw _
    | _ => cases left <;> exact concur_throw _
  · unfold memberOf
    refine concur_lift (agree_ask hh hh') ?_
    rintro _ _ ⟨rfl, rfl⟩
    rw [if_pos rfl, if_pos rfl, candidateEquivalent_eq, candidateEquivalent_eq]
    exact concur_firstTrue fun c hc => concur_equivalent (.same hl) (.same (hcandidates c hc))

theorem member_of_isSingle (h : left.IsSingle) (right : Value) :
    member left right = if left.isNull then return false else memberOf left right := by
  cases left with
  | superposition => exact absurd rfl (h _ _)
  | _ => rfl

theorem concur_member (hl : Alike left left') (hr : Alike right right') :
    Concur Eq (member left right) (member left' right') := by
  suffices hall : ∀ right right', Alike right right' →
      Concur Eq (member left right) (member left' right') from hall right right' hr
  refine hl.candidates_induction ?single ?superposition
  case single =>
    intro left hsingle hleft right right' hr
    rw [member_of_isSingle hsingle, member_of_isSingle hsingle]
    split
    · exact concur_pure rfl
    · exact concur_memberOf hleft hr
  case superposition =>
    intro handle handle' candidates hh hh' _ ih right right' hr
    rw [member, member, ← hr.isNull_eq]
    split
    · exact concur_pure rfl
    refine concur_lift (agree_settle hr) fun copy copy' hcopy => ?_
    refine concur_lift (agree_ask hh hh') ?_
    rintro _ _ ⟨rfl, rfl⟩
    rw [if_pos rfl, if_pos rfl, memberAll_eq, memberAll_eq]
    exact concur_firstTrue fun c hc => ih c hc copy copy' hcopy

/-! ### Subsets -/

theorem Alike.isCollection_eq (h : Alike left left') : left.isCollection = left'.isCollection := by
  cases h <;> rfl

theorem agree_elements (h : Alike left left') :
    Agree (fun found found' => found = found' ∧ ∀ v ∈ found, v.IsReadable)
      left.elements left'.elements := by
  obtain ⟨hsingle, rfl⟩ | ⟨handle, handle', candidates, rfl, rfl, hh, hh', hcandidates⟩ :=
    h.single_or_candidates
  · cases left with
    | null => exact agree_pure ⟨rfl, by simp⟩
    | superposition => exact absurd rfl (hsingle _ _)
    | array items => exact agree_pure ⟨rfl, isReadable_array.1 h.readable⟩
    | _ => exact agree_pure ⟨rfl, List.forall_mem_singleton.2 h.readable⟩
  · refine (agree_readAll hh hh' candidates).mono ?_
    rintro _ _ ⟨rfl, rfl⟩
    exact ⟨rfl, hcandidates⟩

theorem concur_allIn {take take' : Reading Unit} {others : List Value} {elements : List Value}
    (hothers : ∀ v ∈ others, v.IsReadable) (helements : ∀ v ∈ elements, v.IsReadable) :
    Concur Eq (allIn take others elements) (allIn take' others elements) := by
  induction elements with
  | nil => exact concur_pure rfl
  | cons element rest ih =>
    rw [List.forall_mem_cons] at helements
    refine concur_lift (agree_true take take') fun _ _ _ => ?_
    refine (concur_equivalentToAny (.same helements.1) hothers).bind ?_
    rintro found _ rfl
    split
    · exact ih helements.2
    · exact concur_pure rfl

theorem concur_subset (hl : Alike left left') (hr : Alike right right') :
    Concur Eq (subset left right) (subset left' right') := by
  unfold subset
  rw [← hl.isCollection_eq, ← hr.isCollection_eq, ← hl.typeName_eq, ← hr.typeName_eq]
  cases left.isCollection with
  | false => exact concur_throw _
  | true =>
  cases right.isCollection with
  | false => exact concur_throw _
  | true =>
  refine concur_lift (agree_elements hr) ?_
  rintro others _ ⟨rfl, hothers⟩
  obtain ⟨hsingle, rfl⟩ | ⟨handle, handle', candidates, rfl, rfl, hh, hh', hcandidates⟩ :=
    hl.single_or_candidates
  · cases left with
    | superposition => exact absurd rfl (hsingle _ _)
    | array items => exact concur_allIn hothers (isReadable_array.1 hl.readable)
    | _ => exact concur_pure rfl
  · refine concur_lift (agree_ask hh hh') ?_
    rintro _ _ ⟨rfl, rfl⟩
    exact concur_allIn hothers hcandidates

theorem concur_holds (relation : Comparison) (hl : Alike left left') (hr : Alike right right') :
    Concur Eq (relation.holds left right) (relation.holds left' right') := by
  cases relation with
  | equal => exact concur_equivalent hl hr
  | member => exact concur_member hl hr
  | subset => exact concur_subset hl hr
  | greater => exact concur_ordered _ hl hr
  | atLeast => exact concur_ordered _ hl hr
  | search => exact concur_searched hl hr

/-! ## Arithmetic -/

theorem apply_eq_of_alike (operation : Arithmetic) (hl : Alike left left')
    (hr : Alike right right') : operation.apply left right = operation.apply left' right' := by
  obtain ⟨-, rfl⟩ | ⟨_, _, _, rfl, rfl, -⟩ := hl.single_or_candidates <;>
    obtain ⟨-, rfl⟩ | ⟨_, _, _, rfl, rfl, -⟩ := hr.single_or_candidates
  · rfl
  · cases left <;> rfl
  · rfl
  · rfl

/-- A value that arithmetic makes: a number or a text. -/
inductive IsComputed : Value → Prop where
  /-- An integer. -/
  | integer (n : Int64) : IsComputed (.integer n)
  /-- A float. -/
  | float (x : Float) : IsComputed (.float x)
  /-- A text. -/
  | string (s : String) : IsComputed (.string s)

theorem isComputed_of_ofInt? {n : Int} {v : Value} (h : ofInt? n = some v) : v.IsComputed := by
  unfold ofInt? at h
  split_ifs at h
  cases h
  exact .integer _

theorem isComputed_of_integer {n : Int} {v : Value} (h : Arithmetic.integer n = .ok v) :
    v.IsComputed := by
  unfold Arithmetic.integer at h
  split at h
  · rename_i found
    cases h
    exact isComputed_of_ofInt? found
  · cases h

theorem isComputed_ofMixed (operation : Arithmetic) (a b : Option Number.Scaled × Float) :
    (operation.ofMixed a b).IsComputed := by
  unfold Arithmetic.ofMixed Arithmetic.ofResult
  dsimp only
  split
  · split
    · rename_i found
      split_ifs at found
      exact isComputed_of_ofInt? found
    · exact .float _
  · exact .float _

/-- Arithmetic makes numbers and texts. -/
theorem isComputed_of_apply {operation : Arithmetic} {v : Value}
    (h : operation.apply left right = .ok v) : v.IsComputed := by
  unfold Arithmetic.apply at h
  split at h
  · unfold Arithmetic.ofIntegers at h
    split at h
    · exact isComputed_of_integer h
    · exact isComputed_of_integer h
    · exact isComputed_of_integer h
    · split_ifs at h
      · exact isComputed_of_integer h
      · cases h
        exact .float _
  · cases h
    exact .float _
  · cases h
    exact isComputed_ofMixed _ _ _
  · cases h
    exact isComputed_ofMixed _ _ _
  · split_ifs at h
    cases h
    exact .string _
  · cases h

theorem IsComputed.handles {v : Value} (h : v.IsComputed) : v.handles = [] := by
  cases h <;> rfl

theorem handles_of_apply {operation : Arithmetic} {v : Value}
    (h : operation.apply left right = .ok v) : v.handles = [] :=
  (isComputed_of_apply h).handles

/-! ## Truth -/

/-- Values that are alike are true together, however often they were asked. -/
theorem concur_truth {β : Type} {R : β → β → Prop} {f g : Bool → Solving β}
    (h : Alike left left') (hf : Concur R (f left.truth) (g left.truth)) :
    Concur R (liftM left.isTruthy >>= f) (liftM left'.isTruthy >>= g) := by
  refine concur_lift ((ensures_isTruthy h.readable).agree (ensures_isTruthy h.symm.readable)
    fun _ _ => And.intro) ?_
  rintro _ _ ⟨rfl, rfl⟩
  rw [← h.truth_eq]
  exact hf

/-! ## Candidates of a quantifier -/

/-- The values that a quantifier ranges over. -/
def alternatives : Value → List Value
  | .null => []
  | .superposition _ candidates => candidates
  | .array items => items
  | v => [v]

theorem isReadable_of_mem_alternatives {v : Value} (h : v.IsReadable) {candidate : Value}
    (hmem : candidate ∈ v.alternatives) : candidate.IsReadable := by
  unfold alternatives at hmem
  split at hmem
  · simp at hmem
  · exact (isReadable_superposition.1 h).2 _ hmem
  · exact isReadable_array.1 h _ hmem
  · rw [List.mem_singleton] at hmem
    exact hmem ▸ h

end Value

/-- Solutions with values that are alike and the same branch. -/
structure Solution.Alike (a b : Solution) : Prop where
  /-- The values are alike. -/
  value : Value.Alike a.value b.value
  /-- The branch is the same. -/
  branch : a.branch = b.branch

theorem Solution.alike_plain {v w : Value} (h : Value.Alike v w) :
    Solution.Alike (.plain v) (.plain w) :=
  ⟨h, rfl⟩

theorem Solution.alike_plainBool (b : Bool) : Solution.Alike (.plainBool b) (.plainBool b) :=
  alike_plain (.same (Value.isReadable_boolean b))

namespace Quantifier

variable {quantifier : Quantifier} {solveBody solveBody' : Value → Solving Solution}
  {body : Expr}

theorem concur_run {take take' : Reading Unit} {candidates : List Value}
    (hbody : ∀ c ∈ candidates, Concur Solution.Alike (solveBody c) (solveBody' c)) (index : Nat) :
    Concur Solution.Alike (quantifier.run take solveBody body index candidates)
      (quantifier.run take' solveBody' body index candidates) := by
  induction candidates generalizing index with
  | nil => exact concur_pure (Solution.alike_plainBool _)
  | cons c cs ih =>
    rw [List.forall_mem_cons] at hbody
    refine concur_lift (agree_true take take') fun _ _ _ => ?_
    refine hbody.1.bind fun a b hab => ?_
    refine concur_modify ?_
    refine Value.concur_truth hab.value ?_
    rw [← hab.branch]
    split
    · exact concur_pure ⟨.same (Value.isReadable_boolean _), rfl⟩
    · exact ih hbody.2 _

theorem across_of_isSingle {v : Value} (h : v.IsSingle) :
    quantifier.across solveBody body v =
      quantifier.run (pure ()) solveBody body 0 v.alternatives := by
  cases v with
  | superposition => exact absurd rfl (h _ _)
  | _ => rfl

theorem concur_across {v w : Value} (h : Value.Alike v w)
    (hbody : ∀ c ∈ v.alternatives, Concur Solution.Alike (solveBody c) (solveBody' c)) :
    Concur Solution.Alike (quantifier.across solveBody body v)
      (quantifier.across solveBody' body w) := by
  obtain ⟨hsingle, rfl⟩ | ⟨handle, handle', candidates, rfl, rfl, hh, hh', -⟩ :=
    h.single_or_candidates
  · rw [across_of_isSingle hsingle, across_of_isSingle hsingle]
    exact concur_run hbody 0
  · unfold across
    refine concur_lift (Value.agree_ask hh hh') ?_
    rintro _ _ ⟨rfl, rfl⟩
    exact concur_run hbody 0

end Quantifier

/-! ## Expressions -/

/-- An application whose decisions depend on what the values are, and not on the identities
that the solver gives to the superpositions it makes, which are others in every solve. -/
structure Application.IsPure (app : Application) : Prop where
  /-- Instances are told by value. -/
  isInstance_eq : ∀ {v w : Value} (typeName : String), Value.Alike v w →
    app.isInstance v typeName = app.isInstance w typeName
  /-- Components are told by value. -/
  hasComponent_eq : ∀ {v w : Value} (name : String), Value.Alike v w →
    app.hasComponent v name = app.hasComponent w name

theorem Application.isPure_standard : Application.standard.IsPure := by
  refine ⟨fun typeName h => ?_, fun name h => ?_⟩
  · show (_ == typeName) = (_ == typeName)
    rw [h.typeName_eq]
  · cases h <;> rfl

namespace Expr

/-- No superposition in a literal of the expression is single-pass. -/
def IsReadable (e : Expr) : Prop :=
  ∀ v, .literal v ∈ e.parts → v.IsReadable

theorem IsReadable.part {e part : Expr} (h : e.IsReadable) (hpart : part ∈ e.parts) :
    part.IsReadable :=
  LiteralsAre.part h hpart

section

variable {left right : Expr}

@[simp] theorem isReadable_literal {v : Value} : (literal v).IsReadable ↔ v.IsReadable :=
  literalsAre_literal

@[simp] theorem isReadable_field (path : Path) : (field path).IsReadable :=
  literalsAre_field path

@[simp] theorem isReadable_component (name : String) : (component name).IsReadable :=
  literalsAre_component name

@[simp] theorem isReadable_not : (not left).IsReadable ↔ left.IsReadable :=
  literalsAre_not

@[simp] theorem isReadable_isInstance {typeName : String} :
    (isInstance left typeName).IsReadable ↔ left.IsReadable :=
  literalsAre_isInstance

@[simp] theorem isReadable_within :
    (within left right).IsReadable ↔ left.IsReadable ∧ right.IsReadable :=
  literalsAre_within

@[simp] theorem isReadable_quantified {quantifier : Quantifier} :
    (quantified quantifier left right).IsReadable ↔ left.IsReadable ∧ right.IsReadable :=
  literalsAre_quantified

@[simp] theorem isReadable_and :
    (and left right).IsReadable ↔ left.IsReadable ∧ right.IsReadable :=
  literalsAre_and

@[simp] theorem isReadable_or :
    (or left right).IsReadable ↔ left.IsReadable ∧ right.IsReadable :=
  literalsAre_or

@[simp] theorem isReadable_compare {relation : Comparison} :
    (compare relation left right).IsReadable ↔ left.IsReadable ∧ right.IsReadable :=
  literalsAre_compare

@[simp] theorem isReadable_arithmetic {operation : Arithmetic} :
    (arithmetic operation left right).IsReadable ↔ left.IsReadable ∧ right.IsReadable :=
  literalsAre_arithmetic

end

/-- What a quantifier's context has for a value; a superposition in a field is not copied. -/
def subject (app : Application) (context : Expr) (scope : Value) : Solving Value :=
  match context with
  | .field path => valueAt app path scope
  | other => Solution.value <$> solve app other scope

theorem solve_quantified (app : Application) (quantifier : Quantifier) (context body : Expr)
    (scope : Value) : solve app (.quantified quantifier context body) scope =
      (do quantifier.across (solve app body) body (← subject app context scope)) := by
  cases context <;> rfl

variable {app : Application}

theorem concur_subject {context : Expr} {v w : Value} (h : Value.Alike v w)
    (hcontext : Concur Solution.Alike (solve app context v) (solve app context w)) :
    Concur Value.Alike (subject app context v) (subject app context w) := by
  unfold subject
  split
  · exact (concur_valueAt _ h).mono fun _ _ hab => hab.1
  · exact hcontext.bind fun a b hab => concur_pure hab.value

theorem concur_judge (node : Expr) {judging judging' : Judging Bool}
    (h : Concur Eq judging judging') :
    Concur Eq (Solving.judge node judging) (Solving.judge node judging') := by
  intro ledger ledger'
  have hxy := outcomes_eq.1 (h ledger ledger')
  refine outcomes_eq.2 ?_
  exact congrArg (Except.mapError (SolveError.at node)) hxy

/-- **Solving again finds the same.** -/
theorem concur_solve (hpure : app.IsPure) {e : Expr} (he : e.IsReadable) {v w : Value}
    (h : Value.Alike v w) : Concur Solution.Alike (solve app e v) (solve app e w) := by
  induction e generalizing v w with
  | literal value =>
    exact concur_pure (Solution.alike_plain (.same (isReadable_literal.1 he)))
  | field path =>
    rw [solve]
    refine (concur_valueAt path h).bind fun a b hab => ?_
    exact concur_lift (Value.agree_settle hab.1) fun c d hcd =>
      concur_pure (Solution.alike_plain hcd)
  | component name =>
    rw [solve, solve, hpure.hasComponent_eq name h]
    exact concur_pure (Solution.alike_plainBool _)
  | within context body ihContext ihBody =>
    obtain ⟨hcontext, hbody⟩ := isReadable_within.1 he
    rw [solve, solve]
    refine (ihContext hcontext h).bind fun a b hab => ?_
    exact ihBody hbody hab.value
  | quantified quantifier context body ihContext ihBody =>
    obtain ⟨hcontext, hbody⟩ := isReadable_quantified.1 he
    rw [solve_quantified, solve_quantified]
    refine (concur_subject h (ihContext hcontext h)).bind fun a b hab => ?_
    refine Quantifier.concur_across hab fun c hc => ?_
    exact ihBody hbody (.same (Value.isReadable_of_mem_alternatives hab.readable hc))
  | not operand ih =>
    rw [solve, solve]
    refine (ih (isReadable_not.1 he) h).bind fun a b hab => ?_
    exact Value.concur_truth hab.value (concur_pure (Solution.alike_plainBool _))
  | and left right ihLeft ihRight =>
    obtain ⟨hleft, hright⟩ := isReadable_and.1 he
    rw [solve, solve]
    refine (ihLeft hleft h).bind fun a b hab => ?_
    refine Value.concur_truth hab.value ?_
    split
    · refine (ihRight hright h).bind fun c d hcd => ?_
      exact Value.concur_truth hcd.value (concur_pure (Solution.alike_plainBool _))
    · exact concur_pure (Solution.alike_plainBool _)
  | or left right ihLeft ihRight =>
    obtain ⟨hleft, hright⟩ := isReadable_or.1 he
    rw [solve, solve]
    refine (ihLeft hleft h).bind fun a b hab => ?_
    refine Value.concur_truth hab.value ?_
    split
    · exact concur_pure ⟨hab.value, by rw [hab.branch]⟩
    · refine (ihRight hright h).bind fun c d hcd => ?_
      exact concur_pure ⟨hcd.value, by rw [hcd.branch]⟩
  | compare relation left right ihLeft ihRight =>
    obtain ⟨hleft, hright⟩ := isReadable_compare.1 he
    rw [solve, solve]
    refine (ihLeft hleft h).bind fun a b hab => ?_
    refine (ihRight hright h).bind fun c d hcd => ?_
    refine (concur_judge _ (Value.concur_holds relation hab.value hcd.value)).bind ?_
    rintro holds _ rfl
    exact concur_pure (Solution.alike_plainBool _)
  | isInstance subject typeName ih =>
    rw [solve, solve]
    refine (ih (isReadable_isInstance.1 he) h).bind fun a b hab => ?_
    rw [hpure.isInstance_eq typeName hab.value]
    exact concur_pure (Solution.alike_plainBool _)
  | arithmetic operation left right ihLeft ihRight =>
    obtain ⟨hleft, hright⟩ := isReadable_arithmetic.1 he
    rw [solve, solve]
    refine (ihLeft hleft h).bind fun a b hab => ?_
    refine (ihRight hright h).bind fun c d hcd => ?_
    rw [← Value.apply_eq_of_alike operation hab.value hcd.value]
    cases hresult : operation.apply a.value c.value with
    | ok v =>
      have hv := Value.isReadable_of_handles (Value.handles_of_apply hresult)
      exact concur_pure (Solution.alike_plain (.same hv))
    | error fault => exact concur_throw _

/-- Solving leads from readable values to readable values. -/
theorem ensures_solve_isReadable (hpure : app.IsPure) {e : Expr} (he : e.IsReadable) {v : Value}
    (h : v.IsReadable) :
    Ensures (fun x => ∀ solution, x = .ok solution → solution.value.IsReadable)
      (solve app e v).run := by
  refine (concur_solve hpure he (.same h)).ensures.mono ?_
  rintro _ hx solution rfl
  cases hx with
  | ok related => exact related.value.readable

theorem ensures_subject_isReadable (hpure : app.IsPure) {context : Expr}
    (hcontext : context.IsReadable) {v : Value} (h : v.IsReadable) :
    Ensures (fun x => ∀ w, x = .ok w → w.IsReadable) (subject app context v).run := by
  have hsame := concur_subject (.same h) (concur_solve hpure hcontext (.same h))
  refine hsame.ensures.mono ?_
  rintro _ hx w rfl
  cases hx with
  | ok related => exact related.readable

end Expr

end FieldQuery
