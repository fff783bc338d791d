import FieldQuery.Proofs.Effects

/-!
# Kinds of values that solving keeps

Solving takes values out of its context and of the literals, copies superpositions and makes new
ones of their candidates.  A kind of values that is kept by each of these steps is kept by
following a path, and then by every expression.

* `Judging.Yields` — a computation that can fail has a result of a kind, if it has one.
* `Value.Carries` — kinds of values that are kept by single steps from a context.
* `Value.Carries.ensures_resolve`, `Value.Carries.ensures_settle` — they are kept by following a
  path and by copying.
* `Expr.Preserves` — kinds of values for contexts and for what expressions come to in them.
* `Expr.Preserves.yields_solve` — expressions with literals of the kind keep them.
-/

namespace FieldQuery

open Reading Judging

/-! ## Results of computations that can fail -/

namespace Judging

variable {ε α β : Type} {P : α → Prop} {Q : β → Prop}

/-- The result has the property, if there is a result. -/
def Yields (P : α → Prop) (m : ExceptT ε Reading α) : Prop :=
  Ensures (fun x => ∀ a, x = .ok a → P a) m.run

theorem yields_pure {a : α} (h : P a) : Yields (ε := ε) P (pure a) :=
  ensures_pure (by rintro _ ⟨⟩; exact h)

theorem yields_throw (e : ε) : Yields P (throw e : ExceptT ε Reading α) :=
  ensures_pure (by rintro _ ⟨⟩)

theorem yields_true (m : ExceptT ε Reading α) : Yields (fun _ => True) m :=
  fun _ _ _ => trivial

theorem Yields.bind {m : ExceptT ε Reading α} {f : α → ExceptT ε Reading β} (hm : Yields P m)
    (hf : ∀ a, P a → Yields Q (f a)) : Yields Q (m >>= f) := by
  unfold Yields
  rw [ExceptT.run_bind]
  refine Ensures.bind hm fun x hx => ?_
  cases x with
  | ok a => exact hf a (hx a rfl)
  | error e => exact ensures_pure (by rintro _ ⟨⟩)

theorem yields_lift {m : Reading α} {f : α → ExceptT ε Reading β} (hm : Ensures P m)
    (hf : ∀ a, P a → Yields Q (f a)) : Yields Q (liftM m >>= f) :=
  ensures_lift hm hf

/-- Nothing need be known of what comes first. -/
theorem yields_after {m : ExceptT ε Reading α} {f : α → ExceptT ε Reading β}
    (hf : ∀ a, Yields Q (f a)) : Yields Q (m >>= f) :=
  (yields_true m).bind fun a _ => hf a

end Judging

/-! ## Following paths -/

namespace Value

/-- Kinds of values for contexts and for what is taken out of them.  A name leads from one context
to another, candidates are results, and so are the superpositions that the solver makes of
results. -/
structure Carries (context result : Value → Prop) : Prop where
  /-- Paths can be followed from results. -/
  context_of_result : ∀ v, result v → context v
  /-- Nothing but a superposition has to be copied to be a result. -/
  result_of_isSingle : ∀ v, v.IsSingle → context v → result v
  /-- No value is a result. -/
  null : result .null
  /-- A name leads to a context. -/
  next? : ∀ {v w : Value} {name : String}, context v → v.next? name = some w → context w
  /-- Candidates are results. -/
  candidates : ∀ {handle : Handle} {candidates : List Value},
    context (.superposition handle candidates) → ∀ c ∈ candidates, result c
  /-- What the solver makes of several results is a result. -/
  made : ∀ (i : Identity) (candidates : List Value), 2 ≤ candidates.length →
    (∀ c ∈ candidates, result c) → result (.superposition ⟨i, .owned⟩ candidates)

namespace Carries

variable {context result : Value → Prop} {v : Value}

theorem ensures_hits (h : Carries context result) (hv : context v) :
    Ensures (fun found => ∀ c ∈ found, result c) (hits v) := by
  rcases isSingle_or v with hsingle | ⟨handle, candidates, rfl⟩
  · rw [hits_of_isSingle hsingle]
    refine ensures_pure fun c hc => ?_
    by_cases hnull : v.isNull = true
    · rw [leaves_of_isNull hnull] at hc
      exact absurd hc List.not_mem_nil
    · rw [leaves_of_isSingle hsingle (by simpa using hnull), List.mem_singleton] at hc
      exact hc ▸ h.result_of_isSingle v hsingle hv
  · exact (handle.ensures_readAll_sublist candidates).mono fun found hfound c hc =>
      h.candidates hv c (hfound.subset hc)

theorem ensures_ofCandidates (h : Carries context result) {candidates : List Value}
    (hcandidates : ∀ c ∈ candidates, result c) : Ensures result (ofCandidates candidates) := by
  intro ledger
  match candidates with
  | [] => exact h.null
  | [c] => exact hcandidates c (by simp)
  | _ :: _ :: _ => exact h.made _ _ (by simp) hcandidates

/-- A copy is a result. -/
theorem ensures_settle (h : Carries context result) (hv : context v) : Ensures result v.settle := by
  rcases isSingle_or v with hsingle | ⟨handle, candidates, rfl⟩
  · rw [settle_of_isSingle hsingle]
    exact ensures_pure (h.result_of_isSingle v hsingle hv)
  · refine (handle.ensures_readAll_sublist candidates).bind fun found hfound => ?_
    exact h.ensures_ofCandidates fun c hc => h.candidates hv c (hfound.subset hc)

theorem ensures_descend (h : Carries context result) {name : String}
    {follow : Value → Reading Value} (hfollow : ∀ u, context u → Ensures context (follow u))
    (hv : context v) : Ensures context (descend name follow v) := by
  induction v using candidates_induction with
  | single v hsingle =>
    rw [descend_of_isSingle name follow hsingle]
    cases hnext : v.next? name with
    | none => exact ensures_pure (h.context_of_result _ h.null)
    | some next => exact hfollow next (h.next? hv hnext)
  | superposition handle candidates ih =>
    have hall : Ensures (fun found => ∀ c ∈ found, result c)
        (descendAll name follow handle candidates) := by
      have hcandidates := h.candidates hv
      clear hv
      induction candidates with
      | nil => exact ensures_pure (List.forall_mem_nil _)
      | cons c cs ihAll =>
        rw [List.forall_mem_cons] at ih hcandidates
        rw [descendAll_cons]
        refine (ensures_true handle.take).bind fun _ _ => ?_
        refine (ih.1 (h.context_of_result c hcandidates.1)).bind fun found hfound => ?_
        refine (h.ensures_hits hfound).bind fun here hhere => ?_
        refine (ihAll ih.2 hcandidates.2).bind fun more hmore => ?_
        exact ensures_pure (List.forall_mem_append.2 ⟨hhere, hmore⟩)
    rw [descend]
    refine (ensures_true handle.ask).bind fun answer _ => ?_
    split
    · refine hall.bind fun found hfound => ?_
      exact (h.ensures_ofCandidates hfound).mono h.context_of_result
    · exact ensures_pure (h.context_of_result _ h.null)

/-- **What is found at a path is of the kind of its context.** -/
theorem ensures_resolve (h : Carries context result) (path : List String) (hv : context v) :
    Ensures context (resolve path v) := by
  induction path generalizing v with
  | nil => exact ensures_pure hv
  | cons name rest ih => exact h.ensures_descend (fun u hu => ih hu) hv

end Carries

end Value

/-! ## Expressions -/

theorem Quantifier.yields_run {quantifier : Quantifier} {take : Reading Unit}
    {solveBody : Value → Solving Solution} {body : Expr} (index : Nat) (candidates : List Value) :
    Yields (fun solution => ∃ b, solution.value = .boolean b)
      (quantifier.run take solveBody body index candidates) := by
  induction candidates generalizing index with
  | nil => exact yields_pure ⟨_, rfl⟩
  | cons c cs ih =>
    rw [run]
    refine yields_after fun _ => yields_after fun solution => yields_after fun _ =>
      yields_after fun holds => ?_
    split
    · exact yields_pure ⟨_, rfl⟩
    · exact ih _

/-- A quantifier comes to a truth value. -/
theorem Quantifier.yields_across {quantifier : Quantifier} {solveBody : Value → Solving Solution}
    {body : Expr} (v : Value) :
    Yields (fun solution => ∃ b, solution.value = .boolean b)
      (quantifier.across solveBody body v) := by
  rcases Value.isSingle_or v with hsingle | ⟨handle, candidates, rfl⟩
  · rw [across_of_isSingle hsingle]
    exact yields_run 0 _
  · unfold across
    refine yields_after fun answer => ?_
    split <;> exact yields_run 0 _

namespace Expr

variable {app : Application}

/-- Kinds of values for contexts and for what expressions come to in them: what is found at a path
in a context is a context, a copy of it is a result, and what the solver makes by itself is. -/
structure Preserves (context result : Value → Prop) : Prop where
  /-- A result is the context of a body. -/
  context_of_result : ∀ v, result v → context v
  /-- What is found at a path is of the kind of its context. -/
  resolve : ∀ (path : List String) (v : Value), context v → Ensures context (Value.resolve path v)
  /-- A copy of it is a result. -/
  settle : ∀ v, context v → Ensures result v.settle
  /-- So are truth values. -/
  boolean : ∀ b, result (.boolean b)
  /-- So is what arithmetic makes. -/
  computed : ∀ v : Value, v.IsComputed → result v

variable {context result : Value → Prop}

theorem Preserves.yields_valueAt (h : Preserves context result) (path : Path) {scope : Value}
    (hscope : context scope) : Yields context (valueAt app path scope) := by
  unfold valueAt
  refine yields_lift (h.resolve path.segments scope hscope) fun v hv => ?_
  split
  · split
    · exact yields_throw _
    · exact yields_after fun _ => yields_pure hv
  · exact yields_pure hv

/-- **In a context of a kind, an expression comes to a result of a kind**, if its literals are such
results. -/
theorem Preserves.yields_solve (h : Preserves context result) {e : Expr} (he : e.LiteralsAre result)
    {scope : Value} (hscope : context scope) :
    Yields (fun solution => result solution.value) (solve app e scope) := by
  induction e generalizing scope with
  | literal v => exact yields_pure (literalsAre_literal.1 he)
  | field path =>
    rw [solve]
    refine (h.yields_valueAt path hscope).bind fun v hv => ?_
    exact yields_lift (h.settle v hv) fun _ hcopy => yields_pure hcopy
  | component name => exact yields_pure (h.boolean _)
  | within context body ihContext ihBody =>
    obtain ⟨hcontext, hbody⟩ := literalsAre_within.1 he
    rw [solve]
    exact (ihContext hcontext hscope).bind fun inner hinner =>
      ihBody hbody (h.context_of_result _ hinner)
  | quantified quantifier context body =>
    rw [solve_quantified]
    refine yields_after fun v => (Quantifier.yields_across v).mono fun x hx solution hsolution => ?_
    obtain ⟨b, hvalue⟩ := hx solution hsolution
    rw [hvalue]
    exact h.boolean b
  | not operand =>
    rw [solve]
    exact yields_after fun solution => yields_after fun holds => yields_pure (h.boolean _)
  | and left right =>
    rw [solve]
    refine yields_after fun first => yields_after fun holds => ?_
    split
    · exact yields_after fun second => yields_after fun holds => yields_pure (h.boolean _)
    · exact yields_pure (h.boolean _)
  | or left right ihLeft ihRight =>
    obtain ⟨hleft, hright⟩ := literalsAre_or.1 he
    rw [solve]
    refine (ihLeft hleft hscope).bind fun first hfirst => yields_after fun holds => ?_
    split
    · exact yields_pure hfirst
    · exact (ihRight hright hscope).bind fun second hsecond => yields_pure hsecond
  | compare relation left right =>
    rw [solve]
    exact yields_after fun l => yields_after fun r => yields_after fun holds =>
      yields_pure (h.boolean _)
  | isInstance subject typeName =>
    rw [solve]
    exact yields_after fun solution => yields_pure (h.boolean _)
  | arithmetic operation left right =>
    rw [solve]
    refine yields_after fun l => yields_after fun r => ?_
    cases hresult : operation.apply l.value r.value with
    | ok v => exact yields_pure (h.computed v (Value.isComputed_of_apply hresult))
    | error fault => exact yields_throw _

end Expr

/-- Kinds that single steps keep are kept by solving. -/
theorem Value.Carries.preserves {context result : Value → Prop} (h : Value.Carries context result)
    (boolean : ∀ b, result (.boolean b)) (computed : ∀ v : Value, v.IsComputed → result v) :
    Expr.Preserves context result where
  context_of_result := h.context_of_result
  resolve path _ := h.ensures_resolve path
  settle _ := h.ensures_settle
  boolean := boolean
  computed := computed

end FieldQuery
