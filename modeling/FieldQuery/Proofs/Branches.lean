import FieldQuery.Proofs.Repetition
import Mathlib.Logic.Relation

/-!
# What the branch of a solution says

A solution may name the part of the query that decided it.  The name is right: the part is
somewhere in the query, solving the query comes to solving it in some context, and by itself
it is solved to a value that is as true as that of the whole query.

* `Expr.Enters` — solving a part is a step of solving the whole, and in which context.
* `Expr.Decides` — a branch decides the truth of what an expression has for a value.
* `Expr.decides_of_solve` — the branch of a solution does.
* `Query.branch_decides` — so does the branch of a query's solution, whenever it is asked.
-/

namespace FieldQuery

open Reading Judging

/-! ## Solutions without a branch -/

namespace Solving

/-- Nothing in particular decides the solution. -/
def Unbranched (m : Solving Solution) : Prop :=
  Ensures (fun x => ∀ solution, x = .ok solution → solution.branch = none) m.run

/-- The truth of a readable value is the same at any time. -/
theorem truth_eq_of_run {v : Value} (hv : v.IsReadable) {truth : Bool} {ledger after : Ledger}
    (h : ((liftM v.isTruthy : Solving Bool)).run ledger = (.ok truth, after)) :
    truth = v.truth := by
  have hfound : (.ok (v.isTruthy.run ledger).1 : Except SolveError Bool) = .ok truth :=
    congrArg Prod.fst h
  exact (Except.ok.inj hfound).symm.trans (Value.ensures_isTruthy hv ledger)

theorem unbranched_plain (v : Value) : Unbranched (pure (.plain v)) := by
  refine ensures_pure ?_
  rintro _ ⟨⟩
  rfl

theorem unbranched_throw (e : SolveError) : Unbranched (throw e) := by
  refine ensures_pure ?_
  rintro _ ⟨⟩

theorem unbranched_bind {α : Type} {m : Solving α} {f : α → Solving Solution}
    (hf : ∀ a, Unbranched (f a)) : Unbranched (m >>= f) := by
  unfold Unbranched
  rw [ExceptT.run_bind]
  refine (ensures_true _).bind fun x _ => ?_
  cases x with
  | ok a => exact hf a
  | error e => exact unbranched_throw e

end Solving

open Solving

namespace Expr

variable {app : Application}

/-! ## From the whole to a part -/

/-- The parts that are solved in the context of the whole. -/
def operands : Expr → List Expr
  | .within context _ | .quantified _ context _ => [context]
  | .not operand | .isInstance operand _ => [operand]
  | .and left right | .or left right | .compare _ left right | .arithmetic _ left right =>
    [left, right]
  | .literal _ | .field _ | .component _ => []

theorem mem_parts_of_mem_operands {e part : Expr} (h : part ∈ e.operands) : part ∈ e.parts := by
  cases e with
  | literal | field | component => simp [operands] at h
  | within | quantified | not | isInstance =>
    rw [operands, List.mem_singleton] at h
    subst h
    simp [parts, mem_parts_self]
  | and | or | compare | arithmetic =>
    rw [operands, List.mem_pair] at h
    rcases h with rfl | rfl <;> simp [parts, mem_parts_self]

/-- Solving one expression in its context may take solving the other in the other context. -/
inductive Enters (app : Application) : Expr × Value → Expr × Value → Prop where
  /-- An operand is solved in the same context. -/
  | operand {e part : Expr} {scope : Value} (hpart : part ∈ e.operands) :
    Enters app (e, scope) (part, scope)
  /-- A body is solved in the context of another value. -/
  | body {context body : Expr} {scope : Value} {inner : Solution} {ledger after : Ledger}
    (hinner : (context.solve app scope).run ledger = (.ok inner, after)) :
    Enters app (.within context body, scope) (body, inner.value)
  /-- The body of a quantifier is solved in the context of candidates. -/
  | candidate {quantifier : Quantifier} {context body : Expr} {scope v candidate : Value}
    {ledger after : Ledger} (hv : (subject app context scope).run ledger = (.ok v, after))
    (hcandidate : candidate ∈ v.alternatives) :
    Enters app (.quantified quantifier context body, scope) (body, candidate)

/-- What is entered is a part. -/
theorem Enters.mem_parts {e part : Expr} {scope inner : Value}
    (h : Enters app (e, scope) (part, inner)) : part ∈ e.parts := by
  cases h with
  | operand hpart => exact mem_parts_of_mem_operands hpart
  | body hinner => simp [parts, mem_parts_self]
  | candidate hv hcandidate => simp [parts, mem_parts_self]

/-- Solving one expression in its context takes solving the other in the other context, some
steps down. -/
def Reaches (app : Application) : Expr × Value → Expr × Value → Prop :=
  Relation.ReflTransGen (Enters app)

theorem Reaches.mem_parts {e part : Expr} {scope inner : Value}
    (h : Reaches app (e, scope) (part, inner)) : part ∈ e.parts := by
  suffices hall : ∀ {whole : Expr × Value}, Relation.ReflTransGen (Enters app) whole (part, inner) →
      part ∈ whole.1.parts from hall h
  intro whole hreach
  induction hreach using Relation.ReflTransGen.head_induction_on with
  | refl => exact mem_parts_self part
  | head hstep _ ih => exact parts_trans ih (Enters.mem_parts hstep)

/-! ## Branches -/

/-- A branch decides the truth of what an expression has for a value: solving the expression
takes solving the branch, which by itself is solved to a value of this truth. -/
def Decides (app : Application) (e : Expr) (scope : Value) (branch : Expr) (truth : Bool) :
    Prop :=
  ∃ inner, Reaches app (e, scope) (branch, inner) ∧ inner.IsReadable ∧
    ∃ ledger after v, (branch.solve app inner).run ledger = (.ok (.plain v), after) ∧
      v.truth = truth

theorem Decides.of_enters {e part branch : Expr} {scope inner : Value} {truth : Bool}
    (h : Decides app part inner branch truth) (hstep : Enters app (e, scope) (part, inner)) :
    Decides app e scope branch truth := by
  obtain ⟨deep, hreach, hrest⟩ := h
  exact ⟨deep, .head hstep hreach, hrest⟩

/-- A part without a branch decides by itself; otherwise its branch does. -/
theorem decides_getD {part : Expr} {scope : Value} {solution : Solution} {ledger after : Ledger}
    (hscope : scope.IsReadable)
    (hsolve : (part.solve app scope).run ledger = (.ok solution, after))
    (hbranch : ∀ branch, solution.branch = some branch →
      Decides app part scope branch solution.value.truth) :
    Decides app part scope (solution.branch.getD part) solution.value.truth := by
  obtain ⟨v, branch⟩ := solution
  cases branch with
  | none => exact ⟨scope, .refl, hscope, ledger, after, v, hsolve, rfl⟩
  | some branch => exact hbranch branch rfl

theorem solve_or_eq_ok {left right : Expr} {scope : Value} {solution : Solution}
    {ledger after : Ledger}
    (h : ((Expr.or left right).solve app scope).run ledger = (.ok solution, after)) :
    (∃ first ledger₁ after₁, (left.solve app scope).run ledger₁ = (.ok first, after₁) ∧
      solution = ⟨first.value, some (first.branch.getD left)⟩) ∨
    (∃ second ledger₁ after₁, (right.solve app scope).run ledger₁ = (.ok second, after₁) ∧
      solution = ⟨second.value, some (second.branch.getD right)⟩) := by
  rw [solve] at h
  obtain ⟨first, ledger₁, hfirst, h⟩ := run_bind_eq_ok h
  obtain ⟨truth, ledger₂, -, h⟩ := run_bind_eq_ok h
  split at h
  · cases h
    exact .inl ⟨first, _, _, hfirst, rfl⟩
  · obtain ⟨second, ledger₃, hsecond, h⟩ := run_bind_eq_ok h
    cases h
    exact .inr ⟨second, _, _, hsecond, rfl⟩

theorem unbranched_solve {e : Expr} (hwithin : ∀ context body, e ≠ .within context body)
    (hquantified : ∀ quantifier context body, e ≠ .quantified quantifier context body)
    (hor : ∀ left right, e ≠ .or left right) (scope : Value) :
    Unbranched (e.solve app scope) := by
  cases e with
  | literal v => exact unbranched_plain v
  | field path =>
    rw [solve]
    exact unbranched_bind fun v => unbranched_bind fun copy => unbranched_plain copy
  | component name => exact unbranched_plain _
  | within context body => exact absurd rfl (hwithin context body)
  | quantified quantifier context body => exact absurd rfl (hquantified quantifier context body)
  | not operand =>
    rw [solve]
    exact unbranched_bind fun _ => unbranched_bind fun _ => unbranched_plain _
  | and left right =>
    rw [solve]
    refine unbranched_bind fun first => unbranched_bind fun truth => ?_
    split
    · exact unbranched_bind fun _ => unbranched_bind fun _ => unbranched_plain _
    · exact unbranched_plain _
  | or left right => exact absurd rfl (hor left right)
  | compare relation left right =>
    rw [solve]
    exact unbranched_bind fun _ => unbranched_bind fun _ => unbranched_bind fun _ =>
      unbranched_plain _
  | isInstance subject typeName =>
    rw [solve]
    exact unbranched_bind fun _ => unbranched_plain _
  | arithmetic operation left right =>
    rw [solve]
    refine unbranched_bind fun l => unbranched_bind fun r => ?_
    cases operation.apply l.value r.value with
    | ok v => exact unbranched_plain v
    | error fault => exact unbranched_throw _

end Expr

/-! ## The candidate that decides a quantifier -/

namespace Quantifier

theorem eq_decided_of_decidedBy {quantifier : Quantifier} {holds : Bool}
    (h : quantifier.decidedBy holds = true) : holds = quantifier.decided := by
  cases quantifier <;> simpa [decidedBy, decided] using h

/-- A quantifier with a branch was decided by a candidate, for which the body has the truth
value of the quantifier. -/
theorem run_decided {quantifier : Quantifier} {take : Reading Unit}
    {solveBody : Value → Solving Solution} {body branch : Expr} {candidates : List Value}
    (hbody : ∀ c ∈ candidates, Ensures
      (fun x => ∀ solution, x = .ok solution → solution.value.IsReadable) (solveBody c).run)
    {index : Nat} {solution : Solution} {ledger after : Ledger}
    (h : (quantifier.run take solveBody body index candidates).run ledger = (.ok solution, after))
    (hbranch : solution.branch = some branch) :
    ∃ c ∈ candidates, ∃ inner ledger₁ after₁, (solveBody c).run ledger₁ = (.ok inner, after₁) ∧
      branch = inner.branch.getD body ∧ solution.value.truth = inner.value.truth := by
  induction candidates generalizing index ledger with
  | nil =>
    cases h
    cases hbranch
  | cons c cs ih =>
    rw [List.forall_mem_cons] at hbody
    rw [run] at h
    obtain ⟨_, ledger₀, -, h⟩ := run_bind_eq_ok h
    obtain ⟨inner, ledger₁, hinner, h⟩ := run_bind_eq_ok h
    obtain ⟨_, ledger₂, -, h⟩ := run_bind_eq_ok h
    obtain ⟨truth, ledger₃, htruth, h⟩ := run_bind_eq_ok h
    have hreadable : inner.value.IsReadable :=
      hbody.1 ledger₀ inner (congrArg Prod.fst hinner)
    have hholds : truth = inner.value.truth := truth_eq_of_run hreadable htruth
    split at h
    · rename_i hdecided
      cases h
      cases hbranch
      refine ⟨c, by simp, inner, ledger₀, ledger₁, hinner, rfl, ?_⟩
      rw [← hholds, eq_decided_of_decidedBy hdecided]
      rfl
    · obtain ⟨d, hd, hrest⟩ := ih hbody.2 h
      exact ⟨d, by simp [hd], hrest⟩

theorem run_of_across {quantifier : Quantifier} {solveBody : Value → Solving Solution}
    {body : Expr} {v : Value} (hv : v.IsReadable) {solution : Solution} {ledger after : Ledger}
    (h : (quantifier.across solveBody body v).run ledger = (.ok solution, after)) :
    ∃ take ledger₁, (quantifier.run take solveBody body 0 v.alternatives).run ledger₁ =
      (.ok solution, after) := by
  rcases Value.isSingle_or v with hsingle | ⟨handle, candidates, rfl⟩
  · rw [across_of_isSingle hsingle] at h
    exact ⟨_, _, h⟩
  · obtain ⟨answer, ledger₁, hask, h⟩ := run_bind_eq_ok h
    have hanswer : (.ok (handle.ask.run ledger).1 : Except SolveError Bool) = .ok answer :=
      congrArg Prod.fst hask
    rw [Value.ensures_ask (Value.isReadable_superposition.1 hv).1 ledger] at hanswer
    obtain rfl := Except.ok.inj hanswer
    exact ⟨_, _, h⟩

end Quantifier

namespace Expr

variable {app : Application}

/-- **The branch of a solution decides its truth.** -/
theorem decides_of_solve (hpure : app.IsPure) {e : Expr} (he : e.IsReadable) {scope : Value}
    (hscope : scope.IsReadable) {solution : Solution} {branch : Expr} {ledger after : Ledger}
    (hsolve : (e.solve app scope).run ledger = (.ok solution, after))
    (hbranch : solution.branch = some branch) :
    Decides app e scope branch solution.value.truth := by
  induction e generalizing scope solution branch ledger after with
  | within context body _ ihBody =>
    rw [solve] at hsolve
    obtain ⟨inner, ledger₁, hinner, hsolve⟩ := run_bind_eq_ok hsolve
    obtain ⟨hcontext, hbody⟩ := isReadable_within.1 he
    have hreadable : inner.value.IsReadable :=
      ensures_solve_isReadable hpure hcontext hscope ledger inner (congrArg Prod.fst hinner)
    exact (ihBody hbody hreadable hsolve hbranch).of_enters (.body hinner)
  | quantified quantifier context body _ ihBody =>
    obtain ⟨hcontext, hbody⟩ := isReadable_quantified.1 he
    rw [solve_quantified] at hsolve
    obtain ⟨v, ledger₁, hv, hsolve⟩ := run_bind_eq_ok hsolve
    have hreadable : v.IsReadable := ensures_subject_isReadable hpure hcontext hscope ledger v
      (congrArg Prod.fst hv)
    obtain ⟨take, ledger₂, hrun⟩ := Quantifier.run_of_across hreadable hsolve
    have hcandidates : ∀ c ∈ v.alternatives, c.IsReadable := fun c hc =>
      Value.isReadable_of_mem_alternatives hreadable hc
    obtain ⟨c, hc, inner, ledger₃, after₃, hinner, rfl, htruth⟩ := Quantifier.run_decided
      (fun c hc => ensures_solve_isReadable hpure hbody (hcandidates c hc)) hrun hbranch
    rw [htruth]
    have hdecides := decides_getD (hcandidates c hc) hinner fun b hb =>
      ihBody hbody (hcandidates c hc) hinner hb
    exact hdecides.of_enters (.candidate hv hc)
  | or left right ihLeft ihRight =>
    obtain ⟨hleft, hright⟩ := isReadable_or.1 he
    rcases solve_or_eq_ok hsolve with
      ⟨first, ledger₁, after₁, hfirst, rfl⟩ | ⟨second, ledger₁, after₁, hsecond, rfl⟩
    · cases hbranch
      have hdecides := decides_getD hscope hfirst fun b hb => ihLeft hleft hscope hfirst hb
      exact hdecides.of_enters (.operand (by simp [operands]))
    · cases hbranch
      have hdecides := decides_getD hscope hsecond fun b hb => ihRight hright hscope hsecond hb
      exact hdecides.of_enters (.operand (by simp [operands]))
  | literal | field | component | not | and | compare | isInstance | arithmetic =>
    -- nothing else gives a solution a branch
    have hnone := unbranched_solve (by simp) (by simp) (by simp) scope ledger solution
      (congrArg Prod.fst hsolve)
    rw [hbranch] at hnone
    cases hnone

end Expr

/-- **Branch soundness.**  The branch of a query's solution is a part of the query and no
disjunction.  Solving the query takes solving it in some context, and whenever it is solved
there it has no branch of its own and a value that is as true as the query's. -/
theorem Query.branch_decides {app : Application} (hpure : app.IsPure) {query : Query}
    {data : Value} (hquery : query.root.IsReadable) (hdata : data.IsReadable)
    {solution : Solution} {branch : Expr} {ledger after : Ledger}
    (hsolve : (query.solve app data).run ledger = (.ok solution, after))
    (hbranch : solution.branch = some branch) :
    branch ∈ query.root.parts ∧ (∀ left right, branch ≠ .or left right) ∧
      ∃ scope, Expr.Reaches app (query.root, data) (branch, scope) ∧
        ∀ ledger', ∃ v, ((branch.solve app scope).run ledger').1 = .ok (.plain v) ∧
          Agree Eq v.isTruthy solution.value.isTruthy := by
  have hroot : (query.root.solve app data).run (Ledger.note (.started query.root) ledger) =
      (.ok solution, after) := hsolve
  have hvalue : solution.value.IsReadable :=
    Expr.ensures_solve_isReadable hpure hquery hdata _ solution (congrArg Prod.fst hroot)
  obtain ⟨scope, hreach, hscope, ledger₁, after₁, v, hv, htruth⟩ :=
    Expr.decides_of_solve hpure hquery hdata hroot hbranch
  refine ⟨hreach.mem_parts, ?notOr, scope, hreach, fun ledger' => ?again⟩
  case notOr =>
    rintro left right rfl
    rcases Expr.solve_or_eq_ok hv with ⟨_, _, _, _, hplain⟩ | ⟨_, _, _, _, hplain⟩ <;> cases hplain
  case again =>
    have hsame := Expr.concur_solve hpure (hquery.part hreach.mem_parts) (.same hscope)
    obtain ⟨⟨w, own⟩, hw, hvw, hown⟩ := hsame.ok hv ledger'
    obtain rfl : none = own := hown
    refine ⟨w, hw, ?_⟩
    refine (Value.ensures_isTruthy hvw.symm.readable).agree (Value.ensures_isTruthy hvalue) ?_
    rintro _ _ rfl rfl
    exact hvw.truth_eq.symm.trans htruth

namespace Query

/-- The part of a query that will decide it. -/
def higher : Expr :=
  .compare .greater (.field ⟨["level"]⟩) (.literal (.integer 2))

/-- Is some tag called `a`, or of a high level? -/
def tagged : Query where
  root := .quantified .any (.field ⟨["tags"]⟩)
    (.or (.compare .equal (.field ⟨["name"]⟩) (.literal (.string "a"))) higher)

/-- Two tags, the second of which is of a high level. -/
def tags : Value :=
  .object [("tags", .superposition ⟨0, .supplied⟩
    [.object [("level", .integer 1), ("name", .string "b")], .object [("level", .integer 3)]])]

theorem branch_decides_tagged :
    higher ∈ tagged.root.parts ∧ (∀ left right, higher ≠ .or left right) ∧
      ∃ scope, Expr.Reaches .standard (tagged.root, tags) (higher, scope) ∧
        ∀ ledger', ∃ v, ((higher.solve .standard scope).run ledger').1 = .ok (.plain v) ∧
          Agree Eq v.isTruthy (Value.boolean true).isTruthy := by
  have hquery : tagged.root.IsReadable := by simp [tagged, higher]
  have hdata : tags.IsReadable := by simp [tags]
  obtain ⟨after, hsolve⟩ : ∃ after, (tagged.solve .standard tags).run ⟨1, []⟩ =
      (.ok ⟨.boolean true, some higher⟩, after) := ⟨_, rfl⟩
  exact branch_decides Application.isPure_standard hquery hdata hsolve rfl

end Query

end FieldQuery
