import FieldQuery.Proofs.Effects
import Mathlib.Logic.Relation

/-!
# Where a solve fails

An error of a solve names a node of the query.  It is the innermost one that fails: the solve came
to the node in some context, both operands of the node were solved there, and the node could not
make a value of theirs.

* `Expr.Calls` — solving an expression takes solving another one, in which context and after which
  reads.  It is exact: what a quantifier or connective leaves out is not called.
* `Expr.ComesTo` — one call leads to another, any number of calls down.
* `Call.Fails` — a node fails by itself; `Expr.fails_again` says that it always does so in the same
  context if nothing is single-pass.
* `Expr.located_of_solve` — where a solve fails with a node, it came to this node, which failed by
  itself; where it fails with a path, the application is strict and the path is in the expression.
* `Query.error_located` — what an error of a query says.
-/

namespace FieldQuery

open Reading Judging

/-! ## Calls -/

/-- An expression that is to be solved, its context, and what was read before. -/
structure Call where
  /-- The expression. -/
  expr : Expr
  /-- The context. -/
  scope : Value
  /-- The ledger before the expression is solved. -/
  ledger : Ledger

/-- How a quantifier takes the candidates of a value, and which it can take. -/
def Value.offer : Value → Reading (Reading Unit × List Value)
  | .superposition handle candidates => do
    return (handle.take, if ← handle.ask then candidates else [])
  | v => return (pure (), v.alternatives)

theorem Value.mem_alternatives_of_offer {v c : Value} {ledger : Ledger}
    (h : c ∈ (v.offer.run ledger).1.2) : c ∈ v.alternatives := by
  cases v with
  | superposition handle candidates =>
    have hc : c ∈ if (handle.ask.run ledger).1 then candidates else [] := h
    split at hc
    · exact hc
    · cases hc
  | _ => exact h

namespace Quantifier

variable (quantifier : Quantifier) (take : Reading Unit) (solveBody : Value → Solving Solution)

/-- Going through candidates comes to a candidate, and what was read before its body is solved. -/
inductive Tries : Nat → List Value → Ledger → Value → Ledger → Prop where
  /-- The first candidate is taken. -/
  | first {index : Nat} {c : Value} {cs : List Value} {ledger : Ledger} :
    Tries index (c :: cs) ledger c (take.run ledger).2
  /-- Where a candidate does not decide, the next ones follow. -/
  | later {index : Nat} {c d : Value} {cs : List Value} {ledger solved judged before : Ledger}
    {solution : Solution} {holds : Bool}
    (hbody : (solveBody c).run (take.run ledger).2 = (.ok solution, solved))
    (htruth : solution.value.isTruthy.run
      (Ledger.note (.judged quantifier index solution.value) solved) = (holds, judged))
    (hgoes : quantifier.decidedBy holds = false)
    (hrest : Tries (index + 1) cs judged d before) :
    Tries index (c :: cs) ledger d before

variable {quantifier take solveBody}

theorem Tries.mem {index : Nat} {cs : List Value} {ledger before : Ledger} {c : Value}
    (h : Tries quantifier take solveBody index cs ledger c before) : c ∈ cs := by
  induction h with
  | first => simp
  | later _ _ _ _ ih => exact List.mem_cons_of_mem _ ih

/-- A quantifier that fails came to a candidate for which its body fails. -/
theorem run_eq_error {body : Expr} {index : Nat} {candidates : List Value}
    {ledger after : Ledger} {e : SolveError}
    (h : (quantifier.run take solveBody body index candidates).run ledger = (.error e, after)) :
    ∃ c before, Tries quantifier take solveBody index candidates ledger c before ∧
      (solveBody c).run before = (.error e, after) := by
  induction candidates generalizing index ledger with
  | nil => cases h
  | cons c cs ih =>
    rw [run, run_lift_bind] at h
    rcases run_bind_eq_error h with hbody | ⟨solution, solved, hbody, h⟩
    · exact ⟨c, _, .first, hbody⟩
    rcases run_bind_eq_error h with hnote | ⟨_, noted, hnote, h⟩
    · cases hnote
    cases hnote
    rw [run_lift_bind] at h
    rcases htruth : solution.value.isTruthy.run
      (Ledger.note (.judged quantifier index solution.value) solved) with ⟨holds, judged⟩
    rw [htruth] at h
    split at h
    · cases h
    · rename_i hgoes
      obtain ⟨d, before, htries, hd⟩ := ih h
      exact ⟨d, before, .later hbody htruth (by simpa using hgoes) htries, hd⟩

/-- A quantifier goes through what a value offers it. -/
theorem run_across {body : Expr} (v : Value) (ledger : Ledger) :
    (quantifier.across solveBody body v).run ledger =
      (quantifier.run (v.offer.run ledger).1.1 solveBody body 0 (v.offer.run ledger).1.2).run
        (v.offer.run ledger).2 := by
  cases v with
  | superposition handle candidates =>
    rcases hask : handle.ask.run ledger with ⟨answer, asked⟩
    have hoffer : (Value.superposition handle candidates).offer.run ledger =
        ((handle.take, if answer then candidates else []), asked) := by
      show ((handle.take, if (handle.ask.run ledger).1 then candidates else []),
        (handle.ask.run ledger).2) = _
      rw [hask]
    rw [hoffer, across, run_lift_bind, hask]
    cases answer <;> rfl
  | _ => rfl

end Quantifier

namespace Expr

variable (app : Application)

/-- The part that is solved first, in the same context.  A quantifier follows a field path itself
and does not solve it. -/
def first? : Expr → Option Expr
  | .literal _ | .field _ | .component _ | .quantified _ (.field _) _ => none
  | .within context _ | .quantified _ context _ => some context
  | .not operand | .isInstance operand _ => some operand
  | .and left _ | .or left _ | .compare _ left _ | .arithmetic _ left _ => some left

/-- The operands of a comparison or of arithmetic, both of which are solved. -/
def pair? : Expr → Option (Expr × Expr)
  | .compare _ left right | .arithmetic _ left right => some (left, right)
  | _ => none

/-- Solving one expression comes to solving another one, as the next call down. -/
inductive Calls : Call → Call → Prop where
  /-- The first part. -/
  | first {e part : Expr} {scope : Value} {ledger : Ledger} (hpart : e.first? = some part) :
    Calls ⟨e, scope, ledger⟩ ⟨part, scope, ledger⟩
  /-- The right operand, when the left one has a value. -/
  | second {e left right : Expr} {scope : Value} {ledger after : Ledger} {l : Solution}
    (hpair : e.pair? = some (left, right))
    (hleft : (left.solve app scope).run ledger = (.ok l, after)) :
    Calls ⟨e, scope, ledger⟩ ⟨right, scope, after⟩
  /-- The body, in the context of another value. -/
  | body {context body : Expr} {scope : Value} {ledger after : Ledger} {inner : Solution}
    (hcontext : (context.solve app scope).run ledger = (.ok inner, after)) :
    Calls ⟨.within context body, scope, ledger⟩ ⟨body, inner.value, after⟩
  /-- The body of a quantifier, in the context of a candidate that it comes to. -/
  | candidate {quantifier : Quantifier} {context body : Expr} {scope v c : Value}
    {ledger after before : Ledger} (hv : (subject app context scope).run ledger = (.ok v, after))
    (htries : Quantifier.Tries quantifier (v.offer.run after).1.1 (body.solve app) 0
      (v.offer.run after).1.2 (v.offer.run after).2 c before) :
    Calls ⟨.quantified quantifier context body, scope, ledger⟩ ⟨body, c, before⟩
  /-- The right side of a conjunction, when the left one is true. -/
  | and {left right : Expr} {scope : Value} {ledger after judged : Ledger} {l : Solution}
    (hleft : (left.solve app scope).run ledger = (.ok l, after))
    (htruth : l.value.isTruthy.run after = (true, judged)) :
    Calls ⟨.and left right, scope, ledger⟩ ⟨right, scope, judged⟩
  /-- The right side of a disjunction, when the left one is false. -/
  | or {left right : Expr} {scope : Value} {ledger after judged : Ledger} {l : Solution}
    (hleft : (left.solve app scope).run ledger = (.ok l, after))
    (htruth : l.value.isTruthy.run after = (false, judged)) :
    Calls ⟨.or left right, scope, ledger⟩ ⟨right, scope, judged⟩

/-- Solving one expression comes to solving another one, any number of calls down. -/
def ComesTo : Call → Call → Prop :=
  Relation.ReflTransGen (Calls app)

variable {app}

theorem mem_parts_of_first? {e part : Expr} (h : e.first? = some part) : part ∈ e.parts := by
  unfold first? at h
  split at h <;> cases h <;> simp [parts, mem_parts_self]

theorem mem_parts_of_pair? {e left right : Expr} (h : e.pair? = some (left, right)) :
    left ∈ e.parts ∧ right ∈ e.parts := by
  unfold pair? at h
  split at h <;> cases h <;> simp [parts, mem_parts_self]

/-- What is called is a part. -/
theorem Calls.mem_parts {call next : Call} (h : Calls app call next) :
    next.expr ∈ call.expr.parts := by
  cases h with
  | first hpart => exact mem_parts_of_first? hpart
  | second hpair _ => exact (mem_parts_of_pair? hpair).2
  | body | candidate | and | or => simp [parts, mem_parts_self]

theorem ComesTo.mem_parts {call last : Call} (h : ComesTo app call last) :
    last.expr ∈ call.expr.parts := by
  induction h using Relation.ReflTransGen.head_induction_on with
  | refl => exact mem_parts_self _
  | head hcall _ ih => exact parts_trans ih hcall.mem_parts

/-- Calls lead from readable contexts to readable contexts. -/
theorem Calls.isReadable (hpure : app.IsPure) {call next : Call} (h : Calls app call next)
    (he : call.expr.IsReadable) (hscope : call.scope.IsReadable) : next.scope.IsReadable := by
  cases h with
  | first | second | and | or => exact hscope
  | body hcontext =>
    have hinner := ensures_solve_isReadable hpure (isReadable_within.1 he).1 hscope
    exact hinner _ _ (congrArg Prod.fst hcontext)
  | candidate hv htries =>
    have hsubject := ensures_subject_isReadable hpure (isReadable_quantified.1 he).1 hscope
    refine Value.isReadable_of_mem_alternatives (hsubject _ _ (congrArg Prod.fst hv)) ?_
    exact Value.mem_alternatives_of_offer htries.mem

theorem ComesTo.isReadable (hpure : app.IsPure) {call last : Call} (h : ComesTo app call last)
    (he : call.expr.IsReadable) (hscope : call.scope.IsReadable) : last.scope.IsReadable := by
  induction h using Relation.ReflTransGen.head_induction_on with
  | refl => exact hscope
  | head hcall _ ih => exact ih (he.part hcall.mem_parts) (hcall.isReadable hpure he hscope)

end Expr

/-! ## Failing calls -/

/-- The node fails by itself: both operands are solved, one after the other, and no value is made
of theirs. -/
def Call.Fails (app : Application) (call : Call) (fault : Fault) : Prop :=
  ∃ left right l r middle last after, call.expr.pair? = some (left, right) ∧
    (left.solve app call.scope).run call.ledger = (.ok l, middle) ∧
    (right.solve app call.scope).run middle = (.ok r, last) ∧
    (call.expr.solve app call.scope).run call.ledger = (.error (.at call.expr fault), after)

namespace Expr

variable {app : Application}

/-- A node that fails in a readable context always fails there, and in the same way. -/
theorem fails_again (hpure : app.IsPure) {node : Expr} (hnode : node.IsReadable) {scope : Value}
    (hscope : scope.IsReadable) {ledger : Ledger} {fault : Fault}
    (h : Call.Fails app ⟨node, scope, ledger⟩ fault) (ledger' : Ledger) :
    Call.Fails app ⟨node, scope, ledger'⟩ fault := by
  obtain ⟨left, right, l, r, middle, last, after, hpair, hleft, hright, hfails⟩ := h
  obtain ⟨hl, hr⟩ := mem_parts_of_pair? hpair
  have hsame : ∀ part, part ∈ node.parts →
      Concur Solution.Alike (part.solve app scope) (part.solve app scope) := fun part hpart =>
    concur_solve hpure (hnode.part hpart) (.same hscope)
  obtain ⟨l', hl', -⟩ := (hsame left hl).ok hleft ledger'
  obtain ⟨r', hr', -⟩ := (hsame right hr).ok hright ((left.solve app scope).run ledger').2
  have hfails' := (hsame node (mem_parts_self _)).error hfails ledger'
  exact ⟨left, right, l', r', _, _, _, hpair, Prod.ext hl' rfl, Prod.ext hr' rfl,
    Prod.ext hfails' rfl⟩

/-- Can a node of this kind be at fault in this way? -/
def CanRaise : Expr → Fault → Prop
  | .compare relation _ _, fault => relation.CanRaise fault
  | .arithmetic operation _ _, fault => operation.CanRaise fault
  | _, _ => False

/-- An error is that of a node of a fitting kind, to which the call comes and which fails by
itself, or of a path in the expression that a strict application finds no value at. -/
def Located (app : Application) (call : Call) : SolveError → Prop
  | .at node fault => node.CanRaise fault ∧ ∃ scope before,
      ComesTo app call ⟨node, scope, before⟩ ∧ Call.Fails app ⟨node, scope, before⟩ fault
  | .unresolved path =>
      .field path ∈ call.expr.parts ∧ path.isCurrent = false ∧ app.strict = true

theorem Located.of_calls {call next : Call} {error : SolveError} (h : Located app next error)
    (hcall : Calls app call next) : Located app call error := by
  cases error with
  | «at» node fault =>
    obtain ⟨hraise, scope, before, hcomes, hfails⟩ := h
    exact ⟨hraise, scope, before, .head hcall hcomes, hfails⟩
  | unresolved path => exact ⟨parts_trans h.1 hcall.mem_parts, h.2⟩

theorem located_of_valueAt {path : Path} {scope : Value} {ledger after : Ledger}
    {error : SolveError} (h : (valueAt app path scope).run ledger = (.error error, after)) :
    error = .unresolved path ∧ path.isCurrent = false ∧ app.strict = true := by
  rw [valueAt, run_lift_bind] at h
  split at h
  · rename_i hmissing
    split at h
    · rename_i hstrict
      cases h
      exact ⟨rfl, by simpa using (Bool.and_eq_true_iff.1 hmissing).2, hstrict⟩
    · cases h
  · cases h

theorem located_of_subject {quantifier : Quantifier} {context body : Expr} {scope : Value}
    {ledger after : Ledger} {error : SolveError}
    (ih : ∀ {after}, (context.solve app scope).run ledger = (.error error, after) →
      Located app ⟨context, scope, ledger⟩ error)
    (h : (subject app context scope).run ledger = (.error error, after)) :
    Located app ⟨.quantified quantifier context body, scope, ledger⟩ error := by
  unfold subject at h
  split at h
  · rename_i path
    obtain ⟨rfl, hpath⟩ := located_of_valueAt h
    exact ⟨by simp [parts], hpath⟩
  · rename_i hfield
    have hfirst : first? (.quantified quantifier context body) = some context := by
      cases context with
      | field path => exact absurd rfl (hfield path)
      | _ => rfl
    rcases run_bind_eq_error (f := fun s : Solution => pure s.value) h with h | ⟨_, _, _, h⟩
    · exact (ih h).of_calls (.first hfirst)
    · cases h

/-- A node whose operands are solved fails by itself if it fails. -/
theorem located_of_operands {node left right : Expr} {scope : Value}
    {ledger middle last after : Ledger} {l r : Solution} {fault : Fault}
    (hpair : node.pair? = some (left, right))
    (hleft : (left.solve app scope).run ledger = (.ok l, middle))
    (hright : (right.solve app scope).run middle = (.ok r, last))
    (hfails : (node.solve app scope).run ledger = (.error (.at node fault), after))
    (hraise : node.CanRaise fault) : Located app ⟨node, scope, ledger⟩ (.at node fault) :=
  ⟨hraise, scope, ledger, .refl, left, right, l, r, middle, last, after, hpair, hleft, hright,
    hfails⟩

/-- **An error of a solve is located**, one case for each kind of expression. -/
theorem located_of_solve {e : Expr} {scope : Value} {ledger after : Ledger} {error : SolveError}
    (h : (e.solve app scope).run ledger = (.error error, after)) :
    Located app ⟨e, scope, ledger⟩ error := by
  induction e generalizing scope ledger after with
  | literal | component => cases h
  | field path =>
    rw [solve] at h
    rcases run_bind_eq_error h with h | ⟨_, _, _, h⟩
    · obtain ⟨rfl, hpath⟩ := located_of_valueAt h
      exact ⟨mem_parts_self _, hpath⟩
    · cases h
  | within context body ihContext ihBody =>
    rw [solve] at h
    rcases run_bind_eq_error h with h | ⟨inner, middle, hcontext, h⟩
    · exact (ihContext h).of_calls (.first rfl)
    · exact (ihBody h).of_calls (.body hcontext)
  | quantified quantifier context body ihContext ihBody =>
    rw [solve_quantified] at h
    rcases run_bind_eq_error h with h | ⟨v, middle, hv, h⟩
    · exact located_of_subject (fun h => ihContext h) h
    · rw [Quantifier.run_across] at h
      obtain ⟨c, before, htries, h⟩ := Quantifier.run_eq_error h
      exact (ihBody h).of_calls (.candidate hv htries)
  | not operand ih | isInstance operand typeName ih =>
    rw [solve] at h
    rcases run_bind_eq_error h with h | ⟨_, _, _, h⟩
    · exact (ih h).of_calls (.first rfl)
    · cases h
  | and left right ihLeft ihRight =>
    rw [solve] at h
    rcases run_bind_eq_error h with h | ⟨first, middle, hleft, h⟩
    · exact (ihLeft h).of_calls (.first rfl)
    rw [run_lift_bind] at h
    rcases htruth : first.value.isTruthy.run middle with ⟨holds, judged⟩
    rw [htruth] at h
    cases holds with
    | false => cases h
    | true =>
      rcases run_bind_eq_error h with h | ⟨_, _, _, h⟩
      · exact (ihRight h).of_calls (.and hleft htruth)
      · cases h
  | or left right ihLeft ihRight =>
    rw [solve] at h
    rcases run_bind_eq_error h with h | ⟨first, middle, hleft, h⟩
    · exact (ihLeft h).of_calls (.first rfl)
    rw [run_lift_bind] at h
    rcases htruth : first.value.isTruthy.run middle with ⟨holds, judged⟩
    rw [htruth] at h
    cases holds with
    | true => cases h
    | false =>
      rcases run_bind_eq_error h with h | ⟨_, _, _, h⟩
      · exact (ihRight h).of_calls (.or hleft htruth)
      · cases h
  | compare relation left right ihLeft ihRight =>
    have hnode := h
    rw [solve] at h
    rcases run_bind_eq_error h with h | ⟨l, middle, hleft, h⟩
    · exact (ihLeft h).of_calls (.first rfl)
    rcases run_bind_eq_error h with h | ⟨r, last, hright, h⟩
    · exact (ihRight h).of_calls (.second rfl hleft)
    rcases run_bind_eq_error h with h | ⟨_, _, _, h⟩
    · have hjudge := Solving.confined_judge (.compare relation left right)
        (Value.confined_holds relation l.value.permits_isRead r.value.permits_isRead)
      obtain ⟨fault, rfl, hraise⟩ := hjudge.throws last error (congrArg Prod.fst h)
      exact located_of_operands rfl hleft hright hnode hraise
    · cases h
  | arithmetic operation left right ihLeft ihRight =>
    have hnode := h
    rw [solve] at h
    rcases run_bind_eq_error h with h | ⟨l, middle, hleft, h⟩
    · exact (ihLeft h).of_calls (.first rfl)
    rcases run_bind_eq_error h with h | ⟨r, last, hright, h⟩
    · exact (ihRight h).of_calls (.second rfl hleft)
    cases hresult : operation.apply l.value r.value with
    | ok v =>
      rw [hresult] at h
      cases h
    | error fault =>
      rw [hresult] at h
      cases h
      exact located_of_operands rfl hleft hright hnode (Arithmetic.canRaise_of_apply hresult)

end Expr

/-- **An error names the innermost node that fails.**  The node is a part of the query, of a kind
that fits the error.  The solve came to it in some context, where both its operands were solved
and it failed by itself; if nothing is single-pass, it does so in this context at any time.  An
error that names a path instead is one of a strict application, for a path of the query. -/
theorem Query.error_located {app : Application} {query : Query} {data : Value}
    {error : SolveError} {ledger after : Ledger}
    (hsolve : (query.solve app data).run ledger = (.error error, after)) :
    (∀ node fault, error = .at node fault → node ∈ query.root.parts ∧ node.CanRaise fault ∧
      ∃ scope before,
        Expr.ComesTo app ⟨query.root, data, ledger.note (.started query.root)⟩
          ⟨node, scope, before⟩ ∧
        Call.Fails app ⟨node, scope, before⟩ fault ∧
        (app.IsPure → query.root.IsReadable → data.IsReadable →
          ∀ ledger', Call.Fails app ⟨node, scope, ledger'⟩ fault)) ∧
    ∀ path, error = .unresolved path →
      .field path ∈ query.root.parts ∧ path.isCurrent = false ∧ app.strict = true := by
  have hroot : (query.root.solve app data).run (ledger.note (.started query.root)) =
      (.error error, after) := hsolve
  have hlocated := Expr.located_of_solve hroot
  refine ⟨?node, ?path⟩
  case node =>
    rintro node fault rfl
    obtain ⟨hraise, scope, before, hcomes, hfails⟩ := hlocated
    refine ⟨hcomes.mem_parts, hraise, scope, before, hcomes, hfails, ?_⟩
    intro hpure hquery hdata
    exact Expr.fails_again hpure (hquery.part hcomes.mem_parts)
      (hcomes.isReadable hpure hquery hdata) hfails
  case path =>
    rintro path rfl
    exact hlocated

namespace Query

/-- The share of a guest. -/
def share : Expr :=
  .arithmetic .divide (.literal (.integer 12)) (.field ⟨["guests"]⟩)

/-- Is some share more than three? -/
def shared : Query where
  root := .quantified .any (.field ⟨["tables"]⟩) (.compare .greater share (.literal (.integer 3)))

/-- Two tables, one of which has no guests. -/
def tables : Value :=
  .object [("tables", .superposition ⟨0, .supplied⟩
    [.object [("guests", .integer 4)], .object [("guests", .integer 0)]])]

/-- The first table does not decide, and at the second one there is nobody to share with. -/
theorem error_located_shared :
    share ∈ shared.root.parts ∧ share.CanRaise .divisionByZero ∧ ∃ scope before,
      Expr.ComesTo .standard ⟨shared.root, tables, Ledger.note (.started shared.root) ⟨1, []⟩⟩
        ⟨share, scope, before⟩ ∧
      Call.Fails .standard ⟨share, scope, before⟩ .divisionByZero ∧
      ∀ ledger', Call.Fails .standard ⟨share, scope, ledger'⟩ .divisionByZero := by
  have hquery : shared.root.IsReadable := by simp [shared, share]
  have hdata : tables.IsReadable := by simp [tables]
  obtain ⟨after, hsolve⟩ : ∃ after, (shared.solve .standard tables).run ⟨1, []⟩ =
      (.error (.at share .divisionByZero), after) := ⟨_, rfl⟩
  obtain ⟨hpart, hraise, scope, before, hcomes, hfails, hagain⟩ :=
    (error_located hsolve).1 share .divisionByZero rfl
  exact ⟨hpart, hraise, scope, before, hcomes, hfails,
    hagain Application.isPure_standard hquery hdata⟩

end Query

end FieldQuery
