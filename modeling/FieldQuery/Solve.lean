import FieldQuery.Query
import FieldQuery.Solve.Arithmetic
import FieldQuery.Solve.Comparison
import FieldQuery.Solve.Resolution

/-!
# Solving queries

A query is solved against a value, its context.  The tree is walked depth first, left
before right.  A disjunction and a quantifier stop at what decides them and name it as
the branch of the solution, so that a caller can explain a match.
-/

namespace FieldQuery

/-- What the application decides about values. -/
structure Application where
  /-- Is the value an instance of the type with this name? -/
  isInstance : Value → String → Bool
  /-- Does the value have the component with this name? -/
  hasComponent : Value → String → Bool
  /-- Is a path that leads to no value an error? -/
  strict : Bool

/-- The decisions of an application without wishes: a value is an instance of its own
type, and its fields with values are its components. -/
def Application.standard : Application where
  isInstance := fun v typeName => v.typeName == typeName
  hasComponent := fun v name => ((v.get? name).map fun component => !component.isNull).getD false
  strict := false

/-- The value of an expression, and the part of the query that decided it where a
disjunction or quantifier did. -/
structure Solution where
  /-- The value. -/
  value : Value
  /-- The deciding part. -/
  branch : Option Expr

/-- A computation that reads superpositions and can fail. -/
abbrev Solving := ExceptT SolveError Reading

namespace Solving

/-- A judgement about a node. -/
def judge {α : Type} (node : Expr) (judging : Judging α) : Solving α :=
  ExceptT.adapt (.at node) judging

end Solving

namespace Solution

/-- A value that nothing in particular decided. -/
def plain (value : Value) : Solution := ⟨value, none⟩

/-- A truth value that nothing in particular decided. -/
def plainBool (b : Bool) : Solution := plain (.boolean b)

end Solution

namespace Quantifier

/-- Does a candidate with this truth value for the body decide the quantifier? -/
def decidedBy : Quantifier → Bool → Bool
  | .any, holds => holds
  | .each, holds => !holds

/-- The truth value of the quantifier when some candidate decides it. -/
def decided : Quantifier → Bool
  | .any => true
  | .each => false

/-- Goes through candidates until one decides.  The index is that of the next one. -/
def run (quantifier : Quantifier) (take : Reading Unit) (solveBody : Value → Solving Solution)
    (body : Expr) : Nat → List Value → Solving Solution
  | _, [] => return .plainBool !quantifier.decided
  | index, candidate :: rest => do
    take
    let solution ← solveBody candidate
    modify (Ledger.note (.judged quantifier index solution.value))
    if quantifier.decidedBy (← solution.value.isTruthy) then
      return ⟨.boolean quantifier.decided, some (solution.branch.getD body)⟩
    else run quantifier take solveBody body (index + 1) rest

/-- Goes through the candidates of a value: those of a superposition, the elements of an
array, none for no value and one for any other. -/
def across (quantifier : Quantifier) (solveBody : Value → Solving Solution) (body : Expr) :
    Value → Solving Solution
  | .null => quantifier.run (pure ()) solveBody body 0 []
  | .superposition handle candidates => do
    if ← handle.ask then quantifier.run handle.take solveBody body 0 candidates
    else quantifier.run handle.take solveBody body 0 []
  | .array items => quantifier.run (pure ()) solveBody body 0 items
  | v => quantifier.run (pure ()) solveBody body 0 [v]

end Quantifier

namespace Expr

/-- The value at a path from a context.  A superposition is given as it is found. -/
def valueAt (app : Application) (path : Path) (scope : Value) : Solving Value := do
  let v ← Value.resolve path.segments scope
  if v.isNull && !path.isCurrent then
    if app.strict then throw (.unresolved path)
    else
      modify (Ledger.note (.missing path))
      return v
  else return v

/-- Solves an expression in a context. -/
def solve (app : Application) : Expr → Value → Solving Solution
  | .literal v, _ => return .plain v
  | .field path, scope => do return .plain (← (← valueAt app path scope).settle)
  | .component name, scope => return .plainBool (app.hasComponent scope name)
  | .within context body, scope => do
    let inner ← solve app context scope
    solve app body inner.value
  | .quantified quantifier context body, scope => do
    let subject ← match context with
      | .field path => valueAt app path scope
      | other => Solution.value <$> solve app other scope
    quantifier.across (solve app body) body subject
  | .not operand, scope => do
    let solution ← solve app operand scope
    return .plainBool !(← solution.value.isTruthy)
  | .and left right, scope => do
    let first ← solve app left scope
    if ← first.value.isTruthy then
      let second ← solve app right scope
      return .plainBool (← second.value.isTruthy)
    else return .plainBool false
  | .or left right, scope => do
    let first ← solve app left scope
    if ← first.value.isTruthy then return ⟨first.value, some (first.branch.getD left)⟩
    else
      let second ← solve app right scope
      return ⟨second.value, some (second.branch.getD right)⟩
  | .compare relation left right, scope => do
    let l ← solve app left scope
    let r ← solve app right scope
    let holds ← Solving.judge (.compare relation left right) (relation.holds l.value r.value)
    return .plainBool holds
  | .isInstance subject typeName, scope => do
    let solution ← solve app subject scope
    return .plainBool (app.isInstance solution.value typeName)
  | .arithmetic operation left right, scope => do
    let l ← solve app left scope
    let r ← solve app right scope
    match operation.apply l.value r.value with
    | .ok v => return .plain v
    | .error fault => throw (.at (.arithmetic operation left right) fault)

end Expr

/-- Solves a query against a value. -/
def Query.solve (app : Application) (query : Query) (data : Value) : Solving Solution := do
  modify (Ledger.note (.started query.root))
  query.root.solve app data

end FieldQuery
