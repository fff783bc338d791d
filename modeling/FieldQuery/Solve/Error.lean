import FieldQuery.Expr.Printer

/-!
# Why a query does not solve

Errors name the node that was being solved.  Fields that lead nowhere are no errors
unless the application wants them to be.
-/

namespace FieldQuery

/-- The ways for an operator not to fit the types of its operands. -/
inductive TypeCause where
  /-- Nothing of one type can be in something of the other. -/
  | membership (needle haystack : String)
  /-- The operand of a subset test is no collection. -/
  | noCollection (typeName : String)
  /-- The operands have no order. -/
  | noOrder (left right : String)
  /-- The pattern is no string. -/
  | noPattern (typeName : String)
  /-- Patterns cannot be searched for in the subject. -/
  | noSubject (typeName : String)
  /-- The operation is not defined for the operands. -/
  | noArithmetic (operation : Arithmetic) (left right : String)
  deriving DecidableEq, Repr

/-- The verb for an operation. -/
def Arithmetic.verb : Arithmetic → String
  | .add => "add"
  | .subtract => "subtract"
  | .multiply => "multiply"
  | .divide => "divide"

/-- The message for operands of the wrong types. -/
def TypeCause.message : TypeCause → String
  | .membership needle haystack => "cannot look for " ++ needle ++ " in " ++ haystack
  | .noCollection typeName => "containment needs collections, got " ++ typeName
  | .noOrder left right => "cannot order " ++ left ++ " against " ++ right
  | .noPattern typeName => "pattern must be a string, got " ++ typeName
  | .noSubject typeName => "cannot match a pattern against " ++ typeName
  | .noArithmetic operation left right =>
    "cannot " ++ operation.verb ++ " " ++ left ++ " and " ++ right

/-- What is wrong at a node. -/
inductive Fault where
  /-- The operands have the wrong types. -/
  | type (cause : TypeCause)
  /-- An integer is divided by zero. -/
  | divisionByZero
  /-- The result is beyond 64 bits. -/
  | overflow
  /-- The right operand is no valid pattern. -/
  | badPattern
  deriving DecidableEq, Repr

/-- Why a query does not solve. -/
inductive SolveError where
  /-- Something is wrong at a node. -/
  | at (node : Expr) (fault : Fault)
  /-- A field path leads to no value, and the application wants it to. -/
  | unresolved (path : Path)

/-- The node at which a query does not solve. -/
def SolveError.node? : SolveError → Option Expr
  | .at node _ => some node
  | .unresolved _ => none

/-- The message for a query that does not solve. -/
def SolveError.message : SolveError → String
  | .at node (.type cause) => "Type error in `" ++ node.text ++ "`: " ++ cause.message
  | .at node .divisionByZero => "Division by zero in `" ++ node.text ++ "`"
  | .at node .overflow => "Integer overflow in `" ++ node.text ++ "`"
  | .at node .badPattern => "Invalid regular expression in `" ++ node.text ++ "`"
  | .unresolved path => "Unresolved field: " ++ path.text

end FieldQuery
