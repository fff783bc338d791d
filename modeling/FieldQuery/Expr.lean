import FieldQuery.Path
import FieldQuery.Value.Equality

/-!
# Expressions

The syntax tree of a query.  Two trees are equal when they have the same shape and
the same literals, which is how queries are compared.
-/

namespace FieldQuery

/-- Which candidates of a context have to satisfy a condition. -/
inductive Quantifier where
  /-- At least one. -/
  | any
  /-- Every one. -/
  | each
  deriving DecidableEq, Repr

/-- The relations between two operands. -/
inductive Comparison where
  /-- The operands are equal. -/
  | equal
  /-- The left operand occurs in the right one. -/
  | member
  /-- Every element of the left operand occurs in the right one. -/
  | subset
  /-- The left operand is greater. -/
  | greater
  /-- The left operand is greater or they rank the same. -/
  | atLeast
  /-- The right operand is a pattern that is found in the left one. -/
  | search
  deriving DecidableEq, Repr

/-- The operations on numbers, the first of which also joins strings. -/
inductive Arithmetic where
  /-- Addition. -/
  | add
  /-- Subtraction. -/
  | subtract
  /-- Multiplication. -/
  | multiply
  /-- Division. -/
  | divide
  deriving DecidableEq, Repr

/-- The syntax tree of a query. -/
inductive Expr where
  /-- A constant. -/
  | literal (value : Value)
  /-- The value at a field path from the current context. -/
  | field (path : Path)
  /-- Whether the current context has a component, as the application says. -/
  | component (name : String)
  /-- The body in the context of another value. -/
  | within (context body : Expr)
  /-- Whether the body holds for candidates of a context. -/
  | quantified (quantifier : Quantifier) (context body : Expr)
  /-- Negation. -/
  | not (operand : Expr)
  /-- Conjunction. -/
  | and (left right : Expr)
  /-- Disjunction, which keeps the value that decided it. -/
  | or (left right : Expr)
  /-- A comparison. -/
  | compare (relation : Comparison) (left right : Expr)
  /-- Whether the application takes a value for an instance of a type. -/
  | isInstance (subject : Expr) (typeName : String)
  /-- Arithmetic. -/
  | arithmetic (operation : Arithmetic) (left right : Expr)
  deriving Inhabited

namespace Expr

/-- Two trees with the same shape and the same literals. -/
def same : Expr → Expr → Bool
  | .literal a, .literal b => a == b
  | .field p, .field q => p == q
  | .component m, .component n => m == n
  | .within c b, .within c' b' => same c c' && same b b'
  | .quantified q c b, .quantified q' c' b' => q == q' && same c c' && same b b'
  | .not a, .not b => same a b
  | .and a b, .and a' b' => same a a' && same b b'
  | .or a b, .or a' b' => same a a' && same b b'
  | .compare r a b, .compare r' a' b' => r == r' && same a a' && same b b'
  | .isInstance a m, .isInstance b n => same a b && m == n
  | .arithmetic o a b, .arithmetic o' a' b' => o == o' && same a a' && same b b'
  | _, _ => false

instance : BEq Expr := ⟨same⟩

/-- The negated number: minus one times the operand. -/
def negation (operand : Expr) : Expr :=
  .arithmetic .multiply (.literal (.integer (-1))) operand

/-- Is the expression the literal minus one? -/
def isMinusOne : Expr → Bool
  | .literal (.integer n) => n == -1
  | _ => false

/-- The operand of a negated number. -/
def negated? : Expr → Option Expr
  | .arithmetic .multiply factor operand => if factor.isMinusOne then some operand else none
  | _ => none

end Expr

end FieldQuery
