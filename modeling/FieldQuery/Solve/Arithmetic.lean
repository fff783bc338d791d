import FieldQuery.Number.Scaled
import FieldQuery.Solve.Error

/-!
# Arithmetic of values

Integer arithmetic is exact or fails; a quotient that is not whole is a float.  Two
floats follow the rules of floats.  An integer and a float meet as scaled decimals, so
that a tenth times ten is one, and a whole result is an integer; where the decimals have
no room they meet as floats.
-/

namespace FieldQuery

open Number

namespace Arithmetic

/-- The operation on floats. -/
def ofFloats : Arithmetic → Float → Float → Float
  | .add, a, b => a + b
  | .subtract, a, b => a - b
  | .multiply, a, b => a * b
  | .divide, a, b => a / b

/-- The operation on scaled decimals, where it has a result. -/
def ofScaled? : Arithmetic → Scaled → Scaled → Option Scaled
  | .add, a, b => a.add? b
  | .subtract, a, b => a.sub? b
  | .multiply, a, b => a.mul? b
  | .divide, a, b => a.div? b

/-- The integer with 64 bits, or an overflow. -/
def integer (n : Int) : Except Fault Value :=
  match Value.ofInt? n with
  | some v => .ok v
  | none => .error .overflow

/-- The operation on integers. -/
def ofIntegers : Arithmetic → Int64 → Int64 → Except Fault Value
  | .add, a, b => integer (a.toInt + b.toInt)
  | .subtract, a, b => integer (a.toInt - b.toInt)
  | .multiply, a, b => integer (a.toInt * b.toInt)
  | .divide, a, b =>
    if b = 0 then .error .divisionByZero
    else if a.toInt % b.toInt = 0 then integer (a.toInt / b.toInt)
    else .ok (.float (Value.floatOfInt a / Value.floatOfInt b))

/-- A scaled decimal as a value: an integer if it is whole and has 64 bits of room. -/
def ofResult (d : Scaled) : Value :=
  match (if d.isWhole then Value.ofInt? d.toInt else none) with
  | some v => v
  | none => .float d.toFloat

/-- The operation on an integer and a float, each given as a scaled decimal, where it
has one, and as a float. -/
def ofMixed (operation : Arithmetic) (a b : Option Scaled × Float) : Value :=
  let exact := do operation.ofScaled? (← a.1) (← b.1)
  match exact with
  | some d => ofResult d
  | none => .float (operation.ofFloats a.2 b.2)

/-- An integer as an operand beside a float. -/
def mixedInteger (n : Int64) : Option Scaled × Float :=
  (some (Scaled.ofInt n.toInt), Value.floatOfInt n)

/-- A float as an operand beside an integer. -/
def mixedFloat (x : Float) : Option Scaled × Float :=
  (Scaled.ofFloat? x, x)

/-- The operation on two values. -/
def apply (operation : Arithmetic) (left right : Value) : Except Fault Value :=
  match left, right with
  | .integer a, .integer b => operation.ofIntegers a b
  | .float a, .float b => .ok (.float (operation.ofFloats a b))
  | .integer a, .float b => .ok (operation.ofMixed (mixedInteger a) (mixedFloat b))
  | .float a, .integer b => .ok (operation.ofMixed (mixedFloat a) (mixedInteger b))
  | .string a, .string b =>
    if operation = .add then .ok (.string (a ++ b))
    else .error (.type (.noArithmetic operation "string" "string"))
  | a, b => .error (.type (.noArithmetic operation a.typeName b.typeName))

end Arithmetic

end FieldQuery
