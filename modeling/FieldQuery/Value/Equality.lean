import FieldQuery.Value

/-!
# Equality of values

Two relations.  `Value.same` compares structure: integers differ from floats, and
handles are the same only as themselves.  `Value.numericallySame` takes an integer
and a float, also as elements of arrays, for the same when they denote the same
number; it is what comparisons in queries are made of.
-/

namespace FieldQuery.Value

mutual

/-- Structural equality; floats compare as numbers, so that NaN differs from
itself, and handles by identity. -/
def same : Value → Value → Bool
  | .null, .null => true
  | .boolean a, .boolean b => a == b
  | .float a, .float b => a == b
  | .integer a, .integer b => a == b
  | .string a, .string b => a == b
  | .array a, .array b => sameItems a b
  | .object a, .object b => sameFields a b
  | .record a _ _, .record b _ _ => a == b
  | .superposition a _, .superposition b _ => a.identity == b.identity
  | _, _ => false

/-- Structural equality of lists, element by element. -/
def sameItems : List Value → List Value → Bool
  | [], [] => true
  | a :: as, b :: bs => same a b && sameItems as bs
  | _, _ => false

/-- Structural equality of named values in the order of their names. -/
def sameFields : List (String × Value) → List (String × Value) → Bool
  | [], [] => true
  | (m, a) :: as, (n, b) :: bs => m == n && same a b && sameFields as bs
  | _, _ => false

end

instance : BEq Value := ⟨same⟩

mutual

/-- Equality in which an integer and a float that denote the same number are the
same, at the top and in arrays. -/
def numericallySame : Value → Value → Bool
  | .integer a, .float b => floatOfInt a == b
  | .float a, .integer b => floatOfInt b == a
  | .array a, .array b => numericallySameItems a b
  | a, b => same a b

/-- Numeric equality of lists, element by element. -/
def numericallySameItems : List Value → List Value → Bool
  | [], [] => true
  | a :: as, b :: bs => numericallySame a b && numericallySameItems as bs
  | _, _ => false

end

end FieldQuery.Value
