/-!
# Values

The values that queries are about.  Scalars and containers are those of JSON, with
integers kept apart from floats.  Two kinds are handles to something outside the
query: a record resolves its own fields and has a type name, and a superposition
stands for one slot that may hold any of several candidates.  Handles have an
identity: copies of one handle are the same thing, and two handles with the same
content are not.
-/

namespace FieldQuery

/-- What tells one record or superposition from another. -/
abbrev Identity := Nat

/-- Who holds the candidates of a superposition. -/
inductive Source where
  /-- A list in memory, which can be read any number of times without a trace. -/
  | owned
  /-- The application, which notices every read. -/
  | supplied
  /-- The application, which yields candidates to the first read only. -/
  | singlePass
  deriving DecidableEq, Repr

/-- A superposition's identity and the holder of its candidates. -/
structure Handle where
  /-- The identity of the superposition. -/
  identity : Identity
  /-- Who holds the candidates. -/
  source : Source
  deriving DecidableEq, Repr

/-- A value that a query computes with. -/
inductive Value where
  /-- No value, which is also what a field path without a target has. -/
  | null
  /-- A truth value. -/
  | boolean (b : Bool)
  /-- A 64-bit signed integer. -/
  | integer (n : Int64)
  /-- A double-precision float. -/
  | float (x : Float)
  /-- A text. -/
  | string (s : String)
  /-- A list of values. -/
  | array (items : List Value)
  /-- Named values, in the order of their names and each name once. -/
  | object (fields : List (String × Value))
  /-- An object of the application, with the fields that it resolves. -/
  | record (identity : Identity) (typeName : String) (fields : List (String × Value))
  /-- Several candidates for one value. -/
  | superposition (handle : Handle) (candidates : List Value)
  deriving Inhabited

namespace Value

/-! ## Fields -/

/-- The value under a name in a list of named values. -/
def lookup (name : String) : List (String × Value) → Option Value
  | [] => none
  | (key, value) :: rest => if key = name then some value else lookup name rest

/-- Puts a named value into a list that is in the order of its names; a value that
has the name already is replaced. -/
def insertField (name : String) (value : Value) : List (String × Value) → List (String × Value)
  | [] => [(name, value)]
  | (key, other) :: rest =>
    if name < key then (name, value) :: (key, other) :: rest
    else if name = key then (name, value) :: rest
    else (key, other) :: insertField name value rest

/-- Named values as an object, the last value of a name counting. -/
def ofFields (fields : List (String × Value)) : Value :=
  .object (fields.foldl (fun sorted (name, value) => insertField name value sorted) [])

/-- The value of one field of an object or record. -/
def get? (name : String) : Value → Option Value
  | .object fields => lookup name fields
  | .record _ _ fields => lookup name fields
  | _ => none

/-! ## Kinds -/

/-- Is this no value? -/
def isNull : Value → Bool
  | .null => true
  | _ => false

/-- The name of the value's type; a record has a name of its own. -/
def typeName : Value → String
  | .null => "null"
  | .boolean _ => "boolean"
  | .integer _ => "integer"
  | .float _ => "float"
  | .string _ => "string"
  | .array _ => "array"
  | .object _ => "object"
  | .record _ name _ => name
  | .superposition _ _ => "superposition"

/-- The float for a 64-bit integer, rounded to the nearest. -/
def floatOfInt (n : Int64) : Float :=
  Float.ofInt n.toInt

/-- The number as a float. -/
def toFloat? : Value → Option Float
  | .integer n => some (floatOfInt n)
  | .float x => some x
  | _ => none

/-- The integer value of a number that has 64 bits of room. -/
def ofInt? (n : Int) : Option Value :=
  if Int64.minValue.toInt ≤ n ∧ n ≤ Int64.maxValue.toInt then some (.integer (Int64.ofInt n))
  else none

end Value

end FieldQuery
