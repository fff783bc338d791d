import FieldQuery.Ledger

/-!
# JSON documents

Documents as they are read and written.  Numbers are kept as integers of 64 bits where
they are written as such, signed or not, and as floats otherwise.  The members of an
object are in the order of their names, and each name occurs once.
-/

namespace FieldQuery

/-- A JSON document. -/
inductive Json where
  /-- `null` -/
  | null
  /-- `true` or `false` -/
  | bool (b : Bool)
  /-- A number without fraction or power of ten. -/
  | integer (n : Int)
  /-- Any other number. -/
  | float (x : Float)
  /-- A string. -/
  | string (s : String)
  /-- An array. -/
  | array (items : List Json)
  /-- An object, with its members in the order of their names. -/
  | object (members : List (String × Json))
  deriving Inhabited

namespace Json

/-- Puts a member into an object; one that has the name already is replaced. -/
def insertMember (name : String) (json : Json) : List (String × Json) → List (String × Json)
  | [] => [(name, json)]
  | (key, other) :: rest =>
    if name < key then (name, json) :: (key, other) :: rest
    else if name = key then (name, json) :: rest
    else (key, other) :: insertMember name json rest

/-- An object with the given members, the last one of a name counting. -/
def ofMembers (members : List (String × Json)) : Json :=
  .object (members.foldl (fun sorted (name, json) => insertMember name json sorted) [])

/-! ## Documents and values -/

mutual

/-- The value for a document. -/
def toValue : Json → Value
  | .null => .null
  | .bool b => .boolean b
  | .integer n => (Value.ofInt? n).getD (.float (Float.ofInt n))
  | .float x => .float x
  | .string s => .string s
  | .array items => .array (toValues items)
  | .object members => .object (toFields members)

/-- The values for the elements of an array. -/
def toValues : List Json → List Value
  | [] => []
  | json :: rest => toValue json :: toValues rest

/-- The fields for the members of an object. -/
def toFields : List (String × Json) → List (String × Value)
  | [] => []
  | (name, json) :: rest => (name, toValue json) :: toFields rest

end

mutual

/-- The document for a value.  A superposition is an array of its candidates, a record
its text, and a float that is not finite nothing. -/
def ofValue : Value → Reading Json
  | .null => return .null
  | .boolean b => return .bool b
  | .integer n => return .integer n.toInt
  | .float x => return if x.isFinite then .float x else .null
  | .string s => return .string s
  | .array items => do return .array (← ofValues (pure ()) items)
  | .object fields => do return .object (← ofFields fields)
  | .record identity typeName fields => return .string (Value.record identity typeName fields).text
  | .superposition handle candidates => do
    if ← handle.ask then return .array (← ofValues handle.take candidates)
    else return .array []

/-- The documents for values that are taken with the given action. -/
def ofValues (take : Reading Unit) : List Value → Reading (List Json)
  | [] => return []
  | v :: rest => do
    take
    let json ← ofValue v
    return json :: (← ofValues take rest)

/-- The members for the fields of an object. -/
def ofFields : List (String × Value) → Reading (List (String × Json))
  | [] => return []
  | (name, v) :: rest => do
    let json ← ofValue v
    return (name, json) :: (← ofFields rest)

end

end Json

end FieldQuery
