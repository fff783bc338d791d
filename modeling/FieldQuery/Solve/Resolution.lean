import FieldQuery.Ledger

/-!
# Following field paths

A path is followed name by name.  At a superposition the rest of the path is followed
from every candidate and the values found are the candidates of a new superposition;
where such a value is itself a superposition, its candidates take its place.  A record
passes over a name that is its own type's name and none of its fields', so that
`Process/pid` is found on a process.
-/

namespace FieldQuery.Value

mutual

/-- Follows one name from a value, and then the rest of the path as given. -/
def descend (name : String) (follow : Value → Reading Value) : Value → Reading Value
  | .superposition handle candidates => do
    if ← handle.ask then ofCandidates (← descendAll name follow handle candidates)
    else return .null
  | .record identity typeName fields =>
    match lookup name fields with
    | some next => follow next
    | none => if typeName = name then follow (.record identity typeName fields) else return .null
  | v =>
    match v.get? name with
    | some next => follow next
    | none => return .null

/-- Follows one name from every candidate of a superposition and gathers what is found. -/
def descendAll (name : String) (follow : Value → Reading Value) (handle : Handle) :
    List Value → Reading (List Value)
  | [] => return []
  | candidate :: rest => do
    handle.take
    let found ← match ← descend name follow candidate with
      | .null => pure []
      | .superposition inner candidates => inner.readAll candidates
      | v => pure [v]
    return found ++ (← descendAll name follow handle rest)

end

/-- The value at the end of a path, or no value. -/
def resolve : List String → Value → Reading Value
  | [], v => return v
  | name :: rest, v => descend name (resolve rest) v

end FieldQuery.Value
