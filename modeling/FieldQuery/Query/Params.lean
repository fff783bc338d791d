import FieldQuery.Query.Error

/-!
# Template parameters

A query may hold placeholders, which parameters fill: `{}` takes the next positional
parameter and `{name}` the one with that name.  A parameter only ever becomes a literal.
Every token gets its filling before the grammar is looked at, so that the grammar has no
count of its own to keep.
-/

namespace FieldQuery

/-- The values for the placeholders of a query. -/
inductive Params where
  /-- Values for `{}`, first to last. -/
  | positional (values : List Value)
  /-- Values for `{name}`, in the order of the names and each name once. -/
  | named (values : List (String × Value))

/-- Named parameters, the last value of a name counting. -/
def Params.ofPairs (pairs : List (String × Value)) : Params :=
  .named (pairs.foldl (fun sorted (name, value) => Value.insertField name value sorted) [])

/-- A token, and what fills it if it is a placeholder. -/
structure Piece where
  /-- The token. -/
  token : Token
  /-- The value of a placeholder. -/
  filling : Except PlaceholderFault Value

/-- The value of a placeholder that comes after `used` others. -/
def Params.filling (params : Option Params) (used : Nat) (name : Option String) :
    Except PlaceholderFault Value :=
  match params, name with
  | none, _ => .error .noParams
  | some (.positional values), none =>
    match values[used]? with
    | some v => .ok v
    | none => .error (.notEnough values.length)
  | some (.named values), some name =>
    match Value.lookup name values with
    | some v => .ok v
    | none => .error (.unknownName name)
  | some (.positional _), some name => .error (.needsNamed name)
  | some (.named _), none => .error .needsPositional

/-- Fills the placeholders among tokens that come after `used` others. -/
def Params.fill (params : Option Params) : Nat → List Token → List Piece
  | _, [] => []
  | used, t :: ts =>
    match t.kind with
    | .placeholder name => ⟨t, Params.filling params used name⟩ :: Params.fill params (used + 1) ts
    | _ => ⟨t, .error .noParams⟩ :: Params.fill params used ts

/-- The names of the placeholders among tokens. -/
def placeholders (tokens : List Token) : List (Option String) :=
  tokens.filterMap fun t => match t.kind with
    | .placeholder name => some name
    | _ => none

/-- The parameters that no placeholder among the tokens takes. -/
def Params.leftOver (params : Option Params) (tokens : List Token) : Option SyntaxCause :=
  match params with
  | none => none
  | some (.positional values) =>
    let used := (placeholders tokens).length
    if used < values.length then some (.unusedPositional values.length used) else none
  | some (.named values) =>
    let unused := (values.map (·.1)).filter fun name => !(placeholders tokens).contains (some name)
    if unused.isEmpty then none else some (.unusedNames unused)

end FieldQuery
