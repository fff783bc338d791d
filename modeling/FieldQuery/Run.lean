import FieldQuery.Solve

/-!
# Running a query from its text

The short way: a text without placeholders is read and solved against a value, with no
wishes of an application, and only the value is given.
-/

namespace FieldQuery

/-- Why a text has no value. -/
inductive RunError where
  /-- The text does not parse. -/
  | parse (error : ParseError)
  /-- The query does not solve. -/
  | solve (error : SolveError)

/-- The message for a text without a value. -/
def RunError.message : RunError → String
  | .parse e => "Parse error: " ++ e.message
  | .solve e => "Eval error: " ++ e.message

/-- The value of a query in text against some data. -/
def run (source : String) (data : Value) : ExceptT RunError Reading Value :=
  match Query.parse source none with
  | .error e => throw (.parse e)
  | .ok query => Solution.value <$> ExceptT.adapt .solve (query.solve .standard data)

end FieldQuery
