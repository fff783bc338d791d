import FieldQuery.Json.Printer
import FieldQuery.Json.Reader
import FieldQuery.Solve

/-!
# Checking a query against a JSON document

A check takes everything as text: the query, the document and the parameters.  It says
that the syntax is valid or what the query has for a value, or else what is wrong first:
the parameters, the query, the document or the solving, in this order.  All along it
keeps a log.
-/

namespace FieldQuery

/-- What is to be checked. -/
structure Check where
  /-- The query. -/
  query : String
  /-- The JSON document that the query is solved against. -/
  input : Option String
  /-- The parameters of the query: a JSON array for `{}`, an object for `{name}`. -/
  params : Option String
  /-- Is the syntax all that matters? -/
  syntaxOnly : Bool
  /-- Is a field path without a value an error? -/
  strict : Bool
  /-- Is the deciding part of the query wanted? -/
  trace : Bool

/-- What a check finds. -/
inductive Finding where
  /-- The query is well-formed, and nothing else was asked. -/
  | wellFormed
  /-- The query has a value, and this part of it decided that. -/
  | solved (output : Json) (branch : Option Expr)

/-- Why a check fails. -/
inductive CheckError where
  /-- The query does not parse. -/
  | parse (error : ParseError)
  /-- The query does not solve. -/
  | solve (error : SolveError)
  /-- The document or the parameters are no JSON. -/
  | noJson
  /-- There is no document. -/
  | noInput
  /-- The parameters are neither an array nor an object. -/
  | badParams (found : Json)

/-- The message for a check that fails. -/
def CheckError.message : CheckError → String
  | .parse e => "Parse error: " ++ e.message
  | .solve e => "Evaluation error: " ++ e.message
  | .noJson => "Invalid JSON"
  | .noInput => "No input provided. Use --input or pipe JSON to stdin."
  | .badParams found =>
    "Invalid params: expected an array or an object, got `" ++ found.text ++ "`"

/-- Parameters from JSON: those of an array are positional, those of an object named. -/
def Params.ofJsonText (source : String) : Except CheckError Params :=
  match Json.ofText? source with
  | none => .error .noJson
  | some (.array items) => .ok (.positional (Json.toValues items))
  | some (.object members) => .ok (.named (Json.toFields members))
  | some found => .error (.badParams found)

namespace Check

/-- The query that is to be checked. -/
def parsed (check : Check) : Except CheckError Query := do
  let params ← check.params.mapM Params.ofJsonText
  (Query.parse check.query params).mapError .parse

/-- The value that the query is to be solved against. -/
def data (check : Check) : Except CheckError Value :=
  match check.input with
  | none => .error .noInput
  | some source =>
    match Json.ofText? source with
    | none => .error .noJson
    | some json => .ok json.toValue

/-- How the fields of JSON documents are looked at. -/
def application (check : Check) : Application :=
  { Application.standard with strict := check.strict }

/-- Solves the query against a value.  The log tells of the solve and of its value. -/
def solve (check : Check) (query : Query) (data : Value) :
    Except CheckError Finding × List String :=
  let (outcome, ledger) := (query.solve check.application data).run ⟨0, []⟩
  match outcome with
  | .error e => (.error (.solve e), ledger.log)
  | .ok solution =>
    let output := (Json.ofValue solution.value ledger).1
    let branch := if check.trace then solution.branch else none
    let line := "INFO query `" ++ query.text ++ "` solved to " ++ solution.value.text
    (.ok (.solved output branch), ledger.log ++ [line])

/-- The outcome of a check and its log. -/
def run (check : Check) : Except CheckError Finding × List String :=
  match check.parsed with
  | .error e => (.error e, [])
  | .ok query =>
    let (outcome, log) :=
      if check.syntaxOnly then (.ok .wellFormed, [])
      else
        match check.data with
        | .error e => (.error e, [])
        | .ok data => check.solve query data
    (outcome, ("DEBUG parsed query `" ++ query.text ++ "`") :: log)

end Check

end FieldQuery
