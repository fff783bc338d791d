import FieldQuery.Expr.Printer

/-!
# The ledger of a solve

Solving a query leaves a trail: reads of superpositions that the application supplied,
and notes for whoever follows the evaluation.  The ledger holds these events and hands
out identities for new superpositions.  Whether a single-pass superposition is spent,
how often one was read and what the log says are all read off the events.
-/

namespace FieldQuery

/-- Something that happened during a solve. -/
inductive Event where
  /-- A query was about to be solved. -/
  | started (root : Expr)
  /-- The candidates of a supplied superposition were asked for. -/
  | asked (superposition : Identity)
  /-- A candidate was taken from a supplied superposition. -/
  | taken (superposition : Identity)
  /-- A field path led to no value. -/
  | missing (path : Path)
  /-- The body of a quantifier had a value for a candidate. -/
  | judged (quantifier : Quantifier) (index : Nat) (value : Value)

/-- The state of a solve: the next free identity and all events, last one first. -/
structure Ledger where
  /-- An identity above all that are in use. -/
  fresh : Identity
  /-- The events, last one first. -/
  events : List Event

namespace Ledger

/-- Puts an event into the ledger. -/
def note (event : Event) (ledger : Ledger) : Ledger :=
  { ledger with events := event :: ledger.events }

/-- Was a supplied superposition asked for its candidates before? -/
def wasAsked (ledger : Ledger) (superposition : Identity) : Bool :=
  ledger.events.any fun
    | .asked s => s == superposition
    | _ => false

/-- How often a superposition was asked for its candidates. -/
def asks (ledger : Ledger) (superposition : Identity) : Nat :=
  ledger.events.countP fun
    | .asked s => s == superposition
    | _ => false

/-- How many candidates were taken from a superposition. -/
def takes (ledger : Ledger) (superposition : Identity) : Nat :=
  ledger.events.countP fun
    | .taken s => s == superposition
    | _ => false

end Ledger

/-- The line that an event adds to the log, if any. -/
def Event.logLine? : Event → Option String
  | .started root => some ("DEBUG solving `" ++ root.text ++ "`")
  | .asked _ | .taken _ => none
  | .missing path => some ("TRACE field `" ++ path.text ++ "` has no value")
  | .judged quantifier index value =>
    some ("TRACE " ++ Expr.quantifierText quantifier ++ ": candidate " ++ Number.natText index ++
      " -> " ++ value.text)

/-- The log of the events, first one first. -/
def Ledger.log (ledger : Ledger) : List String :=
  ledger.events.reverse.filterMap Event.logLine?

/-! ## Reading superpositions -/

/-- A computation that reads superpositions. -/
abbrev Reading := StateM Ledger

namespace Handle

/-- Asks for the candidates; the answer is whether there are any to be had, which for a
single-pass superposition is so the first time only. -/
def ask (handle : Handle) : Reading Bool := do
  let ledger ← get
  match handle.source with
  | .owned => return true
  | .supplied =>
    modify (Ledger.note (.asked handle.identity))
    return true
  | .singlePass =>
    modify (Ledger.note (.asked handle.identity))
    return !ledger.wasAsked handle.identity

/-- Takes one candidate. -/
def take (handle : Handle) : Reading Unit :=
  match handle.source with
  | .owned => pure ()
  | .supplied | .singlePass => modify (Ledger.note (.taken handle.identity))

/-- Takes all candidates. -/
def takeAll (handle : Handle) (candidates : List Value) : Reading (List Value) := do
  candidates.forM fun _ => handle.take
  return candidates

/-- Reads all candidates. -/
def readAll (handle : Handle) (candidates : List Value) : Reading (List Value) := do
  if ← handle.ask then handle.takeAll candidates else return []

end Handle

namespace Value

/-- The value that stands for any of some candidates: none is no value, a single one is
itself, and more are a new superposition that can be read again and again. -/
def ofCandidates : List Value → Reading Value
  | [] => return .null
  | [v] => return v
  | candidates => do
    let ledger ← get
    set { ledger with fresh := ledger.fresh + 1 }
    return .superposition ⟨ledger.fresh, .owned⟩ candidates

/-- Copies the candidates out of a superposition, so that they can be read again. -/
def settle : Value → Reading Value
  | .superposition handle candidates => do ofCandidates (← handle.readAll candidates)
  | v => return v

/-- Does the value count as true?  Empty texts and containers, zero and no value do not;
a superposition does if it yields a candidate, and one is taken to see that. -/
def isTruthy : Value → Reading Bool
  | .null => return false
  | .boolean b => return b
  | .integer n => return n != 0
  | .float x => return x != Float.ofNat 0
  | .string s => return s != ""
  | .array items => return !items.isEmpty
  | .object fields => return !fields.isEmpty
  | .record _ _ _ => return true
  | .superposition handle candidates => do
    if ← handle.ask then
      match candidates with
      | [] => return false
      | _ :: _ => do
        handle.take
        return true
    else return false

end Value

end FieldQuery
