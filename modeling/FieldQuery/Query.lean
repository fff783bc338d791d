import FieldQuery.Expr.Printer
import FieldQuery.Query.Grammar

/-!
# Queries

A query is an expression that was read from text or built by hand.  Reading takes the
parameters for the placeholders of the text, all of which have to be used.
-/

namespace FieldQuery

/-- A query: one expression. -/
structure Query where
  /-- The expression. -/
  root : Expr

namespace Query

/-- Two queries with the same expression. -/
def same (p q : Query) : Bool :=
  p.root == q.root

instance : BEq Query := ⟨same⟩

/-- The query in query syntax. -/
def text (q : Query) : String :=
  q.root.text

/-- Reads a query from tokens, which may end where the text is malformed. -/
def ofTokens (tokens : List Token) (fault : Option LexError) (params : Option Params) :
    Except ParseError Query := do
  let root ← Grammar.query fault (Params.fill params 0 tokens)
  match Params.leftOver params tokens with
  | some cause => .error (.grammar none cause)
  | none => .ok ⟨root⟩

/-- Reads a query from text. -/
def parse (source : String) (params : Option Params) : Except ParseError Query :=
  let (tokens, fault) := (Input.ofText source).tokens
  ofTokens tokens fault params

end Query

end FieldQuery
