import FieldQuery.Value.Printer

/-!
# Tokens

The words of the query language.  Operators are sorted by what the grammar does with
them: comparisons do not chain, navigation follows a field path, and arithmetic and
the two connectives chain to the left.
-/

namespace FieldQuery

/-- The signs and words that compare two operands. -/
inductive Comparator where
  /-- `is` -/
  | is
  /-- `is not` -/
  | isNot
  /-- `==` -/
  | equal
  /-- `!=` -/
  | notEqual
  /-- `in` -/
  | member
  /-- `not in` -/
  | notMember
  /-- `>` -/
  | greater
  /-- `>=` -/
  | greaterEqual
  /-- `<` -/
  | less
  /-- `<=` -/
  | lessEqual
  /-- `=~` -/
  | search
  deriving DecidableEq, Repr

/-- The signs and words that lead from a field path to a condition on its value. -/
inductive Navigator where
  /-- `matches` -/
  | matchesWord
  /-- `->` -/
  | arrow
  /-- `where` -/
  | whereWord
  deriving DecidableEq, Repr

/-- The signs of arithmetic; minus also negates. -/
inductive Sign where
  /-- `+` -/
  | plus
  /-- `-` -/
  | minus
  /-- `*` -/
  | times
  /-- `/` -/
  | slash
  deriving DecidableEq, Repr

/-- What stands between two operands. -/
inductive Operator where
  /-- A comparison. -/
  | comparison (c : Comparator)
  /-- Navigation from a field path. -/
  | navigation (n : Navigator)
  /-- Arithmetic. -/
  | sign (s : Sign)
  /-- Conjunction. -/
  | and
  /-- Disjunction. -/
  | or
  deriving DecidableEq, Repr

/-- The words with a place of their own in the grammar that are not operators. -/
inductive Keyword where
  /-- `any` -/
  | any
  /-- `each` -/
  | each
  /-- `has` -/
  | has
  /-- `component` -/
  | component
  /-- `isa` -/
  | isa
  /-- `not` -/
  | not
  deriving DecidableEq, Repr

/-- What a token is. -/
inductive TokenKind where
  /-- An integer, float or string. -/
  | literal (value : Value)
  /-- An operator. -/
  | operator (op : Operator)
  /-- An opening parenthesis. -/
  | openParen
  /-- A closing parenthesis. -/
  | closeParen
  /-- A comma. -/
  | comma
  /-- A field path as it is spelled. -/
  | identifier (spelling : String)
  /-- A keyword. -/
  | keyword (word : Keyword)
  /-- A place for a parameter, which may have a name. -/
  | placeholder (name : Option String)
  deriving Inhabited

/-- A token and the number of characters before it. -/
structure Token where
  /-- What the token is. -/
  kind : TokenKind
  /-- The number of characters before the token. -/
  position : Nat
  deriving Inhabited

/-- The spelling of a comparison. -/
def Comparator.text : Comparator → String
  | .is => "is"
  | .isNot => "is not"
  | .equal => "=="
  | .notEqual => "!="
  | .member => "in"
  | .notMember => "not in"
  | .greater => ">"
  | .greaterEqual => ">="
  | .less => "<"
  | .lessEqual => "<="
  | .search => "=~"

/-- The spelling of a navigation operator. -/
def Navigator.text : Navigator → String
  | .matchesWord => "matches"
  | .arrow => "->"
  | .whereWord => "where"

/-- The spelling of an arithmetic sign. -/
def Sign.text : Sign → String
  | .plus => "+"
  | .minus => "-"
  | .times => "*"
  | .slash => "/"

/-- The spelling of an operator. -/
def Operator.text : Operator → String
  | .comparison c => c.text
  | .navigation n => n.text
  | .sign s => s.text
  | .and => "and"
  | .or => "or"

namespace Keyword

/-- The spelling of a keyword. -/
def text : Keyword → String
  | .any => "any"
  | .each => "each"
  | .has => "has"
  | .component => "component"
  | .isa => "isa"
  | .not => "not"

/-- The keyword with a given spelling. -/
def ofText? : String → Option Keyword
  | "any" => some .any
  | "each" => some .each
  | "has" => some .has
  | "component" => some .component
  | "isa" => some .isa
  | "not" => some .not
  | _ => none

/-- A keyword is found by its spelling. -/
theorem ofText?_text (k : Keyword) : ofText? k.text = some k := by
  cases k <;> rfl

end Keyword

/-- The token in query syntax. -/
def TokenKind.text : TokenKind → String
  | .literal value => value.text
  | .operator op => op.text
  | .openParen => "("
  | .closeParen => ")"
  | .comma => ","
  | .identifier spelling => spelling
  | .keyword word => word.text
  | .placeholder none => "\x7b\x7d"
  | .placeholder (some name) => "\x7b" ++ name ++ "\x7d"

/-- The token as messages speak of it. -/
def Token.description (t : Token) : String :=
  "`" ++ t.kind.text ++ "` at position " ++ Number.natText t.position

end FieldQuery
