import FieldQuery.Token.Lexer

/-!
# Why a query does not parse

Either the text is malformed, or the grammar, the placeholders or the parameters do not
fit.  A syntax error names the token at which it was noticed, unless the text ended.
-/

namespace FieldQuery

/-- What a name is expected to be the name of. -/
inductive NameRole where
  /-- The type of an `isa` test. -/
  | typeName
  /-- The component of a `has component` test. -/
  | component
  /-- The context of a quantifier. -/
  | context (quantifier : Keyword)
  deriving DecidableEq, Repr

/-- The role of a name in words. -/
def NameRole.text : NameRole → String
  | .typeName => "a type name after `isa`"
  | .component => "a component name"
  | .context quantifier => "a field path after `" ++ quantifier.text ++ "`"

/-- Why a placeholder has no value. -/
inductive PlaceholderFault where
  /-- There are no parameters. -/
  | noParams
  /-- There are fewer positional parameters than placeholders. -/
  | notEnough (supplied : Nat)
  /-- No parameter has the name. -/
  | unknownName (name : String)
  /-- The placeholder has a name and the parameters are positional. -/
  | needsNamed (name : String)
  /-- The placeholder has no name and the parameters are named. -/
  | needsPositional
  deriving DecidableEq, Repr

/-- The ways for a query to be against the grammar. -/
inductive SyntaxCause where
  /-- An expression is over and the text goes on. -/
  | trailing
  /-- The text is over and an expression is missing. -/
  | endOfQuery
  /-- A token that begins no expression. -/
  | noExpression
  /-- A placeholder where a name belongs. -/
  | placeholderAsName (role : NameRole)
  /-- Something else where a name belongs. -/
  | noName (role : NameRole)
  /-- Navigation from something that is not a field path. -/
  | navigationFromNoPath (operator : Navigator)
  /-- A comparison of a comparison. -/
  | chained
  /-- `has` without `component`. -/
  | noComponentWord
  /-- A quantifier without a condition. -/
  | noCondition (quantifier : Keyword)
  /-- A group without its closing parenthesis. -/
  | unclosedGroup
  /-- A list without its closing parenthesis. -/
  | unclosedList
  /-- An element of a list that is no constant. -/
  | noConstant
  /-- A placeholder without a value. -/
  | placeholder (fault : PlaceholderFault)
  /-- Positional parameters without placeholders. -/
  | unusedPositional (supplied used : Nat)
  /-- Named parameters without placeholders. -/
  | unusedNames (names : List String)
  deriving DecidableEq, Repr

/-- The message for a placeholder without a value. -/
def PlaceholderFault.message : PlaceholderFault → String
  | .noParams => "Query has a template placeholder but no params"
  | .notEnough supplied => "Not enough params: only " ++ Number.natText supplied ++ " supplied"
  | .unknownName name => "No param named `" ++ name ++ "`"
  | .needsNamed name => "Named placeholder `\x7b" ++ name ++ "\x7d` needs named params"
  | .needsPositional => "Positional placeholder `\x7b\x7d` needs positional params"

/-- The message for a query that is against the grammar. -/
def SyntaxCause.message : SyntaxCause → String
  | .trailing => "Expected an operator or end of query"
  | .endOfQuery => "Unexpected end of query, expected an expression"
  | .noExpression => "Expected an expression"
  | .placeholderAsName role =>
    "Template parameters substitute literals and cannot stand in for " ++ role.text
  | .noName role => "Expected " ++ role.text
  | .navigationFromNoPath operator =>
    "The left side of `" ++ operator.text ++ "` must be a field path"
  | .chained => "Comparison operators cannot be chained"
  | .noComponentWord => "Expected `component` after `has`"
  | .noCondition quantifier =>
    "`" ++ quantifier.text ++ "` must be followed by a field path and a `matches` clause"
  | .unclosedGroup => "Expected `)`"
  | .unclosedList => "Expected `,` or `)` in list"
  | .noConstant => "List elements must be literal values"
  | .placeholder fault => fault.message
  | .unusedPositional supplied used =>
    Number.natText supplied ++ " params supplied but only " ++ Number.natText used ++ " used"
  | .unusedNames names => "Unused params: " ++ String.intercalate ", " names

/-- Why a query does not parse. -/
inductive ParseError where
  /-- The text is malformed. -/
  | lex (error : LexError)
  /-- The tokens are against the grammar; there is no token at the end of the text. -/
  | grammar (token : Option Token) (cause : SyntaxCause)

/-- The message for a query that does not parse. -/
def ParseError.message : ParseError → String
  | .lex e => "Lex error: " ++ e.message
  | .grammar token cause =>
    cause.message ++ " (" ++ (token.map Token.description).getD "at end of input" ++ ")"

end FieldQuery
