import FieldQuery.Expr
import FieldQuery.Value.Printer

/-!
# Text of expressions

Expressions are written in query syntax.  An operand stands in parentheses unless it
is a literal, a path or a component test.  A negative literal has parentheses of its
own, and a negated number literal is written `(-(5))` as an operand, so that the
literal `(-5)` and the negation `-5` stay apart.  The subset relation has no syntax;
it is written like a function.
-/

namespace FieldQuery.Expr

/-- Is the expression written without inner structure? -/
def isAtom : Expr → Bool
  | .literal _ | .field _ | .component _ => true
  | _ => false

/-- The text of a constant, with parentheses around a negative number. -/
def literalText : Value → String
  | .integer n => if n < 0 then "(" ++ (Value.integer n).text ++ ")" else (Value.integer n).text
  | .float x =>
    if Number.isNegative x then "(" ++ (Value.float x).text ++ ")" else (Value.float x).text
  | v => v.text

/-- The text of an operand, given the text that it has on its own. -/
def operandText (e : Expr) (own : String) : String :=
  match e.negated? with
  | some (.literal (.integer n)) => "(-(" ++ literalText (.integer n) ++ "))"
  | some (.literal (.float x)) => "(-(" ++ literalText (.float x) ++ "))"
  | _ => if e.isAtom then own else "(" ++ own ++ ")"

/-- The text of an operand of `+` or `-`, beside which a minus sign needs no
parentheses. -/
def termText (e : Expr) (own : String) : String :=
  match e.negated? with
  | some _ => own
  | none => operandText e own

/-- The sign of a comparison. -/
def relationText : Comparison → String
  | .equal => "=="
  | .member => "in"
  | .subset => "subset"
  | .greater => ">"
  | .atLeast => ">="
  | .search => "=~"

/-- The word of a quantifier. -/
def quantifierText : Quantifier → String
  | .any => "any"
  | .each => "each"

/-- The expression in query syntax. -/
def text : Expr → String
  | .literal v => literalText v
  | .field path => path.text
  | .component name => "has component " ++ name
  | .within context body =>
    operandText context context.text ++ " -> " ++ operandText body body.text
  | .quantified quantifier context body =>
    quantifierText quantifier ++ " " ++ operandText context context.text ++ " matches " ++
      operandText body body.text
  | .not (.compare .member needle haystack) =>
    operandText needle needle.text ++ " not in " ++ operandText haystack haystack.text
  | .not (.compare .equal left right) =>
    operandText left left.text ++ " is not " ++ operandText right right.text
  | .not operand => "not " ++ operandText operand operand.text
  | .and left right => operandText left left.text ++ " and " ++ operandText right right.text
  | .or left right => operandText left left.text ++ " or " ++ operandText right right.text
  | .compare .subset left right => "subset(" ++ left.text ++ ", " ++ right.text ++ ")"
  | .compare relation left right =>
    operandText left left.text ++ " " ++ relationText relation ++ " " ++
      operandText right right.text
  | .isInstance (.field ⟨[]⟩) typeName => "isa " ++ typeName
  | .isInstance subject typeName => operandText subject subject.text ++ " isa " ++ typeName
  | .arithmetic .add left right => termText left left.text ++ " + " ++ termText right right.text
  | .arithmetic .subtract left right =>
    termText left left.text ++ " - " ++ termText right right.text
  | .arithmetic .multiply left right =>
    if left.isMinusOne then
      if right.isAtom then "-" ++ right.text else "-(" ++ right.text ++ ")"
    else operandText left left.text ++ " * " ++ operandText right right.text
  | .arithmetic .divide left right =>
    operandText left left.text ++ " / " ++ operandText right right.text

end FieldQuery.Expr
