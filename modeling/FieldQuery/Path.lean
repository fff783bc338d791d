/-!
# Field paths

A path is the list of field names that lead from one value to another.  In text the
names are set apart by `/` or `.`; the empty path is the value at hand and is written
as a lone point.
-/

namespace FieldQuery

/-- The names of the fields to follow, outermost first. -/
structure Path where
  /-- The field names. -/
  segments : List String
  deriving DecidableEq, Repr, Inhabited

namespace Path

/-- The path of the value at hand. -/
def current : Path := ⟨[]⟩

/-- Is this the path of the value at hand? -/
def isCurrent (p : Path) : Bool :=
  p.segments.isEmpty

/-- Does the character set the names of a path apart? -/
def isSeparator (c : Char) : Bool :=
  c == '/' || c == '.'

/-- The pieces between separators, empty ones left out.  The first argument holds
the piece that is being read, last character first. -/
def pieces : List Char → List Char → List String
  | [], [] => []
  | word, [] => [String.ofList word.reverse]
  | word, c :: cs =>
    if isSeparator c then
      if word.isEmpty then pieces [] cs else String.ofList word.reverse :: pieces [] cs
    else pieces (c :: word) cs

/-- The path that a text spells. -/
def ofText (text : String) : Path :=
  ⟨pieces [] text.toList⟩

/-- The path in text, with `/` between the names. -/
def text (p : Path) : String :=
  if p.isCurrent then "." else String.intercalate "/" p.segments

end Path

end FieldQuery
