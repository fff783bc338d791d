import FieldQuery.Number.Layout
import FieldQuery.Value

/-!
# Text of values

Values are written in query syntax: strings in single quotes, lists in parentheses,
objects in braces.  A whole float is written with all its digits and `.0`, any other
with the shortest digits that read back, never with a power of ten.  Handles are
written as a type name in angle brackets and are not read.
-/

namespace FieldQuery

open Number

/-- Floats in queries are always positional, and of two shortest decimals that are
equally near the greater is written. -/
def floatLayout : Layout where
  positional := none
  pointZero := false
  tie := .up

/-- The text of a float on its own, in which whole numbers have no fraction. -/
def floatText (x : Float) : String :=
  if x.isNaN then "NaN"
  else if x.isInf then if isNegative x then "-inf" else "inf"
  else floatLayout.write x

/-- The text of a float as a literal, in which whole numbers end in `.0`. -/
def floatLiteral (x : Float) : String :=
  if isWhole x then
    (if isNegative x then "-" else "") ++ natText (Binary.ofFloat x).floor ++ ".0"
  else floatText x

namespace Value

/-- A text between brackets, with the parts set apart by commas. -/
def bracketed (opening closing : String) (parts : List String) : String :=
  opening ++ String.intercalate ", " parts ++ closing

mutual

/-- The value in query syntax. -/
def text : Value → String
  | .null => "null"
  | .boolean b => if b then "true" else "false"
  | .integer n => intText n.toInt
  | .float x => floatLiteral x
  | .string s => "'" ++ s ++ "'"
  | .array items => bracketed "(" ")" (itemTexts items)
  | .object fields => bracketed "\x7b" "\x7d" (fieldTexts fields)
  | .record _ name _ => "<" ++ name ++ ">"
  | .superposition _ _ => "<superposition>"

/-- The texts of the elements of a list. -/
def itemTexts : List Value → List String
  | [] => []
  | v :: vs => text v :: itemTexts vs

/-- The texts of named values. -/
def fieldTexts : List (String × Value) → List String
  | [] => []
  | (name, v) :: rest => (name ++ ": " ++ text v) :: fieldTexts rest

end

/-- The value as a bare text: a string without quotes and a whole float without
its fraction.  This is what patterns are matched against. -/
def bareText : Value → String
  | .string s => s
  | .float x => floatText x
  | v => v.text

end Value

end FieldQuery
