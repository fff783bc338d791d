import FieldQuery.Number.Digits
import FieldQuery.Number.Shortest

/-!
# Layouts of float text

A layout says how the shortest digits of a float are set out: which sizes are
written positionally, whether whole numbers keep a fraction, and how ties among
equally short decimals go.
-/

namespace FieldQuery.Number

/-- How the digits of a float are set out. -/
structure Layout where
  /-- The least and the greatest power of ten of the leading digit that are
  written positionally, where `none` means all. -/
  positional : Option (Int × Int)
  /-- Whether a whole number ends in `.0`. -/
  pointZero : Bool
  /-- Which of two equally near decimals is written. -/
  tie : Tie

namespace Layout

/-- Digits and power of ten written out in full. -/
def writePositional (pointZero : Bool) (digits : List Char) (exponent : Int) : List Char :=
  if 0 ≤ exponent then
    digits ++ List.replicate exponent.toNat '0' ++ (if pointZero then ['.', '0'] else [])
  else
    let places := (-exponent).toNat
    if places < digits.length then
      digits.take (digits.length - places) ++ '.' :: digits.drop (digits.length - places)
    else
      ['0', '.'] ++ List.replicate (places - digits.length) '0' ++ digits

/-- Digits with a point after the first and a signed power of ten. -/
def writeScientific (digits : List Char) (power : Int) : List Char :=
  let sign := if power < 0 then '-' else '+'
  let rest := digits.drop 1
  digits.take 1 ++ (if rest.isEmpty then [] else '.' :: rest) ++ 'e' :: sign ::
    toDigits power.natAbs

/-- The text of a finite float. -/
def write (layout : Layout) (x : Float) : String :=
  let d := Decimal.shortest layout.tie x
  let digits := toDigits d.coefficient
  let power := d.exponent + digits.length - 1
  let positional :=
    match layout.positional with
    | none => true
    | some (least, greatest) => decide (least ≤ power ∧ power ≤ greatest)
  let body :=
    if positional then writePositional layout.pointZero digits d.exponent
    else writeScientific digits power
  String.ofList (if isNegative x then '-' :: body else body)

end Layout

end FieldQuery.Number
