/-!
# Digits

Writing natural numbers and integers in base ten, and reading numerals in bases
up to sixteen.  Reading is positional: every digit multiplies what stands before
it by the base.
-/

namespace FieldQuery.Number

/-- Is the character one of `0` to `9`? -/
def isDigit (c : Char) : Bool :=
  '0' ≤ c && c ≤ '9'

/-- Is the character a digit of base sixteen, in either case? -/
def isHexDigit (c : Char) : Bool :=
  isDigit c || ('a' ≤ c && c ≤ 'f') || ('A' ≤ c && c ≤ 'F')

/-- The value of a digit of base sixteen, and zero for any other character. -/
def digitValue (c : Char) : Nat :=
  if isDigit c then c.toNat - '0'.toNat
  else if 'a' ≤ c && c ≤ 'f' then c.toNat - 'a'.toNat + 10
  else if 'A' ≤ c && c ≤ 'F' then c.toNat - 'A'.toNat + 10
  else 0

/-- The number that a list of digits denotes in the given base. -/
def ofDigits (base : Nat) (digits : List Char) : Nat :=
  digits.foldl (fun n c => n * base + digitValue c) 0

/-- The digits of a natural number in base ten. -/
def toDigits (n : Nat) : List Char :=
  Nat.toDigits 10 n

/-- A natural number in base ten. -/
def natText (n : Nat) : String :=
  String.ofList (toDigits n)

/-- An integer in base ten, with a minus sign when it is negative. -/
def intText (n : Int) : String :=
  if n < 0 then "-" ++ natText n.natAbs else natText n.natAbs

end FieldQuery.Number
