/-!
# Floats as exact binary fractions

A finite float is `± mantissa · 2 ^ exponent`.  Everything that has to be exact
about a float, such as its digits, is computed on this form.
-/

namespace FieldQuery.Number

/-- The number `± mantissa · 2 ^ exponent`. -/
structure Binary where
  /-- Whether the sign is minus. -/
  negative : Bool
  /-- The integer that the power of two scales. -/
  mantissa : Nat
  /-- The power of two. -/
  exponent : Int
  deriving DecidableEq, Repr

namespace Binary

/-- The exact value of a finite float; the sign of zero is kept. -/
def ofFloat (x : Float) : Binary :=
  let bits := x.toBits.toNat
  let fraction := bits % Nat.pow 2 52
  let power := bits / Nat.pow 2 52 % Nat.pow 2 11
  { negative := bits / Nat.pow 2 63 = 1
    mantissa := if power = 0 then fraction else fraction + Nat.pow 2 52
    exponent := (max power 1 : Nat) - 1075 }

/-- The size of the number as a fraction of natural numbers. -/
def ratio (b : Binary) : Nat × Nat :=
  (b.mantissa * Nat.pow 2 b.exponent.toNat, Nat.pow 2 (-b.exponent).toNat)

/-- Is the number whole? -/
def isWhole (b : Binary) : Bool :=
  b.ratio.1 % b.ratio.2 = 0

/-- The size of the number without its fraction. -/
def floor (b : Binary) : Nat :=
  b.ratio.1 / b.ratio.2

end Binary

/-- Is the sign bit of the float set? -/
def isNegative (x : Float) : Bool :=
  (Binary.ofFloat x).negative

/-- Is the float a whole number? -/
def isWhole (x : Float) : Bool :=
  x.isFinite && (Binary.ofFloat x).isWhole

/-- The nearest whole number, a half going away from zero; floats that are not
finite stay as they are. -/
def roundHalfAway (x : Float) : Float :=
  if isWhole x || !x.isFinite then x
  else
    let b := Binary.ofFloat x
    let whole := Float.ofNat ((2 * b.ratio.1 + b.ratio.2) / (2 * b.ratio.2))
    if b.negative then -whole else whole

end FieldQuery.Number
