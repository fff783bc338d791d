import FieldQuery.Number.Binary

/-!
# Scaled decimals

A scaled decimal is `± coefficient / 10 ^ scale` with a coefficient below
`2 ^ 96` and a scale of at most 28.  Sums and products are exact where the
coefficient has room; otherwise the last places are rounded away, a half going
to the even neighbour, and an operation whose whole part has no room fails.
-/

namespace FieldQuery.Number

/-- The number `± coefficient / 10 ^ scale`. -/
structure Scaled where
  /-- Whether the sign is minus. -/
  negative : Bool
  /-- The digits, below `Scaled.limit`. -/
  coefficient : Nat
  /-- How many of the digits are decimal places, at most `Scaled.maxScale`. -/
  scale : Nat
  deriving DecidableEq, Repr

namespace Scaled

/-- The bound on coefficients. -/
def limit : Nat := Nat.pow 2 96

/-- The greatest scale. -/
def maxScale : Nat := 28

/-- The quotient of two natural numbers as a natural number, a half going to the
even neighbour. -/
def roundDiv (n d : Nat) : Nat :=
  match compare (2 * (n % d)) d with
  | .lt => n / d
  | .gt => n / d + 1
  | .eq => n / d + n / d % 2

/-- The least number of last digits, from `drop` on and at most `drop + fuel`, to
remove so that a coefficient has room. -/
def digitsToDrop (n : Nat) : Nat → Nat → Nat
  | 0, drop => drop
  | fuel + 1, drop => if n / Nat.pow 10 drop < limit then drop else digitsToDrop n fuel (drop + 1)

/-- Rounds any coefficient and scale to a scaled decimal, or fails where the
digits before the point have no room. -/
def fit (negative : Bool) (n scale : Nat) : Option Scaled :=
  let drop := digitsToDrop n (scale + 1) (scale - maxScale)
  if scale < drop then none
  else
    let rounded := roundDiv n (Nat.pow 10 drop)
    if rounded < limit then some ⟨negative, rounded, scale - drop⟩
    else if scale = drop then none
    else some ⟨negative, roundDiv rounded 10, scale - drop - 1⟩

/-! ## Conversions -/

/-- An integer as a scaled decimal. -/
def ofInt (n : Int) : Scaled :=
  ⟨n < 0, n.natAbs, 0⟩

/-- Multiplies by `5 / 10` as often as told: an even coefficient is halved, an odd
one multiplied by five, or halved with loss where it has no room.  The result
carries the power of ten. -/
def halve : Nat → Nat × Int → Nat × Int
  | 0, s => s
  | steps + 1, (n, power) =>
    if n % 2 = 0 then halve steps (n / 2, power + 1)
    else if n * 5 < limit then halve steps (n * 5, power)
    else halve steps (n / 2, power + 1)

/-- Multiplies by `10 / 5` as often as told: the coefficient is doubled, or
divided by five with loss where it has no room. -/
def double : Nat → Nat × Int → Nat × Int
  | 0, s => s
  | steps + 1, (n, power) =>
    if n < limit / 2 then double steps (n * 2, power - 1)
    else double steps (n / 5, power)

/-- Drops the last digit, a five rounding up. -/
def dropDigit (n : Nat) : Nat :=
  n / 10 + (if 5 ≤ n % 10 then 1 else 0)

/-- Drops digits until there are at most `maxScale` places; a coefficient that
vanishes is zero with no places. -/
def dropExcessPlaces : Nat → Nat × Nat → Nat × Nat
  | 0, s => s
  | fuel + 1, (n, places) =>
    if places ≤ maxScale then (n, places)
    else if n < 10 then (0, 0)
    else dropExcessPlaces fuel (dropDigit n, places - 1)

/-- Drops places until the coefficient is below `2 ^ 52`, the digits that a float
can vouch for. -/
def dropUncertainPlaces : Nat → Nat → Nat × Nat
  | n, 0 => (n, 0)
  | n, places + 1 =>
    if n < Nat.pow 2 52 then (n, places + 1) else dropUncertainPlaces (dropDigit n) places

/-- Drops places that hold zeros. -/
def dropZeroPlaces : Nat → Nat → Nat × Nat
  | n, 0 => (n, 0)
  | n, places + 1 => if n % 10 = 0 then dropZeroPlaces (n / 10) places else (n, places + 1)

/-- The scaled decimal near a finite float, or nothing where its whole part has no
room. -/
def ofFloat? (x : Float) : Option Scaled :=
  if !x.isFinite then none
  else
    let b := Binary.ofFloat x
    if b.mantissa = 0 then some ⟨b.negative, 0, 0⟩
    else
      let (n, power) := double b.exponent.toNat (halve (-b.exponent).toNat (b.mantissa, b.exponent))
      if 0 ≤ power then
        let whole := n * Nat.pow 10 power.toNat
        if whole < limit then some ⟨b.negative, whole, 0⟩ else none
      else
        let places := (-power).toNat
        let (n, places) := dropExcessPlaces places (n, places)
        let (n, places) := dropUncertainPlaces n places
        let (n, places) := dropZeroPlaces n places
        some ⟨b.negative, n, places⟩

/-- Is the number whole? -/
def isWhole (d : Scaled) : Bool :=
  d.coefficient % Nat.pow 10 d.scale = 0

/-- The number without its fraction. -/
def toInt (d : Scaled) : Int :=
  let size : Int := ↑(d.coefficient / Nat.pow 10 d.scale)
  if d.negative then -size else size

/-- A power of ten by repeated squaring, which rounds at every product. -/
def floatPower (fuel : Nat) (base result : Float) (n : Nat) : Float :=
  match fuel with
  | 0 => result
  | fuel + 1 =>
    let result := if n % 2 = 1 then result * base else result
    if n / 2 = 0 then result else floatPower fuel (base * base) result (n / 2)

/-- The float for a scaled decimal: whole part and fraction are converted apart,
and the sum is rounded to the places of the decimal. -/
def toFloat (d : Scaled) : Float :=
  let size :=
    if d.scale = 0 then Float.ofNat d.coefficient
    else
      let unit := Nat.pow 10 d.scale
      let whole := Float.ofNat (d.coefficient / unit)
      let fraction := Float.ofNat (d.coefficient % unit) / Float.ofNat unit
      if d.coefficient % unit = 0 then whole
      else
        let places := floatPower 8 (Float.ofNat 10) (Float.ofNat 1) d.scale
        roundHalfAway ((whole + fraction) * places) / places
  if d.negative then -size else size

/-! ## Arithmetic -/

/-- The negated number. -/
def neg (d : Scaled) : Scaled :=
  { d with negative := !d.negative }

/-- The coefficient with its sign, over `10 ^ scale` for a scale that is at least
the number's own. -/
def signedAt (d : Scaled) (scale : Nat) : Int :=
  let n : Int := ↑(d.coefficient * Nat.pow 10 (scale - d.scale))
  if d.negative then -n else n

/-- The sum of two scaled decimals. -/
def add? (a b : Scaled) : Option Scaled :=
  let scale := max a.scale b.scale
  let sum := a.signedAt scale + b.signedAt scale
  fit (sum < 0) sum.natAbs scale

/-- The difference of two scaled decimals. -/
def sub? (a b : Scaled) : Option Scaled :=
  add? a b.neg

/-- The product of two scaled decimals. -/
def mul? (a b : Scaled) : Option Scaled :=
  fit (a.negative != b.negative) (a.coefficient * b.coefficient) (a.scale + b.scale)

/-- The greatest number of further places, at most `most`, for which a quotient
has room. -/
def placesFor (quotient : Nat) : Nat → Nat
  | 0 => 0
  | most + 1 =>
    if quotient * Nat.pow 10 (most + 1) < limit then most + 1 else placesFor quotient most

/-- Long division, up to nine places at a time: the quotient so far, what remains
of the dividend, and the scale, which is negative while places before the point
are missing.  It ends when nothing remains or there is no room, and rounds then. -/
def divide (divisor : Nat) : Nat → Nat → Nat → Int → Option (Nat × Int)
  | 0, _, _, _ => none
  | fuel + 1, quotient, remainder, scale =>
    let extend (places : Nat) : Option (Nat × Int) :=
      let scaled := remainder * Nat.pow 10 places
      let next := quotient * Nat.pow 10 places + scaled / divisor
      let scale := scale + places
      if quotient * Nat.pow 10 places < limit then
        if next < limit then divide divisor fuel next (scaled % divisor) scale
        else if scale < 1 then none
        else
          let sticky := scaled % divisor ≠ 0
          let up := decide (5 < next % 10) ||
            (decide (next % 10 = 5) && (decide sticky || decide (next / 10 % 2 = 1)))
          some (next / 10 + (if up then 1 else 0), scale - 1)
      else none
    if remainder = 0 then
      if 0 ≤ scale then some (quotient, scale)
      else extend (min 9 (-scale).toNat)
    else
      let places := placesFor quotient (min 9 (maxScale - scale).toNat)
      if scale ≠ maxScale ∧ scale + places < 0 then none
      else if places = 0 then
        let rounded := match compare (2 * remainder) divisor with
          | .lt => quotient
          | .gt => quotient + 1
          | .eq => quotient + quotient % 2
        if rounded < limit then some (rounded, scale)
        else if scale < 1 then none
        else some (rounded / 10 + 1, scale - 1)
      else extend places

/-- The quotient of two scaled decimals without places that hold zeros; nothing for a
zero divisor. -/
def div? (a b : Scaled) : Option Scaled :=
  if b.coefficient = 0 then none
  else if a.coefficient = 0 then some ⟨false, 0, 0⟩
  else
    (divide b.coefficient 64 (a.coefficient / b.coefficient) (a.coefficient % b.coefficient)
        ((a.scale : Int) - b.scale)).map fun (quotient, scale) =>
      let (quotient, places) := dropZeroPlaces quotient scale.toNat
      ⟨a.negative != b.negative, quotient, places⟩

end Scaled

end FieldQuery.Number
