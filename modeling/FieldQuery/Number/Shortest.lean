import FieldQuery.Number.Binary

/-!
# Shortest decimal digits

The decimal `coefficient · 10 ^ exponent` that stands for a float is taken from
the coarsest power of ten whose multiples include one that reads back as the
float.  On that grid the nearer of the two neighbours of the float wins; how an
exact tie goes is left to the caller.
-/

namespace FieldQuery.Number

/-- The number `coefficient · 10 ^ exponent`. -/
structure Decimal where
  /-- The integer that the power of ten scales. -/
  coefficient : Nat
  /-- The power of ten. -/
  exponent : Int
  deriving DecidableEq, Repr

/-- Which of two equally near neighbours is taken. -/
inductive Tie where
  /-- The greater one. -/
  | up
  /-- The one whose last digit is even. -/
  | toEven
  deriving DecidableEq, Repr

namespace Decimal

/-- The float nearest to a decimal. -/
def toFloat (d : Decimal) : Float :=
  Float.ofScientific d.coefficient (decide (d.exponent < 0)) d.exponent.natAbs

/-- The neighbour of `num / den` on the grid of multiples of `10 ^ exponent`
that reads back as the float, the nearer one if both do. -/
def onGrid? (tie : Tie) (x : Float) (num den : Nat) (exponent : Int) : Option Decimal :=
  let n := num * Nat.pow 10 (-exponent).toNat
  let d := den * Nat.pow 10 exponent.toNat
  let low : Decimal := ⟨n / d, exponent⟩
  let high : Decimal := ⟨n / d + 1, exponent⟩
  if n % d = 0 then some low
  else
    match decide (low.toFloat = x), decide (high.toFloat = x) with
    | false, false => none
    | true, false => some low
    | false, true => some high
    | true, true =>
      match compare (2 * (n % d)) d, tie with
      | .lt, _ => some low
      | .gt, _ => some high
      | .eq, .up => some high
      | .eq, .toEven => some (if low.coefficient % 2 = 0 then low else high)

/-- The first of the next `fuel` grids, each ten times finer than the one before,
that holds a decimal for the float. -/
def onFinerGrids? (tie : Tie) (x : Float) (num den : Nat) : Nat → Int → Option Decimal
  | 0, _ => none
  | fuel + 1, exponent =>
    (onGrid? tie x num den exponent).or (onFinerGrids? tie x num den fuel (exponent - 1))

/-- The shortest decimal that reads back as the size of a finite float. -/
def shortest (tie : Tie) (x : Float) : Decimal :=
  let b := Binary.ofFloat x
  if b.mantissa = 0 then ⟨0, 0⟩
  else
    let size := x.abs
    let coarsest := ((b.mantissa.log2 + 1 : Nat) + b.exponent) * 30103 / 100000 + 1
    let grids := (coarsest - min b.exponent 0).toNat + 1
    let (num, den) := b.ratio
    (onFinerGrids? tie size num den grids coarsest).getD
      ⟨num * Nat.pow 10 (-b.exponent).toNat / den, min b.exponent 0⟩

end Decimal

end FieldQuery.Number
