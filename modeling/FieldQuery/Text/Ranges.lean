/-!
# Sets of code points written as ranges

Properties of characters are tables of closed ranges in increasing order.  A
look-up walks the table and stops at the first range that begins above the
character, so characters with low code points are decided in a few steps.
-/

namespace FieldQuery.Text

/-- Closed ranges of code points, in increasing order. -/
abbrev Ranges := List (Nat × Nat)

/-- Does some range hold the code point? -/
def Ranges.holds : Ranges → Nat → Bool
  | [], _ => false
  | (low, high) :: rest, n => if n < low then false else n ≤ high || Ranges.holds rest n

/-- Does some range hold the character? -/
def Ranges.contains (table : Ranges) (c : Char) : Bool :=
  table.holds c.toNat

end FieldQuery.Text
