import FieldQuery.Pattern.CaseFold
import FieldQuery.Text.Ranges

/-!
# Sets of characters

The sets that patterns are made of, kept as the set operations that describe them.  A
set is not spelled out for that: membership of one character is worked out when it is
asked for.
-/

namespace FieldQuery

open Text

/-- A set of code points. -/
inductive CharSet where
  /-- The code points of a table. -/
  | table (ranges : Ranges)
  /-- The code points in either set. -/
  | union (a b : CharSet)
  /-- The code points in both sets. -/
  | intersection (a b : CharSet)
  /-- The code points in the first set only. -/
  | difference (a b : CharSet)
  /-- The code points in one of the sets only. -/
  | symmetricDifference (a b : CharSet)
  /-- The code points that are not in the set. -/
  | complement (a : CharSet)
  /-- The code points with a case variant in the set. -/
  | caseClosure (a : CharSet)
  /-- The code points with a case variant in the set, only the letters from `a` to `z`
  having one. -/
  | asciiCaseClosure (a : CharSet)

namespace CharSet

instance : Union CharSet := ⟨.union⟩

instance : Inter CharSet := ⟨.intersection⟩

instance : SDiff CharSet := ⟨.difference⟩

/-- The code points from one to another. -/
def range (low high : Nat) : CharSet := .table [(low, high)]

/-- A single code point. -/
def single (n : Nat) : CharSet := range n n

/-- No code point. -/
def empty : CharSet := .table []

/-- The letters from `a` to `z` in the other case. -/
def asciiCaseVariants (n : Nat) : List Nat :=
  if 'a'.toNat ≤ n && n ≤ 'z'.toNat then [n, n - 32]
  else if 'A'.toNat ≤ n && n ≤ 'Z'.toNat then [n, n + 32]
  else [n]

/-- Is the code point in the set? -/
def holds : CharSet → Nat → Bool
  | .table ranges, n => ranges.holds n
  | .union a b, n => a.holds n || b.holds n
  | .intersection a b, n => a.holds n && b.holds n
  | .difference a b, n => a.holds n && !b.holds n
  | .symmetricDifference a b, n => a.holds n != b.holds n
  | .complement a, n => !a.holds n
  | .caseClosure a, n => (CaseFold.variants n).any fun variant => a.holds variant
  | .asciiCaseClosure a, n => (asciiCaseVariants n).any fun variant => a.holds variant

/-- Is the character in the set? -/
def contains (set : CharSet) (c : Char) : Bool :=
  set.holds c.toNat

end CharSet

end FieldQuery
