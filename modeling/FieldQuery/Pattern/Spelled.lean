import FieldQuery.Pattern.CharSet
import FieldQuery.Text.Ranges

/-!
# Sets of characters spelled out

A set as ranges in increasing order with a gap between any two of them.  There is one such
list for every set of code points, so that its length tells how large the set is to write
down.
-/

namespace FieldQuery

open Text

namespace Spelled

/-- The greatest code point. -/
def maxCode : Nat := 0x10FFFF

/-- A range and the ranges after it, where those that touch it are taken into it. -/
def coalesce (low high : Nat) : Ranges → Ranges
  | [] => [(low, high)]
  | (low', high') :: rest =>
    if low' ≤ high + 1 then coalesce low (max high high') rest
    else (low, high) :: coalesce low' high' rest

/-- Ranges in increasing order, with gaps between them. -/
def spaced : Ranges → Ranges
  | [] => []
  | (low, high) :: rest => coalesce low high rest

/-- The code points of either list. -/
def join (a b : Ranges) : Ranges :=
  spaced (a.merge b fun x y => x.1 ≤ y.1)

/-- The code points from a given one on that are in no range. -/
def gapsFrom (start : Nat) : Ranges → Ranges
  | [] => if start ≤ maxCode then [(start, maxCode)] else []
  | (low, high) :: rest =>
    if start < low then (start, low - 1) :: gapsFrom (high + 1) rest
    else gapsFrom (high + 1) rest

/-- The code points in no range. -/
def gaps (a : Ranges) : Ranges :=
  gapsFrom 0 a

/-- The code points of both lists. -/
def meet (a b : Ranges) : Ranges :=
  gaps (join (gaps a) (gaps b))

/-- Single code points, in any order. -/
def ofPoints (points : List Nat) : Ranges :=
  spaced ((points.mergeSort (· ≤ ·)).map fun n => (n, n))

/-- The other code points that differ in case only from one of the ranges, by the pairs of
what folds to what. -/
def variants (pairs : List (Nat × Nat)) (a : Ranges) : Ranges :=
  let folded := (pairs.filter fun (n, m) => a.holds n || a.holds m).map (·.2)
  ofPoints (folded ++ (pairs.filter fun pair => folded.contains pair.2).map (·.1))

/-- The letters of ASCII that fold to others. -/
def asciiPairs : List (Nat × Nat) :=
  (List.range 26).map fun i => ('A'.toNat + i, 'a'.toNat + i)

end Spelled

open Spelled in
/-- The ranges of a set. -/
def CharSet.spelled : CharSet → Ranges
  | .table ranges => spaced ranges
  | .union a b => join a.spelled b.spelled
  | .intersection a b => meet a.spelled b.spelled
  | .difference a b => meet a.spelled (gaps b.spelled)
  | .symmetricDifference a b =>
    join (meet a.spelled (gaps b.spelled)) (meet b.spelled (gaps a.spelled))
  | .complement a => gaps a.spelled
  | .caseClosure a => join a.spelled (variants CaseFold.pairs a.spelled)
  | .asciiCaseClosure a => join a.spelled (variants asciiPairs a.spelled)

example : (CharSet.complement (.single 'a'.toNat)).spelled = [(0, 96), (98, 0x10FFFF)] := by
  decide

end FieldQuery
