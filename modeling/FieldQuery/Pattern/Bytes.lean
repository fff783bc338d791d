import FieldQuery.Text.Ranges

/-!
# Characters as bytes

A text can be read byte by byte, where a character is one to four bytes.  A range of code
points is then a few sequences of byte ranges: every choice of a byte from each range is a
character, and every character is chosen once.
-/

namespace FieldQuery

open Text

namespace Bytes

/-- Ranges of bytes, one after another. -/
abbrev Sequence := List (Nat × Nat)

/-- How many code points so many trailing bytes tell apart. -/
def span (trailing : Nat) : Nat := Nat.pow 64 trailing

/-- All choices of so many trailing bytes. -/
def fullTail (trailing : Nat) : Sequence :=
  List.replicate trailing (0x80, 0xBF)

/-- The sequences for the numbers from one to another, written with so many trailing bytes
behind a byte that carries the rest of the number on top of a mark.  First bytes that all
trailing bytes may follow make up one sequence. -/
def between (mark : Nat) : (trailing low high : Nat) → List Sequence
  | 0, low, high => [[(mark + low, mark + high)]]
  | trailing + 1, low, high =>
    let unit := span (trailing + 1)
    let first := low / unit
    let last := high / unit
    let behind (byte low high : Nat) : List Sequence :=
      (between 0x80 trailing low high).map ((mark + byte, mark + byte) :: ·)
    if first = last then behind first (low % unit) (high % unit)
    else
      let firstFull := (low + unit - 1) / unit
      let endFull := (high + 1) / unit
      (if firstFull = first then [] else behind first (low % unit) (unit - 1)) ++
        (if firstFull < endFull then
          [(mark + firstFull, mark + endFull - 1) :: fullTail (trailing + 1)] else []) ++
        (if endFull = last then behind last 0 (high % unit) else [])

/-- The blocks of code points with the same number of bytes, with the mark of the first
byte and the number of the others.  Surrogates are in none. -/
def blocks : List (Nat × Nat × Nat × Nat) :=
  [(0, 0x7F, 0, 0), (0x80, 0x7FF, 0xC0, 1), (0x800, 0xD7FF, 0xE0, 2), (0xE000, 0xFFFF, 0xE0, 2),
    (0x10000, 0x10FFFF, 0xF0, 3)]

/-- The sequences for the code points from one to another. -/
def ofRange (low high : Nat) : List Sequence :=
  blocks.flatMap fun (first, last, mark, trailing) =>
    if max low first ≤ min high last then
      between mark trailing (max low first) (min high last)
    else []

/-- The sequences for ranges of code points. -/
def ofRanges (ranges : Ranges) : List Sequence :=
  ranges.flatMap fun (low, high) => ofRange low high

example : ofRange 0x7E 0x81 = [[(0x7E, 0x7F)], [(0xC2, 0xC2), (0x80, 0x81)]] := by decide

end Bytes

end FieldQuery
