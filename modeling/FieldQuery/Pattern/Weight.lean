import FieldQuery.Pattern
import FieldQuery.Pattern.Bytes
import FieldQuery.Pattern.Spelled

/-!
# The weight of patterns

A pattern is searched for by two automata that read bytes, one forward and one backward.
A counted repetition stands for as many copies of its body, so that a short pattern can
have large automata.  The weight of a pattern is the size of these in bytes; patterns that
are too heavy are refused.

A state takes thirty-two bytes, each of several ways out of it four, and each range of
bytes on the way eight.
-/

namespace FieldQuery

open Text

/-- The sizes of the two automata of a pattern. -/
structure Weight where
  /-- The size of the automaton that reads forward. -/
  forward : Nat
  /-- The size of the automaton that reads backward. -/
  backward : Nat
  deriving DecidableEq, Repr

namespace Weight

instance : Add Weight where
  add a b := ⟨a.forward + b.forward, a.backward + b.backward⟩

/-- The same size for both automata. -/
def both (size : Nat) : Weight := ⟨size, size⟩

/-- The weight of so many copies. -/
def copies (count : Nat) (weight : Weight) : Weight :=
  ⟨count * weight.forward, count * weight.backward⟩

/-- The size of the larger automaton. -/
def larger (weight : Weight) : Nat :=
  max weight.forward weight.backward

/-- The size of a state. -/
def state : Nat := 32

/-- The size of a way out of a state that has several. -/
def way : Nat := 4

/-- The size of a range of bytes on the way out of a state. -/
def range : Nat := 8

/-- The states that the sequences of bytes lead to, each by the sequences that go on from it;
sequences with the same beginning stand together. -/
def continuations : Nat → List Bytes.Sequence → List (List Bytes.Sequence)
  | 0, _ => []
  | depth + 1, sequences =>
    if sequences.all List.isEmpty then []
    else
      sequences :: ((sequences.splitBy fun s t => s.head? == t.head?).map fun group =>
        continuations depth (group.map List.tail)).flatten

/-- The size of the forward automaton for a set, in which states that go on alike are one. -/
def ofSequencesForward (sequences : List Bytes.Sequence) : Nat :=
  state + ((continuations 5 sequences).eraseDups.map fun rest =>
    state + range * (rest.splitBy fun s t => s.head? == t.head?).length).foldl (· + ·) 0

/-- How many elements two lists begin with in common. -/
def commonLength {α : Type} [BEq α] : List α → List α → Nat
  | x :: xs, y :: ys => if x == y then commonLength xs ys + 1 else 0
  | _, _ => 0

/-- The size of the backward automaton for a set, in which sequences share their beginnings
only. -/
def ofSequencesBackward (sequences : List Bytes.Sequence) : Nat :=
  2 * state + (List.zipWith (fun before s => way + state * (s.length - commonLength before s))
    ([] :: sequences) sequences).foldl (· + ·) 0

/-- The weight of a set. -/
def ofSet (set : CharSet) : Weight :=
  let ranges := set.spelled
  match ranges with
  | [(low, high)] =>
    if low = high then both (state * (Bytes.ofRange low high).flatten.length)
    else ofRanges ranges
  | _ => ofRanges ranges
where
  /-- The weight of a set by its ranges. -/
  ofRanges (ranges : Ranges) : Weight :=
    if ranges.all fun r => r.2 < 0x80 then both (2 * state + range * ranges.length)
    else
      let sequences := Bytes.ofRanges ranges
      ⟨ofSequencesForward sequences, ofSequencesBackward sequences⟩

end Weight

namespace Pattern

/-- Does the pattern read no character, however it matches? -/
def readsNothing : Pattern → Bool
  | .empty | .assertion _ => true
  | .one _ => false
  | .group body => body.readsNothing
  | .sequence first second | .either first second => first.readsNothing && second.readsNothing
  | .repeated body _ most => body.readsNothing || most == some 0

/-- Does the pattern read a character, however it matches? -/
def readsAlways : Pattern → Bool
  | .empty | .assertion _ => false
  | .one _ => true
  | .group body => body.readsAlways
  | .sequence first second => first.readsAlways || second.readsAlways
  | .either first second => first.readsAlways && second.readsAlways
  | .repeated body least _ => least != 0 && body.readsAlways

/-- The set of a choice between characters. -/
def choiceSet? : Pattern → Option CharSet
  | .one set => some set
  | .either first second =>
    match first.choiceSet?, second.choiceSet? with
    | some a, some b => some (a ∪ b)
    | _, _ => none
  | _ => none

/-- The pattern in a form that is lighter: what is repeated and reads nothing is repeated once
at most, and what is empty is left out. -/
def lightened : Pattern → Pattern
  | .empty => .empty
  | .one set => .one set
  | .assertion a => .assertion a
  | .group body => .group body.lightened
  | .sequence first second =>
    match first.lightened, second.lightened with
    | .empty, second => second
    | first, .empty => first
    | first, second => .sequence first second
  | .either first second => .either first.lightened second.lightened
  | .repeated body least most =>
    let (least, most) :=
      if body.readsNothing then (min least 1, some (min (most.getD 1) 1)) else (least, most)
    if most = some 0 then .empty
    else if least = 1 && most = some 1 then body.lightened
    else .repeated body.lightened least most

open Weight in
/-- The weight of a pattern in its lighter form.  The flag tells whether it is one of several
alternatives, to which it adds itself.  A choice between characters weighs as a set. -/
def weightIn (inChoice : Bool) : Pattern → Weight
  | .empty | .assertion _ => alternative (both state)
  | .one set => alternative (ofSet set)
  | .group body => alternative (⟨2 * state, 0⟩ + body.weightIn false)
  | .sequence first second => alternative (first.weightIn false + second.weightIn false)
  | .either first second =>
    let choice := first.weightIn true + second.weightIn true
    if inChoice then choice
    else match first.choiceSet?, second.choiceSet? with
      | some a, some b => ofSet (a ∪ b)
      | _, _ => both (2 * state) + choice
  | .repeated body least most =>
    let weight := body.weightIn false
    let loop := both (state + 2 * way)
    alternative <| match most with
    | none =>
      if least = 0 && !body.readsAlways then both (3 * state + 4 * way) + weight
      else weight.copies (max least 1) + loop
    | some most =>
      let required := if least = 0 then both state else weight.copies least
      if most = least then required
      else if least = 0 && most = 1 then both (2 * state + 2 * way) + weight
      else required + both state + (weight + loop).copies (most - least)
where
  /-- An alternative has a way that leads to it. -/
  alternative (weight : Weight) : Weight :=
    if inChoice then both way + weight else weight

/-- The weight of a pattern, with that of a loop before it that looks for its beginning, and
of a state behind it. -/
def weight (pattern : Pattern) : Nat :=
  (Weight.both (4 * Weight.state + 2 * Weight.way + Weight.range) +
    (Pattern.group pattern.lightened).weightIn false).larger

/-- The greatest weight of a pattern: ten mebibytes. -/
def maxWeight : Nat := 10 * Nat.pow 2 20

end Pattern

end FieldQuery
