import FieldQuery.Pattern.Reader

/-!
# Searching for patterns

A search keeps track of the places that can be reached, one truth value for each place
before, between and after the characters of the text.  A pattern turns the places where
it may begin into the places where it may end; it is found if it can end anywhere when
it may begin everywhere.
-/

namespace FieldQuery

/-- For every place in a text, whether it is reached. -/
abbrev Places := List Bool

namespace Places

/-- The places in either of two sets. -/
def union (a b : Places) : Places :=
  List.zipWith (· || ·) a b

/-- The places behind one more character of a set. -/
def step (text : List Char) (set : CharSet) (places : Places) : Places :=
  false :: List.zipWith (fun reached c => reached && set.contains c) places text

/-- The characters on both sides of every place. -/
def surroundings (before : Option Char) : List Char → List (Option Char × Option Char)
  | [] => [(before, none)]
  | c :: cs => (before, some c) :: surroundings (some c) cs

/-- The places where a condition holds. -/
def filter (text : List Char) (a : Assertion) (places : Places) : Places :=
  List.zipWith (fun reached (before, after) => reached && a.holds before after) places
    (surroundings none text)

/-- Applies a step a number of times, or until it changes nothing. -/
def iterate (advance : Places → Places) : Nat → Places → Places
  | 0, places => places
  | n + 1, places =>
    let next := advance places
    if next = places then places else iterate advance n next

/-- Applies a step up to a number of times and keeps all places on the way. -/
def accumulate (advance : Places → Places) : Nat → Places → Places
  | 0, places => places
  | n + 1, places =>
    let more := places.union (advance places)
    if more = places then places else accumulate advance n more

end Places

namespace Pattern

/-- The places where the pattern may end, given those where it may begin. -/
def advance (text : List Char) : Pattern → Places → Places
  | .empty, places => places
  | .one set, places => places.step text set
  | .assertion a, places => places.filter text a
  | .group body, places => body.advance text places
  | .sequence first second, places => second.advance text (first.advance text places)
  | .either first second, places =>
    (first.advance text places).union (second.advance text places)
  | .repeated body least most, places =>
    let required := Places.iterate (body.advance text) least places
    match most with
    | none => Places.accumulate (body.advance text) (text.length + 1) required
    | some most => Places.accumulate (body.advance text) (most - least) required

/-- Does the pattern occur in the text? -/
def foundIn (pattern : Pattern) (text : List Char) : Bool :=
  (pattern.advance text (List.replicate (text.length + 1) true)).any id

end Pattern

end FieldQuery
