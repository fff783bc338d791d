import FieldQuery.Ledger
import FieldQuery.Pattern.Search
import FieldQuery.Solve.Error
import FieldQuery.Value.Equality

/-!
# Comparing values

A comparison of superpositions holds if it holds for some pairing of their candidates.
`Value.search` goes through the pairings in order, those of the first left candidate
first, and stops at the first that passes the test.  The right side is copied before
the left side is walked, so that no superposition is read twice.

No value is never equal to anything and is never found in anything; in an order it
makes the comparison false.
-/

namespace FieldQuery

/-- A computation that reads superpositions and can go wrong at its node. -/
abbrev Judging := ExceptT Fault Reading

namespace Value

/-! ## Pairings of candidates -/

section

variable (ignores : Value → Bool) (test : Value → Value → Judging Bool)

mutual

/-- Does some candidate on the right pass the test with a plain value on the left? -/
def searchRight (left : Value) : Value → Judging Bool
  | .superposition handle candidates => do
    if ← handle.ask then searchRightAll left handle candidates else return false
  | right => if ignores right then return false else test left right

/-- Does some of the candidates that are left pass the test? -/
def searchRightAll (left : Value) (handle : Handle) : List Value → Judging Bool
  | [] => return false
  | candidate :: rest => do
    handle.take
    if ← searchRight left candidate then return true else searchRightAll left handle rest

end

mutual

/-- Does some pairing of candidates pass the test?  Values that are to be ignored pass
with none. -/
def search : Value → Value → Judging Bool
  | .superposition handle candidates, right => do
    if ignores right then return false
    else
      let copy ← settle right
      if ← handle.ask then searchAll handle copy candidates else return false
  | left, right => if ignores left then return false else searchRight ignores test left right

/-- Does some of the candidates on the left that are left pass the test with some
candidate on the right? -/
def searchAll (handle : Handle) (right : Value) : List Value → Judging Bool
  | [] => return false
  | candidate :: rest => do
    handle.take
    if ← search candidate right then return true else searchAll handle right rest

end

end

/-! ## Equality -/

/-- Are two values equal, for some pairing of their candidates? -/
def equivalent (left right : Value) : Judging Bool :=
  search isNull (fun a b => return numericallySame a b) left right

/-- Is some element of a list equal to a value? -/
def equivalentToAny (v : Value) : List Value → Judging Bool
  | [] => return false
  | item :: rest => do
    if ← equivalent v item then return true else equivalentToAny v rest

/-! ## Order -/

/-- The order of two plain values, if they have one: numbers by size, an integer beside
a float being rounded to one first, and strings by the code points of their characters. -/
def order : Value → Value → Except Fault (Option Ordering)
  | .null, _ | _, .null => .ok none
  | .integer a, .integer b => .ok (some (compare a.toInt b.toInt))
  | .string a, .string b => .ok (some (compare a b))
  | .integer a, .float b => .ok (floatOrder (floatOfInt a) b)
  | .float a, .integer b => .ok (floatOrder a (floatOfInt b))
  | .float a, .float b => .ok (floatOrder a b)
  | a, b => .error (.type (.noOrder a.typeName b.typeName))
where
  /-- The order of two floats, unless one is NaN. -/
  floatOrder (a b : Float) : Option Ordering :=
    if a < b then some .lt
    else if a == b then some .eq
    else if b < a then some .gt
    else none

/-- Does some pairing of candidates have an order that is accepted? -/
def ordered (accepts : Ordering → Bool) (left right : Value) : Judging Bool :=
  search (fun _ => false) (fun a b => return (← order a b).any accepts) left right

/-! ## Membership -/

/-- Does a text occur in another one? -/
def occursIn (needle : List Char) : List Char → Bool
  | [] => needle.isEmpty
  | c :: cs => needle.isPrefixOf (c :: cs) || occursIn needle cs

/-- Is a plain value an element, a candidate, a part of a text or a field name? -/
def memberOf (needle : Value) : Value → Judging Bool
  | .null => return false
  | .array items => equivalentToAny needle items
  | .superposition handle candidates => do
    if ← handle.ask then candidateEquivalent handle candidates else return false
  | haystack =>
    match needle, haystack with
    | .string part, .string whole => return occursIn part.toList whole.toList
    | .string name, .object fields => return (lookup name fields).isSome
    | _, _ => throw (.type (.membership needle.typeName haystack.typeName))
where
  /-- Is some of the candidates that are left equal to the needle? -/
  candidateEquivalent (handle : Handle) : List Value → Judging Bool
    | [] => return false
    | candidate :: rest => do
      handle.take
      if ← equivalent needle candidate then return true else candidateEquivalent handle rest

mutual

/-- Is some candidate of the left side in the right side? -/
def member : Value → Value → Judging Bool
  | .null, _ => return false
  | .superposition handle candidates, haystack => do
    if haystack.isNull then return false
    else
      let copy ← settle haystack
      if ← handle.ask then memberAll handle copy candidates else return false
  | needle, haystack => memberOf needle haystack

/-- Is some of the candidates that are left in the right side? -/
def memberAll (handle : Handle) (haystack : Value) : List Value → Judging Bool
  | [] => return false
  | candidate :: rest => do
    handle.take
    if ← member candidate haystack then return true else memberAll handle haystack rest

end

/-! ## Subsets -/

/-- Collections are arrays, superpositions and no value, which is empty. -/
def isCollection : Value → Bool
  | .null | .array _ | .superposition _ _ => true
  | _ => false

/-- The elements of a collection, all of which are read. -/
def elements : Value → Reading (List Value)
  | .null => return []
  | .superposition handle candidates => handle.readAll candidates
  | .array items => return items
  | v => return [v]

/-- Is every element equal to one of the others?  The elements are taken with the given
action. -/
def allIn (take : Reading Unit) (others : List Value) : List Value → Judging Bool
  | [] => return true
  | element :: rest => do
    take
    if ← equivalentToAny element others then allIn take others rest else return false

/-- Is every element of the left side an element of the right side? -/
def subset (left right : Value) : Judging Bool := do
  if !left.isCollection then throw (.type (.noCollection left.typeName))
  if !right.isCollection then throw (.type (.noCollection right.typeName))
  let others ← right.elements
  match left with
  | .superposition handle candidates =>
    if ← handle.ask then allIn handle.take others candidates else return true
  | .array items => allIn (pure ()) others items
  | _ => return true

/-! ## Patterns -/

mutual

/-- Is a pattern found in the text of some candidate? -/
def matched (pattern : Pattern) : Value → Judging Bool
  | .null => return false
  | .superposition handle candidates => do
    if ← handle.ask then matchedAny pattern handle candidates else return false
  | .string s => return pattern.foundIn s.toList
  | .integer n => return pattern.foundIn (bareText (.integer n)).toList
  | .float x => return pattern.foundIn (bareText (.float x)).toList
  | .boolean b => return pattern.foundIn (bareText (.boolean b)).toList
  | v => throw (.type (.noSubject v.typeName))

/-- Is a pattern found in some of the candidates that are left? -/
def matchedAny (pattern : Pattern) (handle : Handle) : List Value → Judging Bool
  | [] => return false
  | candidate :: rest => do
    handle.take
    if ← matched pattern candidate then return true else matchedAny pattern handle rest

end

/-- Is the pattern on the right found in the left side? -/
def searched (subject pattern : Value) : Judging Bool :=
  match pattern with
  | .null => return false
  | .string s =>
    match Pattern.ofText? s.toList with
    | some p => matched p subject
    | none => throw .badPattern
  | v => throw (.type (.noPattern v.typeName))

end Value

namespace Comparison

/-- Does a comparison of two values hold? -/
def holds : Comparison → Value → Value → Judging Bool
  | .equal, l, r => l.equivalent r
  | .member, l, r => l.member r
  | .subset, l, r => l.subset r
  | .greater, l, r => l.ordered (· == .gt) r
  | .atLeast, l, r => l.ordered (· != .lt) r
  | .search, l, r => l.searched r

end Comparison

end FieldQuery
