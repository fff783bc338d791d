import FieldQuery.Pattern.CharSet

/-!
# Patterns

The regular expressions that texts are searched for.  A pattern is searched for and not
captured, so that it does not matter which of several ways to match is taken: groups match
like their bodies, and their names and how greedy a repetition is leave no trace.
-/

namespace FieldQuery

open Text

/-- A condition on the place between two characters. -/
inductive Assertion where
  /-- The beginning of the text. -/
  | textStart
  /-- The end of the text. -/
  | textEnd
  /-- The beginning of a line, which ends in a line feed. -/
  | lineStart
  /-- The end of a line, which ends in a line feed. -/
  | lineEnd
  /-- The beginning of a line, which ends in a carriage return, a line feed or both. -/
  | anyLineStart
  /-- The end of a line, which ends in a carriage return, a line feed or both. -/
  | anyLineEnd
  /-- The beginning or end of a word. -/
  | wordBoundary (word : CharSet)
  /-- Neither the beginning nor the end of a word. -/
  | noWordBoundary (word : CharSet)
  /-- The beginning of a word. -/
  | wordStart (word : CharSet)
  /-- The end of a word. -/
  | wordEnd (word : CharSet)
  /-- No word character comes before. -/
  | wordStartHalf (word : CharSet)
  /-- No word character comes after. -/
  | wordEndHalf (word : CharSet)

/-- A regular expression. -/
inductive Pattern where
  /-- The empty text. -/
  | empty
  /-- One character of a set. -/
  | one (set : CharSet)
  /-- The empty text where a condition holds. -/
  | assertion (a : Assertion)
  /-- A group whose place in the text can be asked for. -/
  | group (body : Pattern)
  /-- One pattern after another. -/
  | sequence (first second : Pattern)
  /-- Either of two patterns. -/
  | either (first second : Pattern)
  /-- A pattern repeated so many times, without a bound if there is no greatest number. -/
  | repeated (body : Pattern) (least : Nat) (most : Option Nat)

namespace Assertion

/-- Does the condition hold between two characters, which at an end of the text are
missing? -/
def holds (before after : Option Char) : Assertion → Bool
  | .textStart => before.isNone
  | .textEnd => after.isNone
  | .lineStart => before.isNone || before == some '\n'
  | .lineEnd => after.isNone || after == some '\n'
  | .anyLineStart =>
    before.isNone || before == some '\n' || (before == some '\r' && after != some '\n')
  | .anyLineEnd =>
    after.isNone || after == some '\r' || (after == some '\n' && before != some '\r')
  | .wordBoundary word => before.any word.contains != after.any word.contains
  | .noWordBoundary word => before.any word.contains == after.any word.contains
  | .wordStart word => !before.any word.contains && after.any word.contains
  | .wordEnd word => before.any word.contains && !after.any word.contains
  | .wordStartHalf word => !before.any word.contains
  | .wordEndHalf word => !after.any word.contains

end Assertion

end FieldQuery
