import FieldQuery.Text.Blank
import FieldQuery.Text.Letter
import FieldQuery.Text.Numeral

/-!
# Words

A word begins with a letter or an underscore and goes on with letters, numerals and
underscores, of any script.
-/

namespace FieldQuery.Text

/-- Can a word begin with the character? -/
def isWordStart (c : Char) : Bool :=
  isLetter c || c == '_'

/-- Can a word hold the character? -/
def isWordChar (c : Char) : Bool :=
  isLetter c || isNumeral c || c == '_'

/-- What begins a word can go on in one. -/
theorem isWordChar_of_isWordStart {c : Char} (h : isWordStart c = true) : isWordChar c = true := by
  simp only [isWordStart, isWordChar, Bool.or_eq_true] at *
  rcases h with h | h
  · exact .inl (.inl h)
  · exact .inr h

/-- The word at the beginning of a text. -/
def leadingWord (cs : List Char) : List Char :=
  cs.takeWhile isWordChar

/-- A text without the blanks at its beginning. -/
def dropBlanks (cs : List Char) : List Char :=
  cs.dropWhile isBlank

end FieldQuery.Text
