import FieldQuery.Pattern.Category
import FieldQuery.Pattern.CharSet
import FieldQuery.Pattern.Edition
import FieldQuery.Pattern.Property
import FieldQuery.Pattern.Script
import FieldQuery.Pattern.Segment
import FieldQuery.Text.Blank

/-!
# Character sets with names

The sets that a pattern can name: the short classes for digits, blanks and word
characters, the ASCII classes in double brackets, and the Unicode properties.  All of
them are about the characters of Unicode 16.
-/

namespace FieldQuery.CharSet

open Text

/-! ## Short classes -/

/-- Every code point of a character. -/
def all : CharSet := range 0 0x10FFFF

/-- The decimal digits of all scripts. -/
def digits : CharSet := Category.Nd.set

/-- White space. -/
def spaces : CharSet := .table blanks

/-- What can stand in a word: letters, marks, digits, connectors and joiners. -/
def wordChars : CharSet :=
  Property.alphabetic ∪ Category.setOf [.Mn, .Mc, .Me, .Nd, .Pc] ∪ .table Property.joiners

/-! ## ASCII classes -/

/-- The code points of a character range. -/
def between (low high : Char) : CharSet := range low.toNat high.toNat

/-- The digits `0` to `9`. -/
def asciiDigits : CharSet := between '0' '9'

/-- The letters `a` to `z`. -/
def asciiLower : CharSet := between 'a' 'z'

/-- The letters `A` to `Z`. -/
def asciiUpper : CharSet := between 'A' 'Z'

/-- The letters in both cases. -/
def asciiLetters : CharSet := asciiUpper ∪ asciiLower

/-- The letters, digits and underscore. -/
def asciiWordChars : CharSet := asciiDigits ∪ asciiLetters ∪ between '_' '_'

/-- Tab, line feed, vertical tab, form feed, carriage return and the blank. -/
def asciiSpaces : CharSet := range 9 13 ∪ between ' ' ' '

/-- The ASCII class with a name, as in `[[:alpha:]]`. -/
def asciiClass? : String → Option CharSet
  | "alnum" => some (asciiDigits ∪ asciiLetters)
  | "alpha" => some asciiLetters
  | "ascii" => some (range 0 0x7F)
  | "blank" => some (range 9 9 ∪ between ' ' ' ')
  | "cntrl" => some (range 0 0x1F ∪ range 0x7F 0x7F)
  | "digit" => some asciiDigits
  | "graph" => some (between '!' '~')
  | "lower" => some asciiLower
  | "print" => some (between ' ' '~')
  | "punct" =>
    some (between '!' '/' ∪ between ':' '@' ∪ range 0x5B 0x60 ∪ range 0x7B 0x7E)
  | "space" => some asciiSpaces
  | "upper" => some asciiUpper
  | "word" => some asciiWordChars
  | "xdigit" => some (asciiDigits ∪ between 'A' 'F' ∪ between 'a' 'f')
  | _ => none

/-! ## Unicode properties -/

/-- A name of a property or value as it is compared: without case, blanks, hyphens,
underscores, characters beyond ASCII and a leading `is`. -/
def normalizedName (cs : List Char) : String :=
  let lower (c : Char) : Char := if 'A' ≤ c && c ≤ 'Z' then Char.ofNat (c.toNat + 32) else c
  let kept (cs : List Char) : List Char :=
    (cs.map lower).filter fun c => c.toNat < 128 && c != ' ' && c != '_' && c != '-'
  match cs.map lower with
  | 'i' :: 's' :: rest => if kept rest = ['c'] then "isc" else String.ofList (kept rest)
  | lowered => String.ofList (kept lowered)

/-- The set for a name of a general category, or for a few names that stand beside them.
Code points of no character are a category of their own and count among the others. -/
def category? (name : String) : Option CharSet :=
  match name with
  | "any" => some all
  | "ascii" => some (range 0 0x7F)
  | "assigned" => some (.complement Property.unassigned)
  | "cn" | "unassigned" => some Property.unassigned
  | "c" | "other" => some (Category.setOf [.Cc, .Cf, .Co] ∪ Property.unassigned)
  | _ => (Category.ofName? name).map Category.setOf

/-- The set for one of the named classes into which texts are cut. -/
def segmentClass? (classes : List (List String × CharSet)) (name : String) : Option CharSet :=
  (classes.find? fun entry => entry.1.contains name).map (·.2)

/-- The set for a property with a value, as in `\p{Script=Greek}`. -/
def propertyValue? (property value : String) : Option CharSet :=
  match property with
  | "generalcategory" | "gc" => category? value
  | "script" | "sc" => (Script.ofName? value).map Script.set
  | "scriptextensions" | "scx" => (Script.ofName? value).map Script.useSet
  | "age" => Edition.setUpTo? value
  | "graphemeclusterbreak" | "gcb" => segmentClass? Grapheme.classes value
  | "wordbreak" | "wb" => segmentClass? Word.classes value
  | "sentencebreak" | "sb" => segmentClass? Sentence.classes value
  | _ => none

/-- The set for a lone name, as in `\p{Greek}`: that of a property if there is one with the
name, or else of a category, or else of a script. -/
def named? (name : String) : Option CharSet :=
  (Property.ofName? name).or ((category? name).or ((Script.ofName? name).map Script.set))

end FieldQuery.CharSet
