import FieldQuery.Pattern.Category
import FieldQuery.Pattern.CharSet
import FieldQuery.Pattern.Emoji
import FieldQuery.Pattern.Property
import FieldQuery.Pattern.Script
import FieldQuery.Text.Blank
import FieldQuery.Text.Ranges

/-!
# Classes of characters for cutting texts

The classes that Unicode 16 sorts characters into so that a text can be cut into what is
seen as one character, into words, and into sentences.  In each of the three ways a
character is in one class at most.
-/

namespace FieldQuery

open Text Property

namespace CharSet

/-- The code points of a list. -/
def ofList (points : List Nat) : CharSet :=
  .table (points.map fun n => (n, n))

/-- The carriage return. -/
def carriageReturn : CharSet := .single 0xD

/-- The line feed. -/
def lineFeed : CharSet := .single 0xA

/-- The joiner of width zero. -/
def zeroWidthJoiner : CharSet := .single 0x200D

/-- The characters that end a line beside carriage return and line feed. -/
def paragraphEnds : CharSet := .ofList [0x85, 0x2028, 0x2029]

end CharSet

/-! ## What is seen as one character -/

namespace Grapheme

/-- Further signs that belong to the consonant after them. -/
def otherPrepended : Ranges := [
  (0xD4E, 0xD4E), (0x111C2, 0x111C3), (0x113D1, 0x113D1), (0x1193F, 0x1193F), (0x11941, 0x11941),
  (0x11A3A, 0x11A3A), (0x11A84, 0x11A89), (0x11D46, 0x11D46), (0x11F02, 0x11F02)]

/-- Marks that take space and are seen as characters of their own. -/
def loneMarks : Ranges := [
  (0x102B, 0x102C), (0x1038, 0x1038), (0x1062, 0x1064), (0x1067, 0x106D), (0x1083, 0x1083),
  (0x1087, 0x108C), (0x108F, 0x108F), (0x109A, 0x109C), (0x1A61, 0x1A61), (0x1A63, 0x1A64),
  (0xAA7B, 0xAA7B), (0xAA7D, 0xAA7D), (0x11720, 0x11721)]

/-- Signs that go before a character. -/
def prepended : CharSet :=
  .table prependedMarks ∪ .table otherPrepended

/-- Controls and separators. -/
def control : CharSet :=
  (Category.setOf [.Cc, .Cf, .Zl, .Zp] ∪ (unassigned ∩ defaultIgnorable)) \
    (.ofList [0xA, 0xD, 0x200C, 0x200D] ∪ .table prependedMarks ∪ graphemeExtend)

/-- What goes on with the character before it. -/
def extend : CharSet :=
  graphemeExtend ∪ .table Emoji.modifiers

/-- Marks that take space beside the character before them. -/
def spacingMark : CharSet :=
  (Category.Mc.set \ (graphemeExtend ∪ .table loneMarks)) ∪ .ofList [0xE33, 0xEB3]

/-- Syllables of Hangul without a final consonant, one for every twenty-eight. -/
def openSyllables : Ranges :=
  (List.range 399).map fun i => (0xAC00 + 28 * i, 0xAC00 + 28 * i)

/-- The classes by their names. -/
def classes : List (List String × CharSet) := [
  (["cr"], .carriageReturn),
  (["lf"], .lineFeed),
  (["control", "cn"], control),
  (["extend", "ex"], extend),
  (["zwj"], .zeroWidthJoiner),
  (["prepend", "pp"], prepended),
  (["spacingmark", "sm"], spacingMark),
  (["regionalindicator", "ri"], .table regionalIndicators),
  (["l"], .range 0x1100 0x115F ∪ .range 0xA960 0xA97C),
  (["v"], .table [(0x1160, 0x11A7), (0xD7B0, 0xD7C6), (0x16D63, 0x16D63), (0x16D67, 0x16D6A)]),
  (["t"], .range 0x11A8 0x11FF ∪ .range 0xD7CB 0xD7FB),
  (["lv"], .table openSyllables),
  (["lvt"], .range 0xAC00 0xD7A3 \ .table openSyllables)]

end Grapheme

/-! ## Sentences -/

namespace Sentence

/-- Full stops, which may also end an abbreviation. -/
def fullStops : CharSet := .ofList [0x2E, 0x2024, 0xFE52, 0xFF0E]

/-- Signs in the midst of a sentence. -/
def inner : Ranges := [
  (0x2C, 0x2D), (0x3A, 0x3B), (0x37E, 0x37E), (0x55D, 0x55D), (0x60C, 0x60D), (0x7F8, 0x7F8),
  (0x1802, 0x1802), (0x1808, 0x1808), (0x2013, 0x2014), (0x3001, 0x3001), (0xFE10, 0xFE11),
  (0xFE13, 0xFE14), (0xFE31, 0xFE32), (0xFE50, 0xFE51), (0xFE54, 0xFE55), (0xFE58, 0xFE58),
  (0xFE63, 0xFE63), (0xFF0C, 0xFF0D), (0xFF1A, 0xFF1B), (0xFF64, 0xFF64)]

/-- Quotes that are no quotes by their category. -/
def otherQuotes : Ranges := [
  (0x22, 0x22), (0x27, 0x27), (0x275B, 0x2760), (0x2E00, 0x2E01), (0x2E06, 0x2E08),
  (0x2E0B, 0x2E0B), (0x1F676, 0x1F678)]

/-- Signs in numbers beside their digits. -/
def inNumbers : Ranges := [
  (0x600, 0x605), (0x66B, 0x66C), (0x6DD, 0x6DD), (0x890, 0x891), (0x8E2, 0x8E2),
  (0x19DA, 0x19DA), (0x110BD, 0x110BD), (0x110CD, 0x110CD)]

/-- Digits and what stands among them. -/
def numeric : CharSet :=
  Category.Nd.set ∪ .table inNumbers

/-- What goes on with the character before it. -/
def extend : CharSet :=
  graphemeExtend ∪ Category.Mc.set ∪ .zeroWidthJoiner

/-- Small letters.  Georgian has two scripts and no case to begin a sentence with. -/
def lower : CharSet :=
  lowercase \ (graphemeExtend ∪ .range 0x10D0 0x10FA ∪ .range 0x10FD 0x10FF)

/-- Capital letters. -/
def upper : CharSet :=
  (uppercase ∪ Category.Lt.set) \ (.range 0x1C90 0x1CBA ∪ .range 0x1CBD 0x1CBF)

/-- Letters that are neither small nor capital. -/
def otherLetter : CharSet :=
  (alphabetic ∪ .single 0x5F3) \ (lower ∪ upper ∪ extend)

/-- The classes by their names. -/
def classes : List (List String × CharSet) := [
  (["cr"], .carriageReturn),
  (["lf"], .lineFeed),
  (["sep", "se"], .paragraphEnds),
  (["sp"], .table blanks \ (.carriageReturn ∪ .lineFeed ∪ .paragraphEnds)),
  (["extend", "ex"], extend),
  (["format", "fo"], Category.Cf.set \ (numeric ∪ extend)),
  (["lower", "lo"], lower),
  (["upper", "up"], upper),
  (["oletter", "le"], otherLetter),
  (["numeric", "nu"], numeric),
  (["aterm", "at"], fullStops),
  (["sterm", "st"], .table sentenceTerminals \ fullStops),
  (["scontinue", "sc"], .table inner),
  (["close", "cl"], Category.setOf [.Ps, .Pe, .Pi, .Pf] ∪ .table otherQuotes)]

end Sentence

/-! ## Words -/

namespace Word

/-- Signs that count as letters. -/
def otherLetters : Ranges := [
  (0xB8, 0xB8), (0x2C2, 0x2C5), (0x2D2, 0x2D7), (0x2DE, 0x2DF), (0x2E5, 0x2EB), (0x2ED, 0x2ED),
  (0x2EF, 0x2FF), (0x55A, 0x55C), (0x55E, 0x55E), (0x58A, 0x58A), (0x5F3, 0x5F3), (0x70F, 0x70F),
  (0xA708, 0xA716), (0xA720, 0xA721), (0xA789, 0xA78A), (0xAB5B, 0xAB5B)]

/-- Signs that stand in words of Katakana. -/
def otherKatakana : Ranges := [
  (0x3031, 0x3035), (0x309B, 0x309C), (0x30A0, 0x30A0), (0x30FC, 0x30FC), (0xFF70, 0xFF70)]

/-- Katakana. -/
def katakana : CharSet :=
  .table Script.katakana ∪ .table otherKatakana

/-- What goes on with the character before it. -/
def extend : CharSet :=
  graphemeExtend ∪ Category.Mc.set ∪ .table Emoji.modifiers

/-- The letters of Hebrew, which have signs of their own for abbreviations. -/
def hebrewLetter : CharSet :=
  Category.Lo.set ∩ .table Script.hebrew

/-- The letters of the scripts that are written without blanks between words. -/
def unspaced : CharSet :=
  [Script.thai, Script.lao, Script.myanmar, Script.khmer, Script.taiLe, Script.newTaiLue,
      Script.taiTham, Script.taiViet, Script.ahom].foldl
    (fun set ranges => set ∪ .table ranges) .empty ∩ alphabetic

/-- Letters of the scripts that are written with blanks between words. -/
def letter : CharSet :=
  ((alphabetic \ unspaced) ∪ .table otherLetters) \
    (.table ideographs ∪ katakana ∪ .table Script.hiragana ∪ extend ∪ hebrewLetter)

/-- Digits and what stands among them. -/
def numeric : CharSet :=
  Sentence.numeric \ .single 0x66C

/-- The classes by their names. -/
def classes : List (List String × CharSet) := [
  (["cr"], .carriageReturn),
  (["lf"], .lineFeed),
  (["newline", "nl"], .range 0xB 0xC ∪ .paragraphEnds),
  (["extend"], extend),
  (["zwj"], .zeroWidthJoiner),
  (["format", "fo"],
    Category.Cf.set \ (Sentence.numeric ∪ extend ∪ .range 0x200B 0x200D ∪ .single 0x70F)),
  (["regionalindicator", "ri"], .table regionalIndicators),
  (["katakana", "ka"], katakana),
  (["hebrewletter", "hl"], hebrewLetter),
  (["aletter", "le"], letter),
  (["numeric", "nu"], numeric),
  (["extendnumlet", "ex"], Category.Pc.set ∪ .single 0x202F),
  (["midletter", "ml"], .ofList [0x3A, 0xB7, 0x387, 0x55F, 0x5F4, 0x2027, 0xFE13, 0xFE55, 0xFF1A]),
  (["midnum", "mn"], .ofList [0x2C, 0x3B, 0x37E, 0x589, 0x60C, 0x60D, 0x66C, 0x7F8, 0x2044, 0xFE50,
    0xFE54, 0xFF0C, 0xFF1B]),
  (["midnumlet", "mb"], .ofList [0x2E, 0x2018, 0x2019, 0x2024, 0xFE52, 0xFF07, 0xFF0E]),
  (["singlequote", "sq"], .single 0x27),
  (["doublequote", "dq"], .single 0x22),
  (["wsegspace"], Category.Zs.set \ .ofList [0xA0, 0x2007, 0x202F])]

end Word

end FieldQuery
