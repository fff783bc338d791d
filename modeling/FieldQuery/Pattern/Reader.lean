import FieldQuery.Number.Digits
import FieldQuery.Pattern
import FieldQuery.Pattern.Named
import FieldQuery.Pattern.Weight
import FieldQuery.Text.Word

/-!
# Reading patterns

Patterns are read in one pass with the flags of the group at hand.  A flag directive
counts up to the end of its group.  Of a piece that was read there is kept the pattern
and how deeply its parts are nested, which is bounded.

Texts are sequences of characters, so that with the Unicode flag off a pattern may only
hold sets within ASCII: what it would add beyond are single bytes of characters.
-/

namespace FieldQuery

open Text

namespace Pattern

/-- How a pattern is read. -/
structure Flags where
  /-- Letters stand for both cases. -/
  ignoreCase : Bool := false
  /-- `^` and `$` are about lines. -/
  multiLine : Bool := false
  /-- A point stands for line ends also. -/
  dotAll : Bool := false
  /-- Blanks and comments do not count. -/
  verbose : Bool := false
  /-- Sets are about all characters, and not bytes. -/
  unicode : Bool := true
  /-- Carriage returns end lines also. -/
  carriageReturns : Bool := false

/-- The state of reading: the characters that are left, the flags, and the names of the
groups so far. -/
structure State where
  /-- The characters that are left. -/
  rest : List Char
  /-- The flags. -/
  flags : Flags
  /-- The names of groups. -/
  names : List String

/-- A computation that reads a pattern, or fails where there is none. -/
abbrev Read := StateT State Option

/-- A pattern and how deeply its parts are nested. -/
structure Part where
  /-- The pattern. -/
  pattern : Pattern
  /-- The depth of its parts. -/
  depth : Nat

/-- The greatest depth of parts. -/
def maxDepth : Nat := 250

namespace Read

/-! ## Characters -/

/-- The next character. -/
def peek : Read (Option Char) := do
  return (← get).rest.head?

/-- Moves behind the next character. -/
def advance : Read Unit :=
  modify fun s => { s with rest := s.rest.drop 1 }

/-- Moves behind the next character and gives it. -/
def next : Read Char := do
  match (← get).rest with
  | [] => failure
  | c :: cs =>
    modify fun s => { s with rest := cs }
    return c

/-- Moves behind the given text, if it comes next. -/
def accept (text : String) : Read Bool := do
  let s ← get
  if text.toList.isPrefixOf s.rest then
    set { s with rest := s.rest.drop text.toList.length }
    return true
  else return false

/-- The text without blanks and comments at its beginning; the flag tells whether a
comment is going on. -/
def dropSpace : Bool → List Char → List Char
  | _, [] => []
  | true, c :: cs => dropSpace (c != '\n') cs
  | false, c :: cs =>
    if isBlank c then dropSpace false cs
    else if c == '#' then dropSpace true cs
    else c :: cs

/-- Moves behind blanks and comments, where they do not count. -/
def skipSpace : Read Unit :=
  modify fun s => if s.flags.verbose then { s with rest := dropSpace false s.rest } else s

/-- Moves behind the next character and anything that does not count. -/
def advanceSpace : Read Unit := do
  advance
  skipSpace

/-- Fails at the end of the pattern. -/
def notAtEnd : Read Unit := do
  if (← peek).isNone then failure

/-- Reads characters of a kind; there are at most as many as characters are left. -/
def many (kind : Char → Bool) : Nat → Read (List Char)
  | 0 => return []
  | fuel + 1 => do
    match ← peek with
    | some c =>
      if kind c then
        advanceSpace
        return c :: (← many kind fuel)
      else return []
    | none => return []

/-- Reads all next characters of a kind. -/
def manyOf (kind : Char → Bool) : Read (List Char) := do
  many kind (← get).rest.length

/-! ## Escapes -/

/-- What a character or escape stands for. -/
inductive Atom where
  /-- A character; the flag tells whether it was written as a byte. -/
  | char (n : Nat) (byte : Bool)
  /-- A set of characters. -/
  | set (set : CharSet)
  /-- A condition. -/
  | assertion (a : Assertion)
  /-- Any character. -/
  | dot

/-- Do the characters beyond ASCII that are bytes keep out of a set? -/
def isAscii (set : CharSet) : Bool :=
  (List.range 128).all fun n => !set.holds (n + 128)

/-- The set for a class, negated or not.  Without the Unicode flag it has to be in
ASCII. -/
def negateIf (negated : Bool) (set : CharSet) : Read CharSet := do
  let set := if negated then .complement set else set
  if (← get).flags.unicode then return set
  else if isAscii set then return .intersection set (.range 0 0x7F)
  else failure

/-- The set with case variants, where letters stand for both cases. -/
def closeCase (set : CharSet) : Read CharSet := do
  let flags := (← get).flags
  return if !flags.ignoreCase then set
    else if flags.unicode then .caseClosure set
    else .asciiCaseClosure set

/-- The set for a short class such as `\d`. -/
def shortClass (c : Char) : Read CharSet := do
  let unicode := (← get).flags.unicode
  match c with
  | 'd' => negateIf false (if unicode then .digits else .asciiDigits)
  | 'D' => negateIf true (if unicode then .digits else .asciiDigits)
  | 's' => negateIf false (if unicode then .spaces else .asciiSpaces)
  | 'S' => negateIf true (if unicode then .spaces else .asciiSpaces)
  | 'w' => negateIf false (if unicode then .wordChars else .asciiWordChars)
  | _ => negateIf true (if unicode then .wordChars else .asciiWordChars)

/-- The code point that hexadecimal digits denote, if it is that of a character. -/
def scalar (digits : List Char) : Read Nat :=
  let n := Number.ofDigits 16 digits
  if n.isValidChar then return n else failure

/-- Reads so many hexadecimal digits. -/
def hexDigits : Nat → Read (List Char)
  | 0 => return []
  | count + 1 => do
    match ← peek with
    | some c =>
      if Number.isHexDigit c then
        advanceSpace
        return c :: (← hexDigits count)
      else failure
    | none => failure

/-- Reads a character in base sixteen, from behind the letter for its number of
digits. -/
def hex (count : Nat) : Read Atom := do
  skipSpace
  if (← peek) = some '\x7b' then
    advanceSpace
    let digits ← manyOf Number.isHexDigit
    if digits.isEmpty || (← peek) != some '\x7d' then failure
    advanceSpace
    return .char (← scalar digits) false
  else
    let n ← scalar (← hexDigits count)
    return .char n (count == 2)

/-- The parts of a property name before and after its operator `!=`, `:` or `=`, the first
of which that occurs at all counts. -/
def splitProperty? (cs : List Char) : Option (List Char × List Char) :=
  (splitAtUnequal cs).or ((splitAt ':' cs).or (splitAt '=' cs))
where
  /-- The parts before and after `!=`. -/
  splitAtUnequal : List Char → Option (List Char × List Char)
    | [] => none
    | '!' :: '=' :: value => some ([], value)
    | c :: cs => (splitAtUnequal cs).map fun (name, value) => (c :: name, value)
  /-- The parts before and after a character. -/
  splitAt (separator : Char) (cs : List Char) : Option (List Char × List Char) :=
    match cs.span (· ≠ separator) with
    | (_, []) => none
    | (name, _ :: value) => some (name, value)

/-- The set for the text in the braces of a Unicode class.  All its operators mean that the
property has the value; only a `P` before the braces negates. -/
def propertySet? (text : List Char) : Option CharSet :=
  match splitProperty? text with
  | some (name, value) =>
    CharSet.propertyValue? (CharSet.normalizedName name) (CharSet.normalizedName value)
  | none => CharSet.named? (CharSet.normalizedName text)

/-- Reads the name of a Unicode class: one letter, or a text in braces. -/
def className : Read CharSet := do
  let c ← next
  if c = '\x7b' then
    skipSpace
    let text ← manyOf (· ≠ '\x7d')
    notAtEnd
    advance
    propertySet? text
  else if c = '\\' then failure
  else
    skipSpace
    CharSet.named? (CharSet.normalizedName [c])

/-- Reads a Unicode class, from behind its `p` or `P`. -/
def unicodeClass (negated : Bool) : Read CharSet := do
  skipSpace
  let set ← className
  if !(← get).flags.unicode then failure
  let set ← closeCase set
  return if negated then .complement set else set

/-- The characters that count as words do, for assertions. -/
def wordSet : Read CharSet := do
  return if (← get).flags.unicode then .wordChars else .asciiWordChars

/-- Reads what may come in braces after `\b`, such as `\b{start}`. -/
def wordBoundary : Read Assertion := do
  let word ← wordSet
  let plain ← get
  if (← peek) = some '\x7b' then
    advanceSpace
    let isNameChar (c : Char) : Bool := ('A' ≤ c && c ≤ 'Z') || ('a' ≤ c && c ≤ 'z') || c == '-'
    match ← peek with
    | none => failure
    | some c =>
      if isNameChar c then
        let name ← manyOf isNameChar
        if (← peek) != some '\x7d' then failure
        advance
        match String.ofList name with
        | "start" => return .wordStart word
        | "end" => return .wordEnd word
        | "start-half" => return .wordStartHalf word
        | "end-half" => return .wordEndHalf word
        | _ => failure
      else
        set plain
        return .wordBoundary word
  else return .wordBoundary word

/-- Is the character one that may be escaped to stand for itself?  Those are the
characters of ASCII but letters, digits and angle brackets. -/
def isEscapable (c : Char) : Bool :=
  c.toNat < 128 && !(Number.isDigit c || ('a' ≤ c && c ≤ 'z') || ('A' ≤ c && c ≤ 'Z') ||
    c == '<' || c == '>')

/-- Reads an escape, from behind its backslash. -/
def escape : Read Atom := do
  let c ← next
  match c with
  | 'x' => hex 2
  | 'u' => hex 4
  | 'U' => hex 8
  | 'p' => return .set (← unicodeClass false)
  | 'P' => return .set (← unicodeClass true)
  | 'a' => return .char 7 false
  | 'f' => return .char 12 false
  | 't' => return .char 9 false
  | 'n' => return .char 10 false
  | 'r' => return .char 13 false
  | 'v' => return .char 11 false
  | 'A' => return .assertion .textStart
  | 'z' => return .assertion .textEnd
  | 'b' => return .assertion (← wordBoundary)
  | 'B' => return .assertion (.noWordBoundary (← wordSet))
  | '<' => return .assertion (.wordStart (← wordSet))
  | '>' => return .assertion (.wordEnd (← wordSet))
  | c =>
    if ['d', 'D', 's', 'S', 'w', 'W'].contains c then return .set (← shortClass c)
    else if isEscapable c then return .char c.toNat false
    else failure

/-! ## Sets in brackets -/

/-- A set and how deeply its parts are nested. -/
structure SetPart where
  /-- The set. -/
  set : CharSet
  /-- The depth of its parts. -/
  depth : Nat

/-- The operators between sets. -/
inductive SetOperator where
  /-- `&&` -/
  | intersection
  /-- `--` -/
  | difference
  /-- `~~` -/
  | symmetricDifference

/-- The set of one of several parts. -/
def unionOf (parts : List SetPart) : SetPart :=
  match parts with
  | [] => ⟨.empty, 0⟩
  | [part] => part
  | parts =>
    ⟨parts.foldl (fun set part => .union set part.set) .empty,
      (parts.map (·.depth)).foldl max 0 + 1⟩

/-- A set joined to what stands before it. -/
def combine (before : Option (SetOperator × SetPart)) (part : SetPart) : Read SetPart := do
  match before with
  | none => return part
  | some (operator, left) =>
    let a ← closeCase left.set
    let b ← closeCase part.set
    let set : CharSet := match operator with
      | .intersection => .intersection a b
      | .difference => .difference a b
      | .symmetricDifference => .symmetricDifference a b
    return ⟨set, max left.depth part.depth + 1⟩

/-- Reads an ASCII class such as `[:alpha:]`, if there is one. -/
def asciiClass? : Read (Option CharSet) := do
  let start ← get
  let read : Read CharSet := do
    if !(← accept "[:") then failure
    let negated ← accept "^"
    let (name, rest) := (← get).rest.span (· ≠ ':')
    modify fun s => { s with rest }
    if !(← accept ":]") then failure
    let set ← CharSet.asciiClass? (String.ofList name)
    let set ← closeCase set
    return if negated then
      (if start.flags.unicode then .complement set else .difference (.range 0 0xFF) set)
      else set
  fun s => match read s with
    | some (set, s') => some (some set, s')
    | none => some (none, start)

/-- The code point of an atom that can bound a range of a set. -/
def setChar : Atom → Read Nat
  | .char n _ => do
    if !(← get).flags.unicode && 0x7F < n then failure
    return n
  | _ => failure

/-- Reads a character or escape in a set. -/
def setAtom : Read Atom := do
  let c ← next
  if c = '\\' then escape else return .char c.toNat false

/-- Reads a character, range or class in a set. -/
def setItem : Read SetPart := do
  let first ← setAtom
  skipSpace
  notAtEnd
  let behind := (← get).rest.drop 1
  let following := (if (← get).flags.verbose then dropSpace false behind else behind).head?
  if (← peek) != some '-' || following = some ']' || following = some '-' then
    match first with
    | .set set => return ⟨set, 0⟩
    | atom => return ⟨.single (← setChar atom), 0⟩
  else
    advanceSpace
    notAtEnd
    let last ← setAtom
    let low ← setChar first
    let high ← setChar last
    if high < low then failure
    return ⟨.range low high, 0⟩

/-- Reads hyphens that stand for themselves at the beginning of a set. -/
def leadingHyphens : Nat → Read (List SetPart)
  | 0 => return []
  | fuel + 1 => do
    if (← peek) = some '-' then
      advanceSpace
      notAtEnd
      return ⟨.single '-'.toNat, 0⟩ :: (← leadingHyphens fuel)
    else return []

mutual

/-- Reads a set, from behind its opening bracket. -/
def bracket : Nat → Read SetPart
  | 0 => failure
  | fuel + 1 => do
    skipSpace
    notAtEnd
    let negated := (← peek) == some '^'
    if negated then
      advanceSpace
      notAtEnd
    let hyphens ← leadingHyphens (← get).rest.length
    let first ← if hyphens.isEmpty && (← peek) == some ']' then do
        advanceSpace
        notAtEnd
        pure [⟨.single ']'.toNat, 0⟩]
      else pure hyphens
    let content ← setBody fuel none first
    let set ← closeCase content.set
    return ⟨← negateIf negated set, content.depth + 1⟩

/-- Reads the parts of a set up to its closing bracket. -/
def setBody : Nat → Option (SetOperator × SetPart) → List SetPart → Read SetPart
  | 0, _, _ => failure
  | fuel + 1, before, parts => do
    skipSpace
    match ← peek with
    | none => failure
    | some '[' =>
      match ← asciiClass? with
      | some set => setBody fuel before (parts ++ [⟨set, 0⟩])
      | none =>
        advance
        let inner ← bracket fuel
        setBody fuel before (parts ++ [inner])
    | some ']' =>
      advance
      combine before (unionOf parts)
    | some _ =>
      let operator : Option SetOperator ←
        if ← accept "&&" then pure (some .intersection)
        else if ← accept "--" then pure (some .difference)
        else if ← accept "~~" then pure (some .symmetricDifference)
        else pure none
      match operator with
      | some operator =>
        let left ← combine before (unionOf parts)
        setBody fuel (some (operator, left)) []
      | none =>
        let item ← setItem
        setBody fuel before (parts ++ [item])

end

/-! ## Repetitions -/

/-- Reads a decimal count with blanks around it. -/
def count : Read (Option Nat) := do
  modify fun s => { s with rest := s.rest.dropWhile isBlank }
  let digits ← manyOf Number.isDigit
  modify fun s => { s with rest := s.rest.dropWhile isBlank }
  skipSpace
  if digits.isEmpty then return none
  else
    let n := Number.ofDigits 10 digits
    if n < Nat.pow 2 32 then return some n else failure

/-- Reads the greatest number of a counted repetition, if there is a comma. -/
def upperBound (least : Nat) : Read (Option Nat) := do
  if (← peek) = some ',' then
    advanceSpace
    notAtEnd
    if (← peek) = some '\x7d' then return none
    else
      let most ← (← count)
      if most < least then failure
      return some most
  else return some least

/-- Reads the bounds of a counted repetition, from behind the opening brace. -/
def bounds : Read (Nat × Option Nat) := do
  skipSpace
  notAtEnd
  let least ← (← count)
  let most ← upperBound least
  if (← peek) != some '\x7d' then failure
  advance
  return (least, most)

/-- Reads the mark of a repetition that is not greedy. -/
def skipLazyMark : Read Unit := do
  if (← peek) = some '?' then advance

/-- Repeats the last of some parts, which may not be a flag directive. -/
def repeatLast (parts : List (Option Part)) (least : Nat) (most : Option Nat) :
    Read (List (Option Part)) := do
  match parts.getLast? with
  | some (some part) =>
    return parts.dropLast ++ [some ⟨.repeated part.pattern least most, part.depth + 1⟩]
  | _ => failure

/-! ## Groups -/

/-- One part after another, without the flag directives. -/
def sequenceOf (parts : List (Option Part)) : Part :=
  let depth := (parts.filterMap id |>.map (·.depth)).foldl max 0
  match parts.filterMap id with
  | [] => ⟨.empty, 0⟩
  | first :: rest =>
    ⟨rest.foldl (fun pattern part => .sequence pattern part.pattern) first.pattern,
      if parts.length = 1 then depth else depth + 1⟩

/-- Any of several parts. -/
def eitherOf (first : Part) (rest : List Part) : Part :=
  match rest with
  | [] => first
  | rest =>
    ⟨rest.foldl (fun pattern part => .either pattern part.pattern) first.pattern,
      (rest.map (·.depth)).foldl max first.depth + 1⟩

/-- Changes the flag that a letter stands for. -/
def setFlag? (letter : Char) (value : Bool) (flags : Flags) : Option Flags :=
  match letter with
  | 'i' => some { flags with ignoreCase := value }
  | 'm' => some { flags with multiLine := value }
  | 's' => some { flags with dotAll := value }
  | 'U' => some flags
  | 'u' => some { flags with unicode := value }
  | 'R' => some { flags with carriageReturns := value }
  | 'x' => some { flags with verbose := value }
  | _ => none

/-- Applies the letters of a flag directive, each of which may occur once; a hyphen
turns off what follows it and may not come last. -/
def applyFlags : List Char → List Char → Bool → Flags → Option Flags
  | [], seen, value, flags => if !value && seen.head? = some '-' then none else some flags
  | c :: cs, seen, value, flags =>
    if seen.contains c then none
    else if c = '-' then applyFlags cs (c :: seen) false flags
    else do applyFlags cs (c :: seen) value (← setFlag? c value flags)

/-- Reads the name of a group up to its closing bracket. -/
def groupName : Read Unit := do
  let (name, rest) := (← get).rest.span (· ≠ '>')
  match name, rest with
  | first :: others, _ :: rest =>
    let isFirst (c : Char) : Bool := c == '_' || isLetter c
    let isOther (c : Char) : Bool :=
      c == '.' || c == '[' || c == ']' || isWordChar c
    let text := String.ofList name
    if !isFirst first || !others.all isOther || (← get).names.contains text then failure
    modify fun s => { s with rest, names := text :: s.names }
  | _, _ => failure

/-- What a parenthesis opens. -/
inductive Opening where
  /-- A group whose place in the text can be asked for. -/
  | group
  /-- Alternatives that are kept together. -/
  | plain
  /-- Nothing: flags are set up to the end of the group around them. -/
  | directive

/-- Reads what a parenthesis opens, from behind it, and sets the flags that it tells. -/
def opening : Read Opening := do
  skipSpace
  if ← accept "?=" then failure
  if ← accept "?!" then failure
  if ← accept "?<=" then failure
  if ← accept "?<!" then failure
  if (← accept "?P<") || (← accept "?<") then
    groupName
    return .group
  else if ← accept "?" then
    let (letters, rest) := (← get).rest.span fun c => c ≠ ':' && c ≠ ')'
    let flags ← applyFlags letters [] true (← get).flags
    match rest with
    | [] => failure
    | closing :: rest =>
      if closing = ')' && letters.isEmpty then failure
      modify fun s => { s with rest, flags }
      return if closing = ':' then .plain else .directive
  else return .group

/-! ## Patterns -/

/-- The part for an atom outside of sets. -/
def atomPart (atom : Atom) : Read Part := do
  let flags := (← get).flags
  match atom with
  | .char n byte =>
    if byte && !flags.unicode && 0x7F < n then failure
    return ⟨.one (← closeCase (.single n)), 0⟩
  | .set set => return ⟨.one set, 0⟩
  | .assertion a => return ⟨.assertion a, 0⟩
  | .dot =>
    if !flags.unicode then failure
    let lineEnds : CharSet :=
      if flags.dotAll then .empty
      else if flags.carriageReturns then .union (.single 10) (.single 13)
      else .single 10
    return ⟨.one (.complement lineEnds), 0⟩

/-- The atom for a character that is not an operator. -/
def plainAtom (c : Char) : Read Atom := do
  let flags := (← get).flags
  match c with
  | '\\' => escape
  | '.' => return .dot
  | '^' =>
    return .assertion (if !flags.multiLine then .textStart
      else if flags.carriageReturns then .anyLineStart else .lineStart)
  | '$' =>
    return .assertion (if !flags.multiLine then .textEnd
      else if flags.carriageReturns then .anyLineEnd else .lineEnd)
  | c => return .char c.toNat false

/-- Reads alternatives up to the end of a group or of the pattern.  The first list holds
the alternatives so far, last one first, and the second the parts of the one at hand. -/
def alternatives : Nat → List Part → List (Option Part) → Read Part
  | 0, _, _ => failure
  | fuel + 1, before, parts => do
    skipSpace
    let finish : Read Part :=
      match (sequenceOf parts :: before).reverse with
      | first :: rest => return eitherOf first rest
      | [] => failure
    match ← peek with
    | none => finish
    | some ')' => finish
    | some '|' =>
      advance
      alternatives fuel (sequenceOf parts :: before) []
    | some '(' =>
      advance
      let outer := (← get).flags
      match ← opening with
      | .directive => alternatives fuel before (parts ++ [none])
      | opening =>
        let inner ← alternatives fuel [] []
        if (← peek) != some ')' then failure
        advance
        modify fun s => { s with flags := outer }
        let pattern := match opening with
          | .group => .group inner.pattern
          | _ => inner.pattern
        alternatives fuel before (parts ++ [some ⟨pattern, inner.depth + 1⟩])
    | some '[' =>
      advance
      let part ← bracket fuel
      alternatives fuel before (parts ++ [some ⟨.one part.set, part.depth⟩])
    | some '?' =>
      advance
      skipLazyMark
      alternatives fuel before (← repeatLast parts 0 (some 1))
    | some '*' =>
      advance
      skipLazyMark
      alternatives fuel before (← repeatLast parts 0 none)
    | some '+' =>
      advance
      skipLazyMark
      alternatives fuel before (← repeatLast parts 1 none)
    | some '\x7b' =>
      advance
      let (least, most) ← bounds
      skipSpace
      skipLazyMark
      alternatives fuel before (← repeatLast parts least most)
    | some c =>
      advance
      let part ← atomPart (← plainAtom c)
      alternatives fuel before (parts ++ [some part])

end Read

/-- Reads a pattern, if the text is one that is neither too deep nor too heavy. -/
def ofText? (text : List Char) : Option Pattern := do
  let (part, after) ← (Read.alternatives (2 * text.length + 2) [] []).run ⟨text, {}, []⟩
  if after.rest.isEmpty && part.depth ≤ maxDepth && part.pattern.weight ≤ maxWeight then
    some part.pattern
  else none

end Pattern

end FieldQuery
