import FieldQuery.Json

/-!
# Reading JSON

Reading is strict: one document, nothing but blanks around it, no more than 127
containers in one another, and no number beyond the floats.  A number that is no integer
of 64 bits is read as its first digits, as many as 64 bits hold, times a power of ten,
and that product is rounded by float arithmetic.
-/

namespace FieldQuery.Json

open Number

/-- The greatest number of containers in one another. -/
def maxDepth : Nat := 127

/-- The blanks of JSON. -/
def isBlank (c : Char) : Bool :=
  c == ' ' || c == '\n' || c == '\t' || c == '\r'

/-- The characters behind any blanks. -/
def skipBlanks (cs : List Char) : List Char :=
  cs.dropWhile isBlank

/-! ## Numbers -/

/-- The bound on the digits of a number that are kept. -/
def significandLimit : Nat := Nat.pow 2 64

/-- Digits as a number, as many as there is room for, and the number of the others. -/
def keepDigits (n : Nat) : List Char → Nat × Nat
  | [] => (n, 0)
  | c :: cs =>
    let more := n * 10 + digitValue c
    if more < significandLimit then keepDigits more cs else (n, cs.length + 1)

/-- Multiplies or divides by powers of ten of at most 308.  A number that leaves the
floats is none. -/
def scaleFloat (fuel : Nat) (x : Float) (power : Int) : Option Float :=
  let unit (n : Nat) : Float := Float.ofScientific 1 false n
  match fuel with
  | 0 => none
  | fuel + 1 =>
    if power.natAbs ≤ 308 then
      if 0 ≤ power then
        let product := x * unit power.natAbs
        if product.isInf then none else some product
      else some (x / unit power.natAbs)
    else if x == 0 then some x
    else if 0 ≤ power then none
    else scaleFloat fuel (x / unit 308) (power + 308)

/-- The float for the kept digits of a number and a power of ten. -/
def makeFloat (negative : Bool) (significand : Nat) (power : Int) : Option Float := do
  let size ← scaleFloat (power.natAbs / 308 + 2) (Float.ofNat significand) power
  return if negative then -size else size

/-- The bound on powers of ten: a number with a power of this many is out of range or
zero. -/
def powerLimit : Nat := Nat.pow 2 31

/-- Reads a power of ten, from behind its `e`, and then gives the float. -/
def readPower (negative : Bool) (significand : Nat) (start : Int) (cs : List Char) :
    Option (Float × List Char) := do
  let (minus, cs) := match cs with
    | '+' :: cs => (false, cs)
    | '-' :: cs => (true, cs)
    | cs => (false, cs)
  let digits := cs.takeWhile isDigit
  let rest := cs.drop digits.length
  if digits.isEmpty then none
  else
    let power := ofDigits 10 digits
    if power < powerLimit then
      let total :=
        if minus then max (start - power) (-powerLimit) else min (start + power) (powerLimit - 1)
      return (← makeFloat negative significand total, rest)
    else if significand ≠ 0 ∧ !minus then none
    else return (if negative then -(0.0 : Float) else 0.0, rest)

/-- Reads what is behind the digits before the point, of which `dropped` were not kept. -/
def readFloat (negative : Bool) (significand dropped : Nat) (cs : List Char) :
    Option (Float × List Char) :=
  match cs with
  | '.' :: cs =>
    let digits := cs.takeWhile isDigit
    let rest := cs.drop digits.length
    if digits.isEmpty then none
    else
      let (significand, unused) := keepDigits significand digits
      let power : Int := dropped - (digits.length - unused : Nat)
      match rest with
      | 'e' :: rest => readPower negative significand power rest
      | 'E' :: rest => readPower negative significand power rest
      | rest => do return (← makeFloat negative significand power, rest)
  | 'e' :: cs => readPower negative significand dropped cs
  | 'E' :: cs => readPower negative significand dropped cs
  | cs => do return (← makeFloat negative significand dropped, cs)

/-- Is this a fraction or power of ten? -/
def goesOn (cs : List Char) : Bool :=
  match cs.head? with
  | some c => c == '.' || c == 'e' || c == 'E'
  | none => false

/-- Reads a number, from behind its minus sign. -/
def readNumber (negative : Bool) (cs : List Char) : Option (Json × List Char) := do
  let digits := cs.takeWhile isDigit
  let rest := cs.drop digits.length
  if digits.isEmpty || (digits.head? == some '0' && digits.length ≠ 1) then none
  else
    let (significand, dropped) := keepDigits 0 digits
    if dropped = 0 && !goesOn rest then
      if !negative then return (.integer significand, rest)
      else if 0 < significand && significand ≤ Nat.pow 2 63 then
        return (.integer (-significand), rest)
      else return (.float (-(Float.ofNat significand)), rest)
    else
      let (x, rest) ← readFloat negative significand dropped rest
      return (.float x, rest)

/-! ## Strings -/

/-- The number that four hexadecimal digits denote. -/
def readUnit : List Char → Option (Nat × List Char)
  | a :: b :: c :: d :: rest =>
    if [a, b, c, d].all isHexDigit then some (ofDigits 16 [a, b, c, d], rest) else none
  | _ => none

/-- Reads a character by its number, from behind `\u`.  One beyond the first plane has
two numbers. -/
def readEscapedUnit (cs : List Char) : Option (Char × List Char) := do
  let (high, rest) ← readUnit cs
  if 0xDC00 ≤ high ∧ high ≤ 0xDFFF then none
  else if 0xD800 ≤ high ∧ high ≤ 0xDBFF then
    match rest with
    | '\\' :: 'u' :: rest =>
      let (low, rest) ← readUnit rest
      if 0xDC00 ≤ low ∧ low ≤ 0xDFFF then
        return (Char.ofNat (0x10000 + (high - 0xD800) * 0x400 + (low - 0xDC00)), rest)
      else none
    | _ => none
  else return (Char.ofNat high, rest)

/-- The character for an escape of one letter. -/
def escapedChar? : Char → Option Char
  | '\x22' => some '\x22'
  | '\\' => some '\\'
  | '/' => some '/'
  | 'b' => some '\x08'
  | 'f' => some '\x0c'
  | 'n' => some '\n'
  | 'r' => some '\r'
  | 't' => some '\t'
  | _ => none

/-- Reads a string, from behind its opening quote.  The text so far is last character
first. -/
def readString : Nat → List Char → List Char → Option (String × List Char)
  | 0, _, _ => none
  | _ + 1, _, [] => none
  | fuel + 1, before, c :: cs =>
    if c = '\x22' then some (String.ofList before.reverse, cs)
    else if c = '\\' then
      match cs with
      | 'u' :: cs => do
        let (c, rest) ← readEscapedUnit cs
        readString fuel (c :: before) rest
      | e :: cs => do
        let c ← escapedChar? e
        readString fuel (c :: before) cs
      | [] => none
    else if c.toNat < 32 then none
    else readString fuel (c :: before) cs

/-! ## Documents -/

/-- Reads a word that stands for a document. -/
def readWord (word : String) (json : Json) (cs : List Char) : Option (Json × List Char) :=
  if word.toList.isPrefixOf cs then some (json, cs.drop word.toList.length) else none

mutual

/-- Reads a document with at most so many containers in one another. -/
def readValue : Nat → Nat → List Char → Option (Json × List Char)
  | 0, _, _ => none
  | fuel + 1, depth, cs =>
    match skipBlanks cs with
    | 'n' :: cs => readWord "ull" .null cs
    | 't' :: cs => readWord "rue" (.bool true) cs
    | 'f' :: cs => readWord "alse" (.bool false) cs
    | '-' :: cs => readNumber true cs
    | '\x22' :: cs => do
      let (s, rest) ← readString (cs.length + 1) [] cs
      return (.string s, rest)
    | '[' :: cs =>
      if depth = 0 then none
      else
        match skipBlanks cs with
        | ']' :: rest => some (.array [], rest)
        | cs => do
          let (items, rest) ← readItems fuel (depth - 1) cs
          return (.array items, rest)
    | '\x7b' :: cs =>
      if depth = 0 then none
      else
        match skipBlanks cs with
        | '\x7d' :: rest => some (.object [], rest)
        | cs => do
          let (members, rest) ← readMembers fuel (depth - 1) cs
          return (ofMembers members, rest)
    | cs => readNumber false cs

/-- Reads the elements of an array and its closing bracket. -/
def readItems : Nat → Nat → List Char → Option (List Json × List Char)
  | 0, _, _ => none
  | fuel + 1, depth, cs => do
    let (json, rest) ← readValue fuel depth cs
    match skipBlanks rest with
    | ',' :: rest => do
      let (items, rest) ← readItems fuel depth rest
      return (json :: items, rest)
    | ']' :: rest => return ([json], rest)
    | _ => none

/-- Reads the members of an object and its closing brace. -/
def readMembers : Nat → Nat → List Char → Option (List (String × Json) × List Char)
  | 0, _, _ => none
  | fuel + 1, depth, cs => do
    match skipBlanks cs with
    | '\x22' :: cs =>
      let (name, rest) ← readString (cs.length + 1) [] cs
      match skipBlanks rest with
      | ':' :: rest =>
        let (json, rest) ← readValue fuel depth rest
        match skipBlanks rest with
        | ',' :: rest =>
          let (members, rest) ← readMembers fuel depth rest
          return ((name, json) :: members, rest)
        | '\x7d' :: rest => return ([(name, json)], rest)
        | _ => none
      | _ => none
    | _ => none

end

/-- The document that a text is, if it is one. -/
def ofText? (source : String) : Option Json := do
  let cs := source.toList
  let (json, rest) ← readValue (cs.length + 1) maxDepth cs
  if (skipBlanks rest).isEmpty then some json else none

end FieldQuery.Json
