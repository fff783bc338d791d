import FieldQuery.Json

/-!
# Writing JSON

A document is written on one line or, set out for reading, with every element on a line
of its own.  Floats have the shortest digits that read back; whole ones keep `.0`, and
very large and very small ones have a power of ten.
-/

namespace FieldQuery.Json

open Number

/-- Floats are positional from `0.00001` up to `10 ^ 16`, and of two shortest decimals
that are equally near the even one is written. -/
def floatLayout : Layout where
  positional := some (-5, 15)
  pointZero := true
  tie := .toEven

/-- A digit of base sixteen. -/
def hexDigit (n : Nat) : Char :=
  Nat.digitChar n

/-- A character in a string. -/
def escapeChar (c : Char) : List Char :=
  if c = '\x22' then ['\\', '\x22']
  else if c = '\\' then ['\\', '\\']
  else if c = '\x08' then ['\\', 'b']
  else if c = '\x0c' then ['\\', 'f']
  else if c = '\n' then ['\\', 'n']
  else if c = '\r' then ['\\', 'r']
  else if c = '\t' then ['\\', 't']
  else if c.toNat < 32 then
    ['\\', 'u', '0', '0', hexDigit (c.toNat / 16), hexDigit (c.toNat % 16)]
  else [c]

/-- A string with its quotes. -/
def quote (s : String) : String :=
  String.ofList ('\x22' :: s.toList.flatMap escapeChar ++ ['\x22'])

/-- A document without inner structure. -/
def scalarText : Json → String
  | .null => "null"
  | .bool b => if b then "true" else "false"
  | .integer n => intText n
  | .float x => floatLayout.write x
  | .string s => quote s
  | .array _ => "[]"
  | .object _ => "\x7b\x7d"

mutual

/-- The document on one line. -/
def text : Json → String
  | .array items => "[" ++ String.intercalate "," (texts items) ++ "]"
  | .object members => "\x7b" ++ String.intercalate "," (memberTexts members) ++ "\x7d"
  | json => json.scalarText

/-- The texts of elements. -/
def texts : List Json → List String
  | [] => []
  | json :: rest => text json :: texts rest

/-- The texts of members. -/
def memberTexts : List (String × Json) → List String
  | [] => []
  | (name, json) :: rest => (quote name ++ ":" ++ text json) :: memberTexts rest

end

/-- The parts of a container on lines of their own, further in than the container. -/
def block (opening closing : String) (indent : Nat) (parts : List String) : String :=
  let line (depth : Nat) : String := "\n" ++ String.ofList (List.replicate (2 * depth) ' ')
  opening ++ line (indent + 1) ++ String.intercalate ("," ++ line (indent + 1)) parts ++
    line indent ++ closing

mutual

/-- The document set out on several lines, from a given depth. -/
def prettyAt (indent : Nat) : Json → String
  | .array [] => "[]"
  | .object [] => "\x7b\x7d"
  | .array items => block "[" "]" indent (prettyTexts (indent + 1) items)
  | .object members => block "\x7b" "\x7d" indent (prettyMembers (indent + 1) members)
  | json => json.scalarText

/-- The texts of elements, set out. -/
def prettyTexts (indent : Nat) : List Json → List String
  | [] => []
  | json :: rest => prettyAt indent json :: prettyTexts indent rest

/-- The texts of members, set out. -/
def prettyMembers (indent : Nat) : List (String × Json) → List String
  | [] => []
  | (name, json) :: rest =>
    (quote name ++ ": " ++ prettyAt indent json) :: prettyMembers indent rest

end

/-- The document set out on several lines. -/
def pretty (json : Json) : String :=
  json.prettyAt 0

end FieldQuery.Json
