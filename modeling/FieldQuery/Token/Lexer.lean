import FieldQuery.Number.Digits
import FieldQuery.Path
import FieldQuery.Text.Word
import FieldQuery.Token

/-!
# Reading tokens from text

`scan` reads the one token at the beginning of a text and says how many characters
it took, also when the text is malformed there.  `Input.next` does so after any
blanks, and `Input.tokens` goes on until the text ends or is malformed.

Words join into a path across `/` or `.` only where a word begins right after the
separator, so that `/` is left for division.  `is not` and `not in` are one token
each, whatever blanks are between the words.
-/

namespace FieldQuery

open Number Text

/-! ## What can be wrong with a text -/

/-- The ways for a text to be malformed. -/
inductive LexCause where
  /-- A string without its closing quote. -/
  | unterminatedString
  /-- A placeholder without its closing brace. -/
  | unterminatedPlaceholder
  /-- A character that cannot stand in a placeholder. -/
  | unexpectedInPlaceholder (c : Char)
  /-- `0x` without a digit. -/
  | noHexDigits
  /-- A numeral that runs into a word or point. -/
  | malformedNumber (c : Char)
  /-- A number above the greatest integer, in base ten or sixteen. -/
  | tooLarge (hex : Bool)
  /-- A lone `=`. -/
  | loneEqual
  /-- A lone `!`. -/
  | loneBang
  /-- A character that begins no token. -/
  | unexpected (c : Char)
  deriving DecidableEq, Repr

/-- The message for a malformed text. -/
def LexCause.message : LexCause → String
  | .unterminatedString => "Unterminated string: missing closing quote"
  | .unterminatedPlaceholder => "Unterminated template placeholder"
  | .unexpectedInPlaceholder c =>
    "Unexpected character '" ++ c.toString ++ "' in template placeholder"
  | .noHexDigits => "Hexadecimal literal has no digits"
  | .malformedNumber c => "Malformed numeric literal: unexpected '" ++ c.toString ++ "'"
  | .tooLarge hex =>
    (if hex then "Invalid hexadecimal literal: " else "Invalid integer: ") ++
      "number too large to fit in target type"
  | .loneEqual => "Unexpected '=' (did you mean '==' or '=~'?)"
  | .loneBang => "Unexpected '!' (did you mean '!='?)"
  | .unexpected c => "Unexpected character '" ++ c.toString ++ "'"

/-- What is wrong with a text, and after how many characters. -/
structure LexError where
  /-- What is wrong. -/
  cause : LexCause
  /-- The number of characters before the place that is to blame. -/
  position : Nat
  deriving DecidableEq, Repr

/-- The message with its position. -/
def LexError.message (e : LexError) : String :=
  e.cause.message ++ " at position " ++ natText e.position

/-! ## One token -/

/-- The outcome of reading one token: the token, or what is wrong and after how many
of its characters; and how many characters were read in either case. -/
structure Scan where
  /-- The token or the fault. -/
  outcome : Except (LexCause × Nat) TokenKind
  /-- The number of characters read. -/
  taken : Nat

namespace Scan

/-- A token of the given length. -/
def found (kind : TokenKind) (taken : Nat) : Scan :=
  ⟨.ok kind, taken⟩

/-- An operator of the given length. -/
def operator (op : Operator) (taken : Nat) : Scan :=
  found (.operator op) taken

/-- A fault that the first character of the token is to blame for. -/
def fault (cause : LexCause) (taken : Nat) : Scan :=
  ⟨.error (cause, 0), taken⟩

end Scan

/-- The path at the beginning of a text, as it is spelled. -/
def leadingPath : List Char → List Char
  | [] => []
  | c :: cs =>
    if isWordChar c || (Path.isSeparator c && (cs.head?.map isWordStart).getD false) then
      c :: leadingPath cs
    else []

/-- The number of characters up to the end of the given word, if it is the next one
after any blanks. -/
def wordAhead? (word : String) (cs : List Char) : Option Nat :=
  let next := dropBlanks cs
  if leadingWord next = word.toList then some (cs.length - next.length + word.toList.length)
  else none

/-- The token for a word or path, given the text after it.  Some words are joined
with the next one. -/
def scanWord (spelling after : List Char) : Scan :=
  let length := spelling.length
  match String.ofList spelling with
  | "is" =>
    match wordAhead? "not" after with
    | some n => .operator (.comparison .isNot) (length + n)
    | none => .operator (.comparison .is) length
  | "not" =>
    match wordAhead? "in" after with
    | some n => .operator (.comparison .notMember) (length + n)
    | none => .found (.keyword .not) length
  | "in" => .operator (.comparison .member) length
  | "and" => .operator .and length
  | "or" => .operator .or length
  | "matches" => .operator (.navigation .matchesWord) length
  | "where" => .operator (.navigation .whereWord) length
  | word =>
    match Keyword.ofText? word with
    | some k => .found (.keyword k) length
    | none => .found (.identifier word) length

/-- A number of the given length, given the text after it: a word or point right
behind it makes it malformed. -/
def scanNumber (value : Except LexCause Value) (taken : Nat) (after : List Char) : Scan :=
  match after.head?.filter (fun c => isWordChar c || c == '.'), value with
  | some c, _ => .fault (.malformedNumber c) taken
  | none, .error cause => .fault cause taken
  | none, .ok v => .found (.literal v) taken

/-- A natural number as an integer literal, which has 63 bits of room. -/
def integerLiteral (hex : Bool) (n : Nat) : Except LexCause Value :=
  if n < Nat.pow 2 63 then .ok (.integer (Int64.ofNat n)) else .error (.tooLarge hex)

/-- A numeral in base sixteen, from behind its `0x`. -/
def scanHex (cs : List Char) : Scan :=
  let digits := cs.takeWhile isHexDigit
  if digits.isEmpty then .fault .noHexDigits 2
  else scanNumber (integerLiteral true (ofDigits 16 digits)) (2 + digits.length)
    (cs.drop digits.length)

/-- The digits behind a point at the beginning of a text. -/
def leadingFraction : List Char → List Char
  | '.' :: cs => cs.takeWhile isDigit
  | _ => []

/-- A numeral in base ten; a point belongs to it if a digit follows. -/
def scanDecimal (cs : List Char) : Scan :=
  let whole := cs.takeWhile isDigit
  let after := cs.drop whole.length
  let fraction := leadingFraction after
  if fraction.isEmpty then scanNumber (integerLiteral false (ofDigits 10 whole)) whole.length after
  else
    let value := Float.ofScientific (ofDigits 10 (whole ++ fraction)) true fraction.length
    scanNumber (.ok (.float value)) (whole.length + 1 + fraction.length)
      (after.drop (1 + fraction.length))

/-- A string, from behind its opening quote. -/
def scanString (quote : Char) (cs : List Char) : Scan :=
  let body := cs.takeWhile (· ≠ quote)
  if body.length < cs.length then
    .found (.literal (.string (String.ofList body))) (body.length + 2)
  else .fault .unterminatedString (body.length + 1)

/-- A placeholder, from behind its opening brace. -/
def scanPlaceholder (cs : List Char) : Scan :=
  let fromName := dropBlanks cs
  let name := leadingWord fromName
  let closing := dropBlanks (fromName.drop name.length)
  let taken := cs.length - closing.length + 1
  match closing with
  | '\x7d' :: _ =>
    .found (.placeholder (if name.isEmpty then none else some (String.ofList name))) (taken + 1)
  | c :: _ => ⟨.error (.unexpectedInPlaceholder c, taken), taken⟩
  | [] => .fault .unterminatedPlaceholder taken

/-- Reads the token that begins with the first character. -/
def scan (c : Char) (cs : List Char) : Scan :=
  match c, cs with
  | '(', _ => .found .openParen 1
  | ')', _ => .found .closeParen 1
  | ',', _ => .found .comma 1
  | '+', _ => .operator (.sign .plus) 1
  | '-', '>' :: _ => .operator (.navigation .arrow) 2
  | '-', _ => .operator (.sign .minus) 1
  | '*', _ => .operator (.sign .times) 1
  | '/', _ => .operator (.sign .slash) 1
  | '=', '=' :: _ => .operator (.comparison .equal) 2
  | '=', '~' :: _ => .operator (.comparison .search) 2
  | '=', _ => .fault .loneEqual 0
  | '!', '=' :: _ => .operator (.comparison .notEqual) 2
  | '!', _ => .fault .loneBang 0
  | '>', '=' :: _ => .operator (.comparison .greaterEqual) 2
  | '>', _ => .operator (.comparison .greater) 1
  | '<', '=' :: _ => .operator (.comparison .lessEqual) 2
  | '<', _ => .operator (.comparison .less) 1
  | '\x7b', cs => scanPlaceholder cs
  | '\'', cs => scanString '\'' cs
  | '"', cs => scanString '"' cs
  | c, cs =>
    if isDigit c then
      match c, cs with
      | '0', 'x' :: rest => scanHex rest
      | '0', 'X' :: rest => scanHex rest
      | _, _ => scanDecimal (c :: cs)
    else if isWordStart c then
      let spelling := c :: leadingPath cs
      scanWord spelling (cs.drop (spelling.length - 1))
    else .fault (.unexpected c) 0

/-! ## Every token has characters -/

@[simp] theorem scanNumber_taken (value : Except LexCause Value) (taken : Nat) (after : List Char) :
    (scanNumber value taken after).taken = taken := by
  unfold scanNumber
  split <;> rfl

theorem scanWord_taken_pos {spelling after : List Char} (h : spelling ≠ []) :
    0 < (scanWord spelling after).taken := by
  have hp := List.length_pos_iff.2 h
  unfold scanWord
  split <;> (try split) <;> simp only [Scan.operator, Scan.found] <;> omega

theorem scanHex_taken_pos (cs : List Char) : 0 < (scanHex cs).taken := by
  unfold scanHex
  dsimp only
  split
  · simp [Scan.fault]
  · rw [scanNumber_taken]; omega

theorem scanDecimal_taken_pos {c : Char} (cs : List Char) (h : isDigit c = true) :
    0 < (scanDecimal (c :: cs)).taken := by
  unfold scanDecimal
  have : 0 < ((c :: cs).takeWhile isDigit).length := by simp [h]
  dsimp only
  split <;> rw [scanNumber_taken] <;> omega

theorem scanString_taken_pos (quote : Char) (cs : List Char) : 0 < (scanString quote cs).taken := by
  unfold scanString
  dsimp only
  split <;> simp [Scan.found, Scan.fault]

theorem scanPlaceholder_taken_pos (cs : List Char) : 0 < (scanPlaceholder cs).taken := by
  unfold scanPlaceholder
  dsimp only
  split <;> simp [Scan.found, Scan.fault]

/-- A token takes at least one character. -/
theorem scan_taken_pos {c : Char} {cs : List Char} {kind : TokenKind}
    (h : (scan c cs).outcome = .ok kind) : 0 < (scan c cs).taken := by
  revert h
  unfold scan
  split
  case h_18 => exact fun _ => scanPlaceholder_taken_pos _
  case h_19 => exact fun _ => scanString_taken_pos _ _
  case h_20 => exact fun _ => scanString_taken_pos _ _
  case h_21 =>
    split
    · rename_i digit
      intro _
      split
      · exact scanHex_taken_pos _
      · exact scanHex_taken_pos _
      · exact scanDecimal_taken_pos _ digit
    · split
      · exact fun _ => scanWord_taken_pos (by simp)
      · simp [Scan.fault]
  all_goals simp [Scan.operator, Scan.found, Scan.fault]

/-! ## A whole text -/

/-- A text that is being read: what is left, and how many characters came before. -/
structure Input where
  /-- The characters that are left. -/
  rest : List Char
  /-- The number of characters before them. -/
  position : Nat

namespace Input

/-- A text before its first character is read. -/
def ofText (text : String) : Input :=
  ⟨text.toList, 0⟩

/-- The input some characters further on. -/
def drop (input : Input) (n : Nat) : Input :=
  ⟨input.rest.drop n, input.position + n⟩

/-- The input behind any blanks. -/
def skipBlanks (input : Input) : Input :=
  input.drop (input.rest.length - (dropBlanks input.rest).length)

/-- Reads the next token, if there is one.  What is left is given also for a
malformed text. -/
def next (input : Input) : Except LexError (Option Token) × Input :=
  let start := input.skipBlanks
  match start.rest with
  | [] => (.ok none, start)
  | c :: cs =>
    let s := scan c cs
    let outcome := match s.outcome with
      | .ok kind => .ok (some ⟨kind, start.position⟩)
      | .error (cause, offset) => .error ⟨cause, start.position + offset⟩
    (outcome, start.drop s.taken)

/-- A token makes the input shorter. -/
theorem next_rest_length {input after : Input} {t : Token}
    (h : input.next = (.ok (some t), after)) : after.rest.length < input.rest.length := by
  unfold next at h
  have hs : input.skipBlanks.rest.length ≤ input.rest.length := by
    simp [skipBlanks, drop]
  dsimp only at h
  split at h
  · simp at h
  · rename_i c cs hrest
    have hpos : ∀ {kind}, (scan c cs).outcome = .ok kind → 0 < (scan c cs).taken := scan_taken_pos
    obtain ⟨ho, rfl⟩ := Prod.mk.inj h
    split at ho
    · rename_i kind hk
      have := hpos hk
      have hlen : input.skipBlanks.rest.length = cs.length + 1 := by rw [hrest]; rfl
      simp only [drop, List.length_drop]
      omega
    · simp at ho

/-- The tokens up to the end of the text or to the place where it is malformed, and
what is wrong there. -/
def tokens (input : Input) : List Token × Option LexError :=
  match h : input.next with
  | (.ok (some t), after) =>
    have := next_rest_length h
    let (ts, fault) := after.tokens
    (t :: ts, fault)
  | (.ok none, _) => ([], none)
  | (.error e, _) => ([], some e)
termination_by input.rest.length

theorem tokens_of_some {input after : Input} {t : Token} (h : input.next = (.ok (some t), after)) :
    input.tokens = (t :: after.tokens.1, after.tokens.2) := by
  rw [tokens]
  split
  · rename_i heq
    rw [h] at heq
    cases heq
    rfl
  · rename_i heq
    rw [h] at heq
    cases heq
  · rename_i heq
    rw [h] at heq
    cases heq

theorem tokens_of_none {input after : Input} (h : input.next = (.ok none, after)) :
    input.tokens = ([], none) := by
  rw [tokens]
  split
  · rename_i heq
    rw [h] at heq
    cases heq
  · rfl
  · rename_i heq
    rw [h] at heq
    cases heq

theorem tokens_of_error {input after : Input} {e : LexError} (h : input.next = (.error e, after)) :
    input.tokens = ([], some e) := by
  rw [tokens]
  split
  · rename_i heq
    rw [h] at heq
    cases heq
  · rename_i heq
    rw [h] at heq
    cases heq
  · rename_i heq
    rw [h] at heq
    cases heq
    rfl

end Input

/-- All tokens of a text, or what is wrong with it. -/
def tokenize (text : String) : Except LexError (List Token) :=
  match (Input.ofText text).tokens with
  | (ts, none) => .ok ts
  | (_, some e) => .error e

end FieldQuery
