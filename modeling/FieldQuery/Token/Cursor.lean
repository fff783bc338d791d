import FieldQuery.Token.Lexer

/-!
# A cursor over tokens

A cursor moves through a text token by token and can look ahead.  Tokens are read only
when they are asked for; those that were looked at wait until the cursor comes to them.
-/

namespace FieldQuery

/-- A place in a text: the token there, those after it that were looked at already, and
the text that was not read yet. -/
structure Cursor where
  /-- The text behind all tokens that were read. -/
  input : Input
  /-- The tokens that were looked at, nearest first. -/
  ahead : List Token
  /-- The token that the cursor is at, if it is at one. -/
  current : Option Token

namespace Cursor

/-- A cursor before the first token of a text. -/
def ofText (text : String) : Cursor :=
  ⟨Input.ofText text, [], none⟩

/-- Moves to the next token and gives it, or nothing at the end of the text.  Where the
text is malformed the cursor stays at its token. -/
def next (cursor : Cursor) : Except LexError (Option Token) × Cursor :=
  match cursor.ahead with
  | t :: ts => (.ok (some t), { cursor with ahead := ts, current := some t })
  | [] =>
    match cursor.input.next with
    | (.ok t, input) => (.ok t, { cursor with input, current := t })
    | (.error e, input) => (.error e, { cursor with input })

/-- Reads up to `count` tokens ahead; the outcome tells whether there are so many. -/
def lookAhead : Nat → Cursor → Except LexError Bool × Cursor
  | 0, cursor => (.ok true, cursor)
  | count + 1, cursor =>
    match cursor.input.next with
    | (.ok (some t), input) => lookAhead count { cursor with input, ahead := cursor.ahead ++ [t] }
    | (.ok none, input) => (.ok false, { cursor with input })
    | (.error e, input) => (.error e, { cursor with input })

/-- The token `k` places on, which for `k = 0` is the one that the cursor is at. -/
def peek (k : Nat) (cursor : Cursor) : Except LexError (Option Token) × Cursor :=
  if k = 0 then (.ok cursor.current, cursor)
  else
    match cursor.lookAhead (k - cursor.ahead.length) with
    | (.ok true, moved) => (.ok moved.ahead[k - 1]?, moved)
    | (.ok false, moved) => (.ok none, moved)
    | (.error e, moved) => (.error e, moved)

/-- How much there is before a cursor. -/
def size (cursor : Cursor) : Nat :=
  cursor.ahead.length + cursor.input.rest.length

/-- A step to a token leaves less before the cursor. -/
theorem size_next {cursor moved : Cursor} {t : Token} (h : cursor.next = (.ok (some t), moved)) :
    moved.size < cursor.size := by
  unfold next at h
  split at h
  · rename_i ts ha
    obtain ⟨-, rfl⟩ := Prod.mk.inj h
    simp [size, ha]
  · rename_i ha
    split at h
    · rename_i t' input hi
      obtain ⟨ht, rfl⟩ := Prod.mk.inj h
      cases ht
      have := Input.next_rest_length hi
      simpa [size] using this
    · simp at h

/-- Moves to the end of the text and gives all tokens on the way. -/
def rest (cursor : Cursor) : Except LexError (List Token) × Cursor :=
  match h : cursor.next with
  | (.ok (some t), moved) =>
    have := size_next h
    let (outcome, last) := moved.rest
    (outcome.map (t :: ·), last)
  | (.ok none, moved) => (.ok [], moved)
  | (.error e, moved) => (.error e, moved)
termination_by cursor.size

end Cursor

end FieldQuery
