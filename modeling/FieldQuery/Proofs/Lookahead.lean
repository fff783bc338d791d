import FieldQuery.Proofs.Scanning
import FieldQuery.Token.Cursor

/-!
# Looking ahead loses no tokens

A cursor reads tokens only when they are asked for, and keeps those that it looked at until it
comes to them.  Nobody can tell: whatever was asked of it before, a cursor over a text that is
not malformed answers as one that had all tokens of the text from the start.

* `Cursor.Step` — what can be asked of a cursor; `Cursor.after` asks one thing after another.
* `Cursor.At` — the cursor has moved some number of times along the tokens of its text.
* `Cursor.At.answer` — one step answers from the tokens, and counts as a move if it is one.
* `Cursor.at_after` — so the cursor stays on the tokens for any number of steps.
* `Cursor.answers_after` — what a cursor answers, in terms of how often it has moved.
-/

namespace FieldQuery

/-! ## Tokens that are left -/

namespace Input

/-- The text holds these tokens up to its end, and is not malformed. -/
def Holds (input : Input) (tokens : List Token) : Prop :=
  input.tokens = (tokens, none)

theorem Holds.cons {input : Input} {t : Token} {ts : List Token} (h : input.Holds (t :: ts)) :
    ∃ after, input.next = (.ok (some t), after) ∧ after.Holds ts := by
  rw [Holds, Input.tokens] at h
  split at h
  · rename_i u after hnext
    rcases htokens : after.tokens with ⟨us, fault⟩
    rw [htokens] at h
    simp only [Prod.mk.injEq, List.cons.injEq] at h
    obtain ⟨⟨rfl, rfl⟩, rfl⟩ := h
    exact ⟨after, hnext, htokens⟩
  · simp at h
  · simp at h

/-- Behind the end of a text there is nothing but the end. -/
theorem next_of_next_none {input after : Input} (h : input.next = (.ok none, after)) :
    ∃ last, after.next = (.ok none, last) := by
  obtain ⟨rest, position⟩ := after
  obtain rfl : rest = [] := (next_none h).2
  exact ⟨_, rfl⟩

/-- At the end of a text there is nothing more to read, however often one tries. -/
theorem Holds.nil {input : Input} (h : input.Holds []) :
    ∃ after, input.next = (.ok none, after) ∧ after.Holds [] := by
  rw [Holds, Input.tokens] at h
  split at h
  · simp at h
  · rename_i after hnext
    refine ⟨after, hnext, ?_⟩
    obtain ⟨last, hlast⟩ := next_of_next_none hnext
    exact Input.tokens_of_none hlast
  · simp at h

end Input

namespace Cursor

/-! ## Steps -/

/-- Something that is asked of a cursor. -/
inductive Step where
  /-- To move to the next token. -/
  | next
  /-- To look at the token some places on. -/
  | peek (k : Nat)
  /-- To say which token the cursor is at. -/
  | current
  deriving DecidableEq

/-- What a cursor answers to a step, and the cursor behind it. -/
def answer (cursor : Cursor) : Step → Except LexError (Option Token) × Cursor
  | .next => cursor.next
  | .peek k => cursor.peek k
  | .current => (.ok cursor.current, cursor)

/-- The cursor after some steps. -/
def after (cursor : Cursor) (steps : List Step) : Cursor :=
  steps.foldl (fun c step => (c.answer step).2) cursor

/-- The token that a cursor is at after it has moved some number of times: at none before the
first move, and at none behind the last token. -/
def place (tokens : List Token) : Nat → Option Token
  | 0 => none
  | moved + 1 => tokens[moved]?

/-- What a step asks for: the token at the place that the cursor moves to, looks at or is at. -/
def target (tokens : List Token) (moved : Nat) : Step → Option Token
  | .next => place tokens (moved + 1)
  | .peek k => place tokens (moved + k)
  | .current => place tokens moved

/-! ## Cursors along the tokens of a text -/

/-- The cursor has moved some number of times along the tokens of its text.  What it looked at,
and what its text still holds, are the tokens that it has not come to. -/
structure At (tokens : List Token) (moved : Nat) (cursor : Cursor) : Prop where
  /-- The cursor is where its moves took it. -/
  current_eq : cursor.current = place tokens moved
  /-- No token is lost between those that were looked at and those that were not read. -/
  left : ∃ unread, cursor.input.Holds unread ∧ cursor.ahead ++ unread = tokens.drop moved

variable {tokens : List Token} {moved : Nat} {cursor : Cursor}

/-- A token that was looked at is the one that is that many places on. -/
theorem At.getElem?_ahead (h : At tokens moved cursor) {k : Nat} (hk : k < cursor.ahead.length) :
    cursor.ahead[k]? = place tokens (moved + (k + 1)) := by
  obtain ⟨unread, -, hleft⟩ := h.left
  have happend : (cursor.ahead ++ unread)[k]? = cursor.ahead[k]? := List.getElem?_append_left hk
  rw [hleft, List.getElem?_drop] at happend
  exact happend.symm

theorem At.next (h : At tokens moved cursor) :
    cursor.next.1 = .ok (place tokens (moved + 1)) ∧ At tokens (moved + 1) cursor.next.2 := by
  obtain ⟨unread, hholds, hleft⟩ := h.left
  have hplace : place tokens (moved + 1) = (cursor.ahead ++ unread).head? := by
    rw [hleft, List.head?_drop]
    rfl
  have htail : (cursor.ahead ++ unread).tail = tokens.drop (moved + 1) := by
    rw [hleft, List.tail_drop]
  unfold Cursor.next
  split
  · rename_i t ts hahead
    rw [hahead] at hplace htail
    exact ⟨by rw [hplace]; rfl, by rw [hplace]; rfl, unread, hholds, htail⟩
  · rename_i hahead
    rw [hahead] at hplace htail
    cases unread with
    | nil =>
      obtain ⟨after, hnext, hafter⟩ := hholds.nil
      rw [hnext]
      exact ⟨by rw [hplace]; rfl, by rw [hplace]; rfl, [], hafter, by rw [hahead]; exact htail⟩
    | cons t ts =>
      obtain ⟨after, hnext, hafter⟩ := hholds.cons
      rw [hnext]
      exact ⟨by rw [hplace]; rfl, by rw [hplace]; rfl, ts, hafter, by rw [hahead]; exact htail⟩

/-- Looking ahead reads as many tokens as it is told to, or else all of them. -/
theorem At.lookAhead (h : At tokens moved cursor) (count : Nat) :
    ∃ found seen, cursor.lookAhead count = (.ok found, seen) ∧ At tokens moved seen ∧
      (found = true → seen.ahead.length = cursor.ahead.length + count) ∧
      (found = false → seen.ahead = tokens.drop moved ∧
        seen.ahead.length < cursor.ahead.length + count) := by
  induction count generalizing cursor with
  | zero => exact ⟨true, cursor, rfl, h, fun _ => rfl, by simp⟩
  | succ count ih =>
    obtain ⟨unread, hholds, hleft⟩ := h.left
    rw [Cursor.lookAhead]
    cases unread with
    | nil =>
      obtain ⟨after, hnext, hafter⟩ := hholds.nil
      rw [hnext]
      refine ⟨false, _, rfl, ⟨h.current_eq, [], hafter, hleft⟩, by simp, fun _ => ⟨?_, by simp⟩⟩
      rw [← hleft, List.append_nil]
    | cons t ts =>
      obtain ⟨after, hnext, hafter⟩ := hholds.cons
      rw [hnext]
      have hone : At tokens moved ⟨after, cursor.ahead ++ [t], cursor.current⟩ :=
        ⟨h.current_eq, ts, hafter, by rw [← hleft]; simp⟩
      obtain ⟨found, seen, hlook, hseen, hall, hend⟩ := ih hone
      have hlength : (cursor.ahead ++ [t]).length + count = cursor.ahead.length + (count + 1) := by
        simp only [List.length_append, List.length_singleton]
        omega
      rw [← hlength]
      exact ⟨found, seen, hlook, hseen, hall, hend⟩

theorem At.peek (h : At tokens moved cursor) (k : Nat) :
    (cursor.peek k).1 = .ok (place tokens (moved + k)) ∧ At tokens moved (cursor.peek k).2 := by
  cases k with
  | zero => exact ⟨congrArg Except.ok h.current_eq, h⟩
  | succ k =>
    obtain ⟨found, seen, hlook, hseen, hall, hend⟩ :=
      h.lookAhead (k + 1 - cursor.ahead.length)
    rw [Cursor.peek, if_neg (Nat.succ_ne_zero k), hlook]
    cases found with
    | true =>
      have hlength := hall rfl
      have hk : k < seen.ahead.length := by omega
      exact ⟨congrArg Except.ok (hseen.getElem?_ahead hk), hseen⟩
    | false =>
      obtain ⟨hahead, hshort⟩ := hend rfl
      refine ⟨congrArg Except.ok ?_, hseen⟩
      obtain ⟨unread, -, hleft⟩ := h.left
      have hlength := congrArg List.length hleft
      rw [List.length_append, ← hahead] at hlength
      have hdrop : (tokens.drop moved).length ≤ k := by
        rw [← hahead]
        omega
      rw [List.length_drop] at hdrop
      show none = tokens[moved + k]?
      rw [List.getElem?_eq_none (by omega)]

/-- **One step answers from the tokens**, and leaves the cursor where it was unless it is a
move. -/
theorem At.answer (h : At tokens moved cursor) (step : Step) :
    (cursor.answer step).1 = .ok (target tokens moved step) ∧
      At tokens (moved + [step].count .next) (cursor.answer step).2 := by
  cases step with
  | next => exact h.next
  | peek k => exact h.peek k
  | current => exact ⟨congrArg Except.ok h.current_eq, h⟩

/-- The cursor stays on the tokens of its text, whatever it is asked. -/
theorem At.after (h : At tokens moved cursor) (steps : List Step) :
    At tokens (moved + steps.count .next) (cursor.after steps) := by
  induction steps generalizing moved cursor with
  | nil => exact h
  | cons step steps ih =>
    have hrest := ih (h.answer step).2
    rw [Nat.add_assoc, ← List.count_append] at hrest
    exact hrest

theorem at_ofText {source : String} (h : tokenize source = .ok tokens) :
    At tokens 0 (ofText source) := by
  refine ⟨rfl, tokens, ?_, rfl⟩
  rw [tokenize] at h
  split at h
  · rename_i hholds
    cases h
    exact hholds
  · cases h

/-- **A cursor answers as if it had all tokens from the start.**  After any steps, of which some
number were moves, the next move comes to the token behind as many tokens, and to none from the
end on; the cursor is at the last of these tokens, or at none before the first move and behind
the end; and the token some places on is the one that is so many places behind that. -/
theorem answers_after {source : String} (h : tokenize source = .ok tokens) (steps : List Step) :
    let cursor := (ofText source).after steps
    let moved := steps.count .next
    cursor.next.1 = .ok tokens[moved]? ∧
      cursor.current = (if moved = 0 then none else tokens[moved - 1]?) ∧
      (cursor.peek 0).1 = .ok (if moved = 0 then none else tokens[moved - 1]?) ∧
      ∀ k, 1 ≤ k → (cursor.peek k).1 = .ok tokens[moved + k - 1]? := by
  intro cursor moved
  have hat : At tokens moved cursor := by
    have := (at_ofText h).after steps
    rwa [Nat.zero_add] at this
  have hplace : place tokens moved = if moved = 0 then none else tokens[moved - 1]? := by
    cases moved <;> rfl
  refine ⟨hat.next.1, hat.current_eq.trans hplace, ?_, fun k hk => ?_⟩
  · rw [← hplace]
    exact (hat.peek 0).1
  · obtain ⟨j, rfl⟩ := Nat.exists_eq_add_of_le' hk
    exact (hat.peek (j + 1)).1

/-- Three tokens, of which the last two are looked at before the cursor comes to the first and
looks behind the end. -/
theorem answers_after_sum :
    let tokens : List Token := [⟨.identifier "a", 0⟩, ⟨.operator (.sign .plus), 2⟩,
      ⟨.identifier "b", 4⟩]
    let cursor := (ofText "a + b").after [.peek 3, .next, .current, .peek 5]
    cursor.next.1 = .ok tokens[1]? ∧ cursor.current = tokens[0]? ∧
      (cursor.peek 0).1 = .ok tokens[0]? ∧ ∀ k, 1 ≤ k → (cursor.peek k).1 = .ok tokens[1 + k - 1]? := by
  intro tokens
  have htokens : tokenize "a + b" = .ok tokens := by with_unfolding_all rfl
  exact answers_after htokens [.peek 3, .next, .current, .peek 5]

end Cursor

end FieldQuery
