import FieldQuery.Proofs.Lookahead
import Mathlib.Data.List.DropRight

/-!
# Looking ahead into a malformed text

A look ahead that succeeds changes nothing of what a cursor comes to.  One that fails leaves
behind the text that it read, and with it the lexeme that is to blame: the cursor does not come
to that fault again, unless nothing was read of it.

* `LexCause.isStray` — the faults that nothing is read of; `Faulted` and `scan_faulted` say where
  each fault is and what is read.
* `Input.next_again_iff` — only such a fault is met again by the next reading.
* `Cursor.turn` — what a cursor answers to one of its next moves.
* `Cursor.turn_peek` — a look ahead that succeeds keeps all these answers.
* `Cursor.peek_error_loses` — one that fails takes the fault out of them.
-/

namespace FieldQuery

open Number Text

/-! ## What is read of a fault -/

/-- Is the fault a character that begins no token, so that nothing is read of it? -/
def LexCause.isStray : LexCause → Bool
  | .loneEqual | .loneBang | .unexpected _ => true
  | _ => false

/-- A fault, after how many characters the place to blame is, and how many characters are read. -/
inductive Faulted : LexCause → Nat → Nat → Prop where
  /-- Nothing is read of a character that begins no token. -/
  | stray {cause} : cause.isStray = true → Faulted cause 0 0
  /-- A placeholder is read up to the character that cannot stand in it. -/
  | inside (c) {taken} : 0 < taken → Faulted (.unexpectedInPlaceholder c) taken taken
  /-- The beginning of any other malformed token is to blame, and some of it is read. -/
  | lexeme {cause taken} : cause.isStray = false → (∀ c, cause ≠ .unexpectedInPlaceholder c) →
      0 < taken → Faulted cause 0 taken

/-- The fault of a scan, if it has one, is of the kind that its characters make it. -/
def Scan.Faults (s : Scan) : Prop :=
  ∀ cause offset, s.outcome = .error (cause, offset) → Faulted cause offset s.taken

theorem faults_found (kind : TokenKind) (taken : Nat) : (Scan.found kind taken).Faults := by
  intro cause offset h
  cases h

theorem faults_operator (op : Operator) (taken : Nat) : (Scan.operator op taken).Faults :=
  faults_found _ _

theorem faults_stray {cause : LexCause} (h : cause.isStray = true) :
    (Scan.fault cause 0).Faults := by
  intro cause' offset heq
  cases heq
  exact .stray h

theorem faults_lexeme {cause : LexCause} {taken : Nat} (hstray : cause.isStray = false)
    (hinside : ∀ c, cause ≠ .unexpectedInPlaceholder c) (htaken : 0 < taken) :
    (Scan.fault cause taken).Faults := by
  intro cause' offset heq
  cases heq
  exact .lexeme hstray hinside htaken

/-- Words are never malformed. -/
theorem faults_scanWord (spelling after : List Char) : (scanWord spelling after).Faults := by
  unfold scanWord
  dsimp only
  split <;> (try split) <;> first | exact faults_operator _ _ | exact faults_found _ _

theorem faults_scanNumber (hex : Bool) {value : Except LexCause Value} {taken : Nat}
    {after : List Char} (hvalue : ∀ cause, value = .error cause → cause = .tooLarge hex)
    (htaken : 0 < taken) : (scanNumber value taken after).Faults := by
  unfold scanNumber
  split
  · exact faults_lexeme rfl (by simp) htaken
  · rename_i cause _
    rw [hvalue cause rfl]
    exact faults_lexeme rfl (by simp) htaken
  · exact faults_found _ _

theorem integerLiteral_eq_error {hex : Bool} {n : Nat} {cause : LexCause}
    (h : integerLiteral hex n = .error cause) : cause = .tooLarge hex := by
  unfold integerLiteral at h
  split at h
  · cases h
  · exact (Except.error.inj h).symm

theorem faults_scanHex (cs : List Char) : (scanHex cs).Faults := by
  unfold scanHex
  dsimp only
  split
  · exact faults_lexeme rfl (by simp) (by omega)
  · exact faults_scanNumber _ (fun _ => integerLiteral_eq_error) (by omega)

theorem faults_scanDecimal {c : Char} (cs : List Char) (h : isDigit c = true) :
    (scanDecimal (c :: cs)).Faults := by
  have hwhole : 0 < ((c :: cs).takeWhile isDigit).length := by simp [h]
  unfold scanDecimal
  dsimp only
  split
  · exact faults_scanNumber _ (fun _ => integerLiteral_eq_error) hwhole
  · exact faults_scanNumber false (by simp) (by omega)

theorem faults_scanString (quote : Char) (cs : List Char) : (scanString quote cs).Faults := by
  unfold scanString
  dsimp only
  split
  · exact faults_found _ _
  · exact faults_lexeme rfl (by simp) (by omega)

theorem faults_scanPlaceholder (cs : List Char) : (scanPlaceholder cs).Faults := by
  unfold scanPlaceholder
  dsimp only
  split
  · exact faults_found _ _
  · intro cause offset h
    cases h
    exact .inside _ (by omega)
  · exact faults_lexeme rfl (by simp) (by omega)

/-- **Every fault of a scan is stray, or in a placeholder, or a malformed lexeme.** -/
theorem scan_faulted (c : Char) (cs : List Char) : (scan c cs).Faults := by
  unfold scan
  split
  case h_11 => exact faults_stray rfl
  case h_13 => exact faults_stray rfl
  case h_18 => exact faults_scanPlaceholder _
  case h_19 => exact faults_scanString _ _
  case h_20 => exact faults_scanString _ _
  case h_21 =>
    split
    · rename_i hdigit
      split
      · exact faults_scanHex _
      · exact faults_scanHex _
      · exact faults_scanDecimal _ hdigit
    · split
      · exact faults_scanWord _ _
      · exact faults_stray rfl
  all_goals first | exact faults_operator _ _ | exact faults_found _ _

/-! ## Reading on behind a fault -/

namespace Input

/-- The place of a fault, from where the malformed lexeme begins and what is read of it. -/
theorem next_error {input after : Input} {e : LexError} (h : input.next = (.error e, after)) :
    ∃ offset taken, Faulted e.cause offset taken ∧
      e.position = input.skipBlanks.position + offset ∧ after = input.skipBlanks.drop taken := by
  unfold next at h
  dsimp only at h
  split at h
  · cases (Prod.mk.inj h).1
  · rename_i c cs _
    obtain ⟨houtcome, rfl⟩ := Prod.mk.inj h
    split at houtcome
    · cases houtcome
    · rename_i cause offset hscan
      cases houtcome
      exact ⟨offset, _, scan_faulted c cs cause offset hscan, rfl, rfl⟩

theorem skipBlanks_skipBlanks (input : Input) : input.skipBlanks.skipBlanks = input.skipBlanks := by
  have hrest : dropBlanks input.skipBlanks.rest = input.skipBlanks.rest := by
    rw [skipBlanks_rest]
    exact List.dropWhile_idempotent _ input.rest
  rw [skipBlanks.eq_1 input.skipBlanks, hrest, Nat.sub_self]
  rfl

theorem position_le_skipBlanks (input : Input) : input.position ≤ input.skipBlanks.position :=
  Nat.le_add_right _ _

theorem next_skipBlanks (input : Input) : input.skipBlanks.next = input.next := by
  unfold next
  rw [skipBlanks_skipBlanks]

/-- **A fault is met again exactly if it is stray.**  A reading that begins behind some of the
malformed lexeme finds no fault, or one further on, or another. -/
theorem next_again_iff {input after : Input} {e : LexError} (h : input.next = (.error e, after)) :
    after.next.1 = .error e ↔ e.cause.isStray = true := by
  obtain ⟨offset, taken, hfault, hposition, rfl⟩ := next_error h
  constructor
  · intro hagain
    obtain ⟨offset', taken', hfault', hposition', -⟩ :=
      next_error (Prod.ext hagain rfl : (input.skipBlanks.drop taken).next = (.error e, _))
    have hon : input.skipBlanks.position + taken ≤
        (input.skipBlanks.drop taken).skipBlanks.position :=
      position_le_skipBlanks (input.skipBlanks.drop taken)
    obtain ⟨cause, position⟩ := e
    dsimp only at hfault hfault' hposition hposition'
    -- the second fault would have to be at the place of the first, but some of it was read
    cases hfault with
    | stray hstray => exact hstray
    | inside c htaken =>
      cases hfault' with
      | stray hstray => exact hstray
      | inside _ htaken' => omega
      | lexeme _ hinside _ => exact absurd rfl (hinside c)
    | lexeme _ hinside htaken =>
      cases hfault' with
      | stray hstray => exact hstray
      | inside c _ => exact absurd rfl (hinside c)
      | lexeme _ _ _ => omega
  · intro hstray
    obtain ⟨cause, position⟩ := e
    dsimp only at hfault hstray
    cases hfault with
    | stray _ => exact (congrArg Prod.fst (next_skipBlanks input)).trans (congrArg Prod.fst h)
    | inside c _ => cases hstray
    | lexeme hlexeme _ _ => rw [hstray] at hlexeme; cases hlexeme

/-- What a text answers when it is read for one time more than the given number. -/
def reading (input : Input) : Nat → Except LexError (Option Token)
  | 0 => input.next.1
  | n + 1 => input.next.2.reading n

/-- Behind the end of a text there is nothing but the end. -/
theorem reading_of_none {input after : Input} (h : input.next = (.ok none, after)) (n : Nat) :
    input.reading n = .ok none ∧ after.reading n = .ok none := by
  induction n generalizing input after with
  | zero =>
    obtain ⟨last, hlast⟩ := next_of_next_none h
    exact ⟨congrArg Prod.fst h, congrArg Prod.fst hlast⟩
  | succ n ih =>
    obtain ⟨last, hlast⟩ := next_of_next_none h
    rw [reading, reading, h, hlast]
    exact ih hlast

/-- A stray character stays the fault of a text however often it is read. -/
theorem reading_of_stray {input after : Input} {e : LexError} (h : input.next = (.error e, after))
    (hstray : e.cause.isStray = true) (n : Nat) :
    input.reading n = .error e ∧ after.reading n = .error e := by
  induction n generalizing input after with
  | zero => exact ⟨congrArg Prod.fst h, (next_again_iff h).2 hstray⟩
  | succ n ih =>
    have hagain : after.next = (.error e, after.next.2) :=
      Prod.ext ((next_again_iff h).2 hstray) rfl
    rw [reading, reading, h]
    exact ih hagain

end Input

/-! ## What a cursor comes to -/

namespace Cursor

variable {cursor moved : Cursor} {e : LexError}

/-- What a cursor answers when it moves on for one time more than the given number. -/
def turn (cursor : Cursor) (n : Nat) : Except LexError (Option Token) :=
  (cursor.after (List.replicate n .next)).next.1

theorem turn_succ (cursor : Cursor) (n : Nat) : cursor.turn (n + 1) = cursor.next.2.turn n :=
  rfl

/-- A cursor comes to the tokens that it looked at first. -/
theorem turn_of_lt (cursor : Cursor) {n : Nat} (h : n < cursor.ahead.length) :
    cursor.turn n = .ok cursor.ahead[n]? := by
  obtain ⟨input, ahead, current⟩ := cursor
  dsimp only at h ⊢
  induction n generalizing ahead current with
  | zero =>
    cases ahead with
    | nil => exact absurd h (Nat.not_lt_zero _)
    | cons t ts => rfl
  | succ n ih =>
    cases ahead with
    | nil => exact absurd h (Nat.not_lt_zero _)
    | cons t ts => exact ih ts (some t) (Nat.lt_of_succ_lt_succ h)

/-- When it comes to the text behind them, it reads on. -/
theorem turn_add (cursor : Cursor) (n : Nat) :
    cursor.turn (cursor.ahead.length + n) = cursor.input.reading n := by
  obtain ⟨input, ahead, current⟩ := cursor
  dsimp only
  induction ahead generalizing current with
  | cons t ts ih =>
    rw [List.length_cons, Nat.add_right_comm, turn_succ]
    exact ih (some t)
  | nil =>
    rw [List.length_nil, Nat.zero_add]
    induction n generalizing input current with
    | zero =>
      show (Cursor.next ⟨input, [], current⟩).1 = input.next.1
      unfold Cursor.next
      rcases input.next with ⟨outcome | outcome, after⟩ <;> rfl
    | succ n ih =>
      rw [turn_succ, Input.reading]
      unfold Cursor.next
      rcases input.next with ⟨outcome | outcome, after⟩ <;> exact ih _ _

/-- Two cursors that looked at the same tokens come to the same if their texts read the same. -/
theorem turn_congr {cursor other : Cursor} (hahead : other.ahead = cursor.ahead)
    (hinput : ∀ n, other.input.reading n = cursor.input.reading n) (n : Nat) :
    other.turn n = cursor.turn n := by
  rcases Nat.lt_or_ge n cursor.ahead.length with hlt | hge
  · rw [turn_of_lt cursor hlt, turn_of_lt other (by rwa [hahead]), hahead]
  · obtain ⟨i, rfl⟩ := Nat.exists_eq_add_of_le hge
    rw [turn_add, ← hahead, turn_add, hinput]

/-- A token that is read in advance is come to when its turn is there. -/
theorem turn_read {t : Token} {input : Input} (h : cursor.input.next = (.ok (some t), input))
    (n : Nat) : turn ⟨input, cursor.ahead ++ [t], cursor.current⟩ n = cursor.turn n := by
  have hlength : (cursor.ahead ++ [t]).length = cursor.ahead.length + 1 := List.length_append
  have hread (i : Nat) := @turn_of_lt ⟨input, cursor.ahead ++ [t], cursor.current⟩ i
  have hbehind := turn_add ⟨input, cursor.ahead ++ [t], cursor.current⟩
  dsimp only at hread hbehind
  rw [hlength] at hbehind
  rcases Nat.lt_trichotomy n cursor.ahead.length with hlt | rfl | hgt
  · rw [hread n (by omega), turn_of_lt cursor hlt]
    exact congrArg Except.ok (List.getElem?_append_left hlt)
  · have hturn := turn_add cursor 0
    rw [Nat.add_zero, Input.reading, h] at hturn
    rw [hread cursor.ahead.length (by omega), hturn]
    exact congrArg Except.ok List.getElem?_concat_length
  · obtain ⟨i, rfl⟩ := Nat.exists_eq_add_of_le hgt
    rw [Nat.succ_eq_add_one, hbehind, Nat.add_assoc, turn_add, Nat.add_comm 1 i, Input.reading, h]

/-! ## Looking ahead -/

/-- The cursor `moved` comes to all that `cursor` comes to, only that the fault is taken out of
what `cursor` answers; which nobody can tell if the fault is stray. -/
structure Loses (cursor moved : Cursor) (e : LexError) (place : Nat) : Prop where
  /-- The cursor comes to the fault. -/
  fault : cursor.turn place = .error e
  /-- Nothing before the fault is touched. -/
  before : ∀ n < place, moved.turn n = cursor.turn n
  /-- What is behind the fault moves up. -/
  behind : ∀ n, place ≤ n → moved.turn n = cursor.turn (n + 1)
  /-- Nothing has changed exactly if the fault is stray. -/
  same_iff : (∀ n, moved.turn n = cursor.turn n) ↔ e.cause.isStray = true

theorem Loses.of_turn {other : Cursor} {place : Nat} (h : Loses other moved e place)
    (hturn : ∀ n, other.turn n = cursor.turn n) : Loses cursor moved e place where
  fault := by rw [← hturn, h.fault]
  before n hn := by rw [h.before n hn, hturn]
  behind n hn := by rw [h.behind n hn, hturn]
  same_iff := by simp only [← h.same_iff, hturn]

/-- Reading where the text is malformed takes the fault out of the answers. -/
theorem loses_of_next {input : Input} (h : cursor.input.next = (.error e, input)) :
    Loses cursor ⟨input, cursor.ahead, cursor.current⟩ e cursor.ahead.length := by
  have hfault : cursor.turn cursor.ahead.length = .error e := by
    have hturn := turn_add cursor 0
    rwa [Nat.add_zero, Input.reading, h] at hturn
  have hbehind (n : Nat) : turn ⟨input, cursor.ahead, cursor.current⟩ (cursor.ahead.length + n) =
      input.reading n := turn_add ⟨input, cursor.ahead, cursor.current⟩ n
  refine ⟨hfault, fun n hn => ?_, fun n hn => ?_, fun hsame => ?_, fun hstray => ?_⟩
  · rw [turn_of_lt cursor hn]
    exact turn_of_lt ⟨input, cursor.ahead, cursor.current⟩ hn
  · obtain ⟨i, rfl⟩ := Nat.exists_eq_add_of_le hn
    rw [hbehind, Nat.add_assoc, turn_add, Input.reading, h]
  · refine (Input.next_again_iff h).1 ?_
    calc input.reading 0
        = turn ⟨input, cursor.ahead, cursor.current⟩ cursor.ahead.length := (hbehind 0).symm
      _ = cursor.turn cursor.ahead.length := hsame _
      _ = .error e := hfault
  · refine turn_congr rfl fun i => ?_
    obtain ⟨hcursor, hmoved⟩ := Input.reading_of_stray h hstray i
    exact hmoved.trans hcursor.symm

theorem turn_lookAhead {count : Nat} {found : Bool}
    (h : cursor.lookAhead count = (.ok found, moved)) (n : Nat) : moved.turn n = cursor.turn n := by
  induction count generalizing cursor with
  | zero =>
    obtain ⟨-, rfl⟩ := Prod.mk.inj h
    rfl
  | succ count ih =>
    rw [lookAhead] at h
    split at h
    · rename_i t input hnext
      rw [ih h, turn_read hnext]
    · rename_i input hnext
      obtain ⟨-, rfl⟩ := Prod.mk.inj h
      have hreading (i : Nat) : input.reading i = cursor.input.reading i := by
        obtain ⟨hcursor, hmoved⟩ := Input.reading_of_none hnext i
        exact hmoved.trans hcursor.symm
      exact turn_congr (by rfl) hreading n
    · cases (Prod.mk.inj h).1

theorem loses_lookAhead {count : Nat} (h : cursor.lookAhead count = (.error e, moved)) :
    moved.current = cursor.current ∧
      ∃ place < cursor.ahead.length + count, Loses cursor moved e place := by
  induction count generalizing cursor with
  | zero => cases (Prod.mk.inj h).1
  | succ count ih =>
    rw [lookAhead] at h
    split at h
    · rename_i t input hnext
      obtain ⟨hcurrent, place, hplace, hloses⟩ := ih h
      rw [List.length_append, List.length_singleton] at hplace
      exact ⟨hcurrent, place, by omega, hloses.of_turn (turn_read hnext)⟩
    · cases (Prod.mk.inj h).1
    · rename_i e' input hnext
      obtain ⟨he, rfl⟩ := Prod.mk.inj h
      cases he
      exact ⟨rfl, cursor.ahead.length, by omega, loses_of_next hnext⟩

/-- **A look ahead that succeeds changes nothing of what a cursor comes to**, whether there is a
token that many places on or not, and also if the text is malformed further on. -/
theorem turn_peek {k : Nat} {found : Option Token} (h : cursor.peek k = (.ok found, moved))
    (n : Nat) : moved.turn n = cursor.turn n := by
  unfold peek at h
  split at h
  · obtain ⟨-, rfl⟩ := Prod.mk.inj h
    rfl
  · split at h
    · rename_i hlook
      obtain ⟨-, rfl⟩ := Prod.mk.inj h
      exact turn_lookAhead hlook n
    · rename_i hlook
      obtain ⟨-, rfl⟩ := Prod.mk.inj h
      exact turn_lookAhead hlook n
    · cases (Prod.mk.inj h).1

/-- **A look ahead that fails takes the fault out of what a cursor comes to.**  The fault is less
than `k` moves on.  The cursor stays at its token and still comes to all before the fault, but
then to what is behind the text that was read; nothing has changed exactly if the fault is a
character that begins no token, as nothing is read of such a one. -/
theorem peek_error_loses {k : Nat} (h : cursor.peek k = (.error e, moved)) :
    moved.current = cursor.current ∧
      (∃ place < k, cursor.turn place = .error e ∧
        (∀ n < place, moved.turn n = cursor.turn n) ∧
        ∀ n, place ≤ n → moved.turn n = cursor.turn (n + 1)) ∧
      ((∀ n, moved.turn n = cursor.turn n) ↔ e.cause.isStray = true) := by
  unfold peek at h
  split at h
  · cases (Prod.mk.inj h).1
  · split at h
    · cases (Prod.mk.inj h).1
    · cases (Prod.mk.inj h).1
    · rename_i e' _ hlook
      obtain ⟨he, rfl⟩ := Prod.mk.inj h
      cases he
      obtain ⟨hcurrent, place, hplace, hloses⟩ := loses_lookAhead hlook
      have hahead : cursor.ahead.length < k := by
        rcases Nat.lt_or_ge cursor.ahead.length k with hlt | hge
        · exact hlt
        · rw [Nat.sub_eq_zero_of_le hge, lookAhead] at hlook
          cases (Prod.mk.inj hlook).1
      exact ⟨hcurrent, ⟨place, by omega, hloses.fault, hloses.before, hloses.behind⟩,
        hloses.same_iff⟩

/-- Two places behind the first token a string is left open. -/
theorem peek_error_loses_string :
    let cursor := (ofText "a b 'c").after [.next]
    let moved : Cursor := ⟨⟨[], 6⟩, [⟨.identifier "b", 2⟩], some ⟨.identifier "a", 0⟩⟩
    let e : LexError := ⟨.unterminatedString, 4⟩
    cursor.peek 3 = (.error e, moved) ∧ moved.current = cursor.current ∧
      (∃ place < 3, cursor.turn place = .error e ∧
        (∀ n < place, moved.turn n = cursor.turn n) ∧
        ∀ n, place ≤ n → moved.turn n = cursor.turn (n + 1)) ∧
      ((∀ n, moved.turn n = cursor.turn n) ↔ e.cause.isStray = true) := by
  intro cursor moved e
  have hpeek : cursor.peek 3 = (.error e, moved) := by with_unfolding_all rfl
  exact ⟨hpeek, peek_error_loses hpeek⟩

/-- A cursor that meets a malformed numeral, and moves to the token behind it if it was told to
look at the numeral first. -/
theorem turn_peek_numeral :
    let cursor := ofText "1x b"
    let e : LexError := ⟨.malformedNumber 'x', 0⟩
    (cursor.peek 1).1 = .error e ∧ cursor.turn 0 = .error e ∧
      (cursor.peek 1).2.turn 0 = .ok (some ⟨.identifier "x", 1⟩) := by
  with_unfolding_all exact ⟨rfl, rfl, rfl⟩

end Cursor

end FieldQuery
