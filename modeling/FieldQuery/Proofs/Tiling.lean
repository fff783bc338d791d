import FieldQuery.Proofs.IntegerLiterals

/-!
# Tokens tile a text

A token takes a piece of the text that is read as this token and nothing else when it stands alone,
and between the pieces there is nothing but white space.

* `scan_take` — a token is read from its own characters as it is before others.
* `Input.Of` — an input is what is left of a text from its position on; `Input.Of.next` for one
  token.
* `Cursor.offset` — where a cursor is in its text after some moves.
* `Cursor.tokens_tile` — the tokens of a text and the places behind them.
-/

namespace FieldQuery

open Text Number

/-! ## Strings and placeholders alone -/

section

variable {p : Char → Bool} {cs : List Char} {k : TokenKind} {m : Nat}

/-- What is read while a test holds is followed by a character for which it fails, unless it is all
there is. -/
theorem exists_behind_takeWhile (h : (cs.takeWhile p).length < cs.length) :
    ∃ d tail, cs.takeWhile p ++ d :: tail = cs ∧ p d = false := by
  cases hrest : cs.dropWhile p with
  | nil =>
    have hall := List.takeWhile_append_dropWhile (p := p) (l := cs)
    rw [hrest, List.append_nil] at hall
    rw [hall] at h
    exact absurd h (Nat.lt_irrefl _)
  | cons d tail =>
    refine ⟨d, tail, by rw [← hrest, List.takeWhile_append_dropWhile], ?_⟩
    have hhead := List.head?_dropWhile_not p cs
    rw [hrest] at hhead
    simpa using hhead

/-- A string ends with its quote. -/
theorem scanString_take {quote : Char} (h : scanString quote cs = .found k (m + 1)) :
    scanString quote (cs.take m) = .found k (m + 1) := by
  rw [scanString] at h
  split at h
  · rename_i hlt
    obtain ⟨d, tail, hcs, hd⟩ := exists_behind_takeWhile hlt
    generalize hbody : cs.takeWhile (· ≠ quote) = body at h hcs
    have hclear : ∀ c ∈ body, decide (c ≠ quote) = true := by
      rw [← hbody]
      exact fun _ => List.mem_takeWhile_imp
    have htake : cs.take (body.length + 1) = body ++ [d] := by
      rw [← hcs, ← List.singleton_append, ← List.append_assoc]
      exact List.take_left' (by simp)
    have hsame : (body ++ [d]).takeWhile (· ≠ quote) = body :=
      takeWhile_digits hclear (by simpa using hd)
    cases h
    rw [htake, scanString, hsame, if_pos (by simp)]
  · cases h

theorem dropBlanks_blanks_append {blanks after : List Char} (hb : ∀ c ∈ blanks, isBlank c = true)
    (ha : ∀ c ∈ after.head?, isBlank c = false) : dropBlanks (blanks ++ after) = after := by
  rw [dropBlanks, List.dropWhile_append_of_pos hb]
  cases after with
  | nil => rfl
  | cons c cs => exact List.dropWhile_cons_of_neg (by simp [ha c rfl])

/-- A placeholder is a name between gaps, behind which its brace stands. -/
theorem scanPlaceholder_of_parts {before name behind : List Char} (tail : List Char)
    (hbefore : ∀ c ∈ before, isBlank c = true) (hname : ∀ c ∈ name, isWordChar c = true)
    (hbehind : ∀ c ∈ behind, isBlank c = true)
    (hhead : ∀ c ∈ (name ++ (behind ++ ['\x7d'])).head?, isBlank c = false) :
    scanPlaceholder (before ++ (name ++ (behind ++ '\x7d' :: tail))) =
      .found (.placeholder (if name.isEmpty then none else some (String.ofList name)))
        (before.length + (name.length + (behind.length + 1)) + 1) := by
  have hbrace : ∀ c ∈ ('\x7d' :: tail).head?, isBlank c = false := by
    rintro c ⟨⟩
    decide
  have hword : ∀ c ∈ (behind ++ '\x7d' :: tail).head?, isWordChar c = false := by
    cases behind with
    | nil =>
      rintro c ⟨⟩
      decide
    | cons d ds =>
      rintro c ⟨⟩
      exact isWordChar_eq_false_of_isBlank (hbehind d (List.mem_cons_self ..))
  have hfrom : dropBlanks (before ++ (name ++ (behind ++ '\x7d' :: tail))) =
      name ++ (behind ++ '\x7d' :: tail) := by
    refine dropBlanks_blanks_append hbefore ?_
    have happend : name ++ (behind ++ '\x7d' :: tail) = name ++ (behind ++ ['\x7d']) ++ tail := by
      simp
    rwa [happend, List.head?_append_of_ne_nil _ (by simp)]
  rw [scanPlaceholder, hfrom, leadingWord_append hname hword, List.drop_left,
    dropBlanks_blanks_append hbehind hbrace]
  simp only [List.length_append, List.length_cons]
  congr 1
  omega

/-- What is read as a placeholder has these parts. -/
theorem exists_parts_of_scanPlaceholder {n : Nat} (h : scanPlaceholder cs = .found k n) :
    ∃ before name behind tail, cs = before ++ (name ++ (behind ++ '\x7d' :: tail)) ∧
      (∀ c ∈ before, isBlank c = true) ∧ (∀ c ∈ name, isWordChar c = true) ∧
      (∀ c ∈ behind, isBlank c = true) ∧
      ∀ c ∈ (name ++ (behind ++ ['\x7d'])).head?, isBlank c = false := by
  rw [scanPlaceholder] at h
  split at h
  case h_2 | h_3 => cases h
  rename_i tail hclosing
  have hbefore : cs.takeWhile isBlank ++ dropBlanks cs = cs := List.takeWhile_append_dropWhile
  generalize hfrom : dropBlanks cs = named at hclosing hbefore
  have hname : leadingWord named ++ named.drop (leadingWord named).length = named :=
    List.prefix_iff_eq_append.1 (List.takeWhile_prefix isWordChar)
  generalize named.drop (leadingWord named).length = rest at hclosing hname
  have hbehind : rest.takeWhile isBlank ++ '\x7d' :: tail = rest := by
    rw [← hclosing, dropBlanks, List.takeWhile_append_dropWhile]
  refine ⟨cs.takeWhile isBlank, leadingWord named, rest.takeWhile isBlank, tail,
    by rw [hbehind, hname, hbefore], fun _ => List.mem_takeWhile_imp,
    fun _ => List.mem_takeWhile_imp, fun _ => List.mem_takeWhile_imp, ?_⟩
  have happend : leadingWord named ++ (rest.takeWhile isBlank ++ ['\x7d']) ++ tail = named := by
    rw [List.append_assoc, List.append_assoc, List.singleton_append, hbehind, hname]
  have hhead := head_dropBlanks cs
  rwa [hfrom, ← happend, List.head?_append_of_ne_nil _ (by simp)] at hhead

/-- A placeholder ends with its brace. -/
theorem scanPlaceholder_take (h : scanPlaceholder cs = .found k (m + 1)) :
    scanPlaceholder (cs.take m) = .found k (m + 1) := by
  obtain ⟨before, name, behind, tail, rfl, hbefore, hname, hbehind, hhead⟩ :=
    exists_parts_of_scanPlaceholder h
  have hparts := fun tail => scanPlaceholder_of_parts tail hbefore hname hbehind hhead
  rw [hparts] at h
  cases h
  have htake : (before ++ (name ++ (behind ++ '\x7d' :: tail))).take
      (before.length + (name.length + (behind.length + 1))) =
        before ++ (name ++ (behind ++ ['\x7d'])) := by
    have happend : before ++ (name ++ (behind ++ '\x7d' :: tail)) =
        before ++ (name ++ (behind ++ ['\x7d'])) ++ tail := by
      simp
    rw [happend]
    exact List.take_left' (by simp)
  rw [htake, hparts]

/-! ## Numbers alone -/

/-- No word and no point stands behind a number. -/
theorem stops_of_scanNumber {value : Except LexCause Value} {taken n : Nat} {after : List Char}
    (h : scanNumber value taken after = .found k n) : n = taken ∧ Stops after := by
  unfold scanNumber at h
  split at h
  · cases h
  · cases h
  · rename_i hhead
    cases h
    refine ⟨rfl, fun c hc => ?_⟩
    have hnone := Option.filter_eq_none_iff.1 hhead c hc
    simpa using hnone

theorem stops_of_scanDecimal {n : Nat} (h : scanDecimal cs = .found k n) : Stops (cs.drop n) := by
  rw [scanDecimal] at h
  split at h
  · obtain ⟨rfl, hstops⟩ := stops_of_scanNumber h
    exact hstops
  · obtain ⟨rfl, hstops⟩ := stops_of_scanNumber h
    rwa [List.drop_drop, ← Nat.add_assoc] at hstops

theorem stops_of_scanHex {n : Nat} (h : scanHex cs = .found k n) :
    ∃ digits, n = 2 + digits ∧ Stops (cs.drop digits) := by
  rw [scanHex] at h
  split at h
  · cases h
  · exact ⟨_, stops_of_scanNumber h⟩

/-- What stands behind a number is no part of it, so that the number is read without it. -/
theorem scan_take_of_isDigit {c : Char} (hc : isDigit c = true)
    (h : scan c cs = .found k (m + 1)) : scan c (cs.take m) = .found k (m + 1) := by
  have hstops : Stops (cs.drop m) := by
    rcases hex_or_decimal c cs with ⟨x, rest, hx, rfl, rfl⟩ | hten
    · rw [scan_of_hex hx] at h
      obtain ⟨digits, hm, hstops⟩ := stops_of_scanHex h
      obtain rfl : m = digits + 1 := by omega
      exact hstops
    · rw [scan_of_isDigit hc hten] at h
      have hstops := stops_of_scanDecimal h
      exact hstops
  rw [← hstops.scan_append hc, List.take_append_drop, h]

/-! ## Words alone -/

/-- No word goes on behind a path. -/
theorem head_behind_leadingPath (cs : List Char) :
    ∀ c ∈ (cs.drop (leadingPath cs).length).head?, isWordChar c = false := by
  induction cs with
  | nil => nofun
  | cons c cs ih =>
    rw [leadingPath]
    split
    · exact ih
    · rename_i hc
      rintro _ ⟨⟩
      simp only [Bool.or_eq_true, not_or, Bool.not_eq_true] at hc
      exact hc.1

/-- The next word is found behind white space. -/
theorem exists_parts_of_wordAhead? {word : String} {n : Nat} (h : wordAhead? word cs = some n) :
    ∃ blanks tail, cs = blanks ++ (word.toList ++ tail) ∧ (∀ c ∈ blanks, isBlank c = true) ∧
      n = blanks.length + word.toList.length := by
  rw [wordAhead?] at h
  split at h
  · rename_i hword
    have hblanks : cs.takeWhile isBlank ++ dropBlanks cs = cs := List.takeWhile_append_dropWhile
    have hnext : word.toList ++ (dropBlanks cs).dropWhile isWordChar = dropBlanks cs := by
      rw [← hword]
      exact List.takeWhile_append_dropWhile
    refine ⟨cs.takeWhile isBlank, (dropBlanks cs).dropWhile isWordChar, by rw [hnext, hblanks],
      fun _ => List.mem_takeWhile_imp, ?_⟩
    have hlength := congrArg List.length hblanks
    rw [List.length_append] at hlength
    cases h
    omega
  · cases h

/-- A word at the end of a text is found behind white space. -/
theorem wordAhead?_blanks_word {word : String} {blanks : List Char} (hword : IsWord word)
    (hb : ∀ c ∈ blanks, isBlank c = true) :
    wordAhead? word (blanks ++ word.toList) = some (blanks.length + word.toList.length) := by
  have hall := hword.isWordChar_of_mem
  obtain ⟨c, cs, hcons, hc, -⟩ := hword
  have hdrop : dropBlanks word.toList = word.toList := by
    rw [hcons, dropBlanks, List.dropWhile_cons_of_neg]
    simp [isBlank_eq_false_of_isWordStart hc]
  have hlead := @leadingWord_append word.toList [] hall (by simp)
  have hread := @wordAhead?_blanks_append word blanks word.toList [] hb hdrop (by simp [hcons])
    (by simp [Pauses])
  rw [List.append_nil] at hlead hread
  rw [hread, if_pos hlead]

/-- Where no word goes on, the next word stands behind white space. -/
theorem pauses_blanks_word {word : String} {blanks tail : List Char} (hword : IsWord word)
    (hb : ∀ c ∈ blanks, isBlank c = true)
    (hhead : ∀ c ∈ (blanks ++ (word.toList ++ tail)).head?, isWordChar c = false) :
    Pauses (blanks ++ word.toList) := by
  obtain ⟨d, ds, hcons, hd, -⟩ := hword
  cases blanks with
  | nil =>
    have hchar := hhead d (by rw [hcons]; rfl)
    rw [isWordChar_of_isWordStart hd] at hchar
    cases hchar
  | cons b bs =>
    rintro _ ⟨⟩
    exact hb b (List.mem_cons_self ..)

/-- A word is read without what stands behind it, but for the word that it is joined with. -/
theorem scan_take_of_isWordStart {c : Char} (hc : isWordStart c = true)
    (h : scan c cs = .found k (m + 1)) : scan c (cs.take m) = .found k (m + 1) := by
  rw [scan_of_isWordStart hc] at h
  have hpath := leadingPath_leadingPath cs
  have hhead := head_behind_leadingPath cs
  have hcs : leadingPath cs ++ cs.drop (leadingPath cs).length = cs :=
    List.prefix_iff_eq_append.1 (leadingPath_isPrefix cs)
  generalize leadingPath cs = path at h hpath hhead hcs
  generalize cs.drop path.length = after at h hhead hcs
  -- a word that is joined takes the gap and the next word, any other its path alone
  by_cases hjoint : ∃ w k' n, Joint (String.ofList (c :: path)) w k' ∧ wordAhead? w after = some n
  · obtain ⟨w, k', n, hj, hw⟩ := hjoint
    have hread := scanWord_of_joint hj hw
    rw [String.toList_ofList] at hread
    obtain ⟨blanks, tail, rfl, hb, rfl⟩ := exists_parts_of_wordAhead? hw
    have hpauses := pauses_blanks_word hj.isWord hb hhead
    have hjoined := scanWord_of_joint hj (wordAhead?_blanks_word hj.isWord hb)
    rw [String.toList_ofList] at hjoined
    have hm : m = (path ++ (blanks ++ w.toList)).length := by
      rw [hread] at h
      injection h with _ htaken
      simp only [List.length_cons, List.length_append] at htaken ⊢
      omega
    have htake : cs.take m = path ++ (blanks ++ w.toList) := by
      rw [← hcs, ← List.append_assoc blanks, ← List.append_assoc path]
      exact List.take_left' hm.symm
    rw [htake, scan_path_append hc hpath hpauses.head_path, hjoined, ← hread, h]
  · have halone : ∀ w k', Joint (String.ofList (c :: path)) w k' → wordAhead? w after = none :=
      fun w k' hj => Option.eq_none_iff_forall_ne_some.2 fun n hn => hjoint ⟨w, k', n, hj, hn⟩
    rw [scanWord_of_alone halone] at h
    obtain ⟨k', hread, -⟩ := @scanWord_of_ending (c :: path) [] nofun
    have hm : m = path.length := by
      rw [hread] at h
      injection h with _ htaken
      exact (Nat.succ.inj htaken).symm
    have hpathAlone := @scan_path_append c path [] hc hpath nofun
    rw [List.append_nil] at hpathAlone
    rw [hm, ← hcs, List.take_left, hpathAlone, h, hm]

/-! ## Any token alone -/

/-- **A token is read from its own characters** as it is where others stand behind them. -/
theorem scan_take {c : Char} (h : scan c cs = .found k (m + 1)) :
    scan c (cs.take m) = .found k (m + 1) := by
  by_cases hdigit : isDigit c = true
  · exact scan_take_of_isDigit hdigit h
  by_cases hc : isWordStart c = true
  · exact scan_take_of_isWordStart hc h
  unfold scan at h
  split at h
  case h_11 | h_13 => cases h
  case h_18 => exact scanPlaceholder_take h
  case h_19 | h_20 => exact scanString_take h
  case h_21 =>
    rw [if_neg hdigit, if_neg hc] at h
    cases h
  all_goals
    cases h
    rfl

end

/-! ## Pieces of a text -/

/-- The characters of a text from one place up to another. -/
def slice (text : String) (start stop : Nat) : String :=
  String.ofList ((text.toList.drop start).take (stop - start))

/-- From one place up to another there is nothing but white space in the text. -/
def BlankBetween (text : String) (start stop : Nat) : Prop :=
  ∀ j c, start ≤ j → j < stop → text.toList[j]? = some c → isBlank c = true

/-- The token that is next from one place on takes the characters of the text up to another. -/
structure Tile (text : String) (start : Nat) (t : Token) (stop : Nat) : Prop where
  /-- It does not begin before the place. -/
  start_le : start ≤ t.position
  /-- White space before it is passed over. -/
  blank : BlankBetween text start t.position
  /-- It has characters. -/
  nonempty : t.position < stop
  /-- They are in the text. -/
  stop_le : stop ≤ text.length
  /-- They are read as the token, and as nothing else, when they stand alone. -/
  alone : tokenize (slice text t.position stop) = .ok [⟨t.kind, 0⟩]

namespace Input

/-- The input is what is left of a text from its position on. -/
structure Of (text : String) (input : Input) : Prop where
  /-- What is left is what there is behind the position. -/
  rest_eq : input.rest = text.toList.drop input.position
  /-- The position is in the text. -/
  position_le : input.position ≤ text.length

variable {text : String} {input after : Input}

theorem of_ofText (text : String) : Of text (ofText text) :=
  ⟨rfl, Nat.zero_le _⟩

theorem Of.length_rest (h : Of text input) : input.rest.length = text.length - input.position := by
  rw [h.rest_eq, List.length_drop, String.length_toList]

theorem Of.drop (h : Of text input) {n : Nat} (hn : n ≤ input.rest.length) :
    Of text (input.drop n) := by
  have hle := h.position_le
  rw [h.length_rest] at hn
  refine ⟨?_, ?_⟩
  · rw [Input.drop, h.rest_eq, List.drop_drop]
  · show input.position + n ≤ text.length
    omega

/-- The characters before a place behind which white space is left out are white space. -/
theorem Of.skipBlanks (h : Of text input) :
    Of text input.skipBlanks ∧ BlankBetween text input.position input.skipBlanks.position := by
  refine ⟨h.drop (Nat.sub_le _ _), fun j c hstart hstop hj => ?_⟩
  have hblanks : input.rest.takeWhile isBlank ++ dropBlanks input.rest = input.rest :=
    List.takeWhile_append_dropWhile
  have hlength := congrArg List.length hblanks
  rw [List.length_append] at hlength
  obtain ⟨i, rfl⟩ := Nat.exists_eq_add_of_le hstart
  have hi : i < (input.rest.takeWhile isBlank).length := by
    have hstop : input.position + i <
        input.position + (input.rest.length - (dropBlanks input.rest).length) := hstop
    omega
  rw [← List.getElem?_drop, ← h.rest_eq, ← hblanks, List.getElem?_append_left hi] at hj
  exact List.mem_takeWhile_imp (List.mem_of_getElem? hj)

/-- **One token takes the next tile of its text.** -/
theorem Of.next (h : Of text input) {t : Token} (hnext : input.next = (.ok (some t), after)) :
    Of text after ∧ Tile text input.position t after.position := by
  obtain ⟨c, cs, n, hrest, hscan, hposition, rfl⟩ := next_eq_some hnext
  obtain ⟨hskip, hblank⟩ := h.skipBlanks
  have hpos : 0 < n := by
    have htaken : 0 < (scan c cs).taken := scan_taken_pos (by rw [hscan]; rfl)
    rwa [hscan] at htaken
  have hle : n ≤ cs.length + 1 := by
    have htaken := scan_taken_le c cs
    rwa [hscan] at htaken
  obtain ⟨m, rfl⟩ : ∃ m, n = m + 1 := ⟨n - 1, by omega⟩
  have hafter : Of text (input.skipBlanks.drop (m + 1)) := hskip.drop (by rw [hrest]; exact hle)
  refine ⟨hafter, ?_, ?_, ?_, hafter.position_le, ?_⟩
  · rw [hposition]
    exact Nat.le_add_right _ _
  · rw [hposition]
    exact hblank
  · rw [hposition]
    exact Nat.lt_add_of_pos_right hpos
  · have hb : isBlank c = false :=
      head_dropBlanks input.rest c (by rw [← skipBlanks_rest, hrest]; rfl)
    have hslice : slice text t.position (input.skipBlanks.drop (m + 1)).position =
        String.ofList (c :: cs.take m) := by
      show String.ofList ((text.toList.drop t.position).take
        (input.skipBlanks.position + (m + 1) - t.position)) = _
      rw [hposition, Nat.add_sub_cancel_left, ← hskip.rest_eq, hrest, List.take_succ_cons]
    rw [hslice]
    refine tokenize_of_found hb ?_
    rw [scan_take hscan, List.length_take, Nat.min_eq_left (Nat.le_of_succ_le_succ hle)]

/-- Behind the last token there is nothing but white space. -/
theorem Of.blank_of_next_none (h : Of text input) (hnext : input.next = (.ok none, after)) :
    BlankBetween text input.position text.length := by
  obtain ⟨-, hblank⟩ := h.skipBlanks
  obtain ⟨hnil, -⟩ := next_none hnext
  have hend : input.skipBlanks.position = text.length := by
    show input.position + (input.rest.length - (dropBlanks input.rest).length) = _
    have hle := h.position_le
    rw [hnil, h.length_rest]
    simp only [List.length_nil]
    omega
  rwa [hend] at hblank

end Input

/-! ## Cursors that move from token to token -/

namespace Cursor

/-- Where the cursor is in a text once it has moved some number of times. -/
def offset (source : String) (moves : Nat) : Nat :=
  ((ofText source).after (List.replicate moves .next)).input.position

theorem after_succ (cursor : Cursor) (moves : Nat) :
    cursor.after (List.replicate (moves + 1) .next) =
      (cursor.after (List.replicate moves .next)).next.2 := by
  rw [List.replicate_succ', after, List.foldl_append]
  rfl

/-- The cursor has looked no further than it has come along the tokens of its text. -/
structure Level (source : String) (tokens : List Token) (moved : Nat) (cursor : Cursor) : Prop where
  /-- No token was looked at ahead of its time. -/
  ahead_eq : cursor.ahead = []
  /-- The cursor goes on in its text. -/
  of_source : cursor.input.Of source
  /-- It has the other tokens before it. -/
  holds : cursor.input.Holds (tokens.drop moved)

variable {source : String} {tokens : List Token} {moved : Nat} {cursor : Cursor}

/-- **One move takes the cursor behind the next tile.** -/
theorem Level.next (h : Level source tokens moved cursor) (hmoved : moved < tokens.length) :
    Level source tokens (moved + 1) cursor.next.2 ∧
      cursor.next.2.current = some tokens[moved] ∧
      Tile source cursor.input.position tokens[moved] cursor.next.2.input.position := by
  have hholds := h.holds
  rw [List.drop_eq_getElem_cons hmoved] at hholds
  obtain ⟨after, hnext, hafter⟩ := hholds.cons
  obtain ⟨hof, htile⟩ := h.of_source.next hnext
  have hmove : cursor.next.2 = ⟨after, [], some tokens[moved]⟩ := by
    unfold Cursor.next
    rw [h.ahead_eq, hnext]
  rw [hmove]
  exact ⟨⟨rfl, hof, hafter⟩, rfl, htile⟩

theorem level_ofText (h : tokenize source = .ok tokens) :
    Level source tokens 0 (ofText source) := by
  obtain ⟨unread, hholds, hleft⟩ := (at_ofText h).left
  refine ⟨rfl, Input.of_ofText source, ?_⟩
  rw [← hleft]
  exact hholds

/-- The cursor stays level with the tokens while it moves. -/
theorem level_after (h : tokenize source = .ok tokens) (hmoved : moved ≤ tokens.length) :
    Level source tokens moved ((ofText source).after (List.replicate moved .next)) := by
  induction moved with
  | zero => exact level_ofText h
  | succ moved ih =>
    rw [after_succ]
    exact ((ih (Nat.le_of_lt hmoved)).next hmoved).1

/-- A move to a token takes its tile. -/
theorem tile_offset (h : tokenize source = .ok tokens) {i : Nat} (hi : i < tokens.length) :
    Tile source (offset source i) tokens[i] (offset source (i + 1)) := by
  have htile := ((level_after h (Nat.le_of_lt hi)).next hi).2.2
  rwa [← after_succ] at htile

/-- What is in no tile is white space, as far as the cursor has come. -/
theorem isBlank_of_lt_offset (h : tokenize source = .ok tokens) {j : Nat} {c : Char}
    (hj : source.toList[j]? = some c)
    (hout : ∀ i (hi : i < tokens.length),
      ¬(tokens[i].position ≤ j ∧ j < offset source (i + 1))) {moved : Nat}
    (hmoved : moved ≤ tokens.length) (hlt : j < offset source moved) : isBlank c = true := by
  -- by the move that passed the character: it is not in the tile, and so before the token
  induction moved with
  | zero => exact absurd hlt (Nat.not_lt_zero j)
  | succ moved ih =>
    rcases Nat.lt_or_ge j (offset source moved) with hbefore | hbehind
    · exact ih (Nat.le_of_lt hmoved) hbefore
    · have hposition : j < tokens[moved].position :=
        Nat.lt_of_not_le fun hle => hout moved hmoved ⟨hle, hlt⟩
      exact (tile_offset h hmoved).blank j c hbehind hposition hj

/-- **The tokens of a text tile it.**  Once the cursor has moved to a token it is behind it, in the
text and not beyond the beginning of the next token; the characters of the token are read as this
token and nothing else when they stand alone; and every character that no token takes is white
space. -/
theorem tokens_tile (h : tokenize source = .ok tokens) :
    (∀ i (hi : i < tokens.length),
      ((ofText source).after (List.replicate (i + 1) .next)).current = some tokens[i] ∧
      tokens[i].position < offset source (i + 1) ∧
      (∀ hnext : i + 1 < tokens.length, offset source (i + 1) ≤ tokens[i + 1].position) ∧
      offset source (i + 1) ≤ source.length ∧
      tokenize (slice source tokens[i].position (offset source (i + 1))) =
        .ok [⟨tokens[i].kind, 0⟩]) ∧
    ∀ j c, source.toList[j]? = some c →
      (∀ i (hi : i < tokens.length),
        ¬(tokens[i].position ≤ j ∧ j < offset source (i + 1))) → isBlank c = true := by
  constructor
  · intro i hi
    have hmove := ((level_after h (Nat.le_of_lt hi)).next hi).2.1
    rw [← after_succ] at hmove
    have htile := tile_offset h hi
    exact ⟨hmove, htile.nonempty, fun hnext => (tile_offset h hnext).start_le, htile.stop_le,
      htile.alone⟩
  · intro j c hj hout
    rcases Nat.lt_or_ge j (offset source tokens.length) with hlt | hge
    · exact isBlank_of_lt_offset h hj hout (Nat.le_refl _) hlt
    · have hlevel := level_after h (Nat.le_refl _)
      have hholds := hlevel.holds
      rw [List.drop_length] at hholds
      obtain ⟨after, hnext, -⟩ := hholds.nil
      have hlength : j < source.length := by
        rw [← String.length_toList]
        exact (List.getElem?_eq_some_iff.1 hj).1
      exact hlevel.of_source.blank_of_next_none hnext j c hge hlength hj

/-- Two words that are joined across white space, and a placeholder with white space in it. -/
theorem tokens_tile_placeholder :
    offset "x is  not { n }" 2 = 9 ∧
      tokenize (slice "x is  not { n }" 2 9) = .ok [⟨.operator (.comparison .isNot), 0⟩] ∧
      tokenize (slice "x is  not { n }" 10 (offset "x is  not { n }" 3)) =
        .ok [⟨.placeholder (some "n"), 0⟩] ∧
      isBlank ' ' = true := by
  have htokens : tokenize "x is  not { n }" = .ok [⟨.identifier "x", 0⟩,
      ⟨.operator (.comparison .isNot), 2⟩, ⟨.placeholder (some "n"), 10⟩] := by
    with_unfolding_all rfl
  have hfirst : offset "x is  not { n }" 1 = 1 := by with_unfolding_all rfl
  have hsecond : offset "x is  not { n }" 2 = 9 := by with_unfolding_all rfl
  obtain ⟨htiles, hblank⟩ := tokens_tile htokens
  have hjoined := (htiles 1 (by decide)).2.2.2.2
  rw [hsecond] at hjoined
  refine ⟨hsecond, hjoined, (htiles 2 (by decide)).2.2.2.2, hblank 9 ' ' rfl ?_⟩
  intro i hi
  match i, hi with
  | 0, _ =>
    rw [hfirst]
    exact fun h => absurd h.2 (by decide)
  | 1, _ =>
    rw [hsecond]
    exact fun h => absurd h.2 (by decide)
  | 2, _ => exact fun h => absurd (show 10 ≤ 9 from h.1) (by decide)

end Cursor

end FieldQuery
