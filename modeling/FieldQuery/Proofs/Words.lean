import FieldQuery.Token.Lexer

/-!
# Characters and words

What the character classes of queries have to do with each other, and how far a word or path
reaches: as far as it can, so that what is spelled by itself is spelled the same before a blank,
a closing parenthesis or a comma.

* `isBlank_eq_false_of_isWordStart` — no word begins with white space.
* `leadingWord_append`, `leadingPath_append` — a word or path ends where something else begins.
* `IsSpelling` — the texts that are read as one path and are no word of the language.
* `Path.isProper_ofText`, `Path.IsProper.ofText_text` — what a spelling denotes is a proper path,
  and a proper path is spelled by its own text.
-/

namespace FieldQuery

namespace Text

/-! ## Character classes -/

/-- A code point that a table holds is in one of its ranges. -/
theorem Ranges.exists_of_holds {table : Ranges} {n : Nat} (h : table.holds n = true) :
    ∃ r ∈ table, r.1 ≤ n ∧ n ≤ r.2 := by
  induction table with
  | nil => simp [Ranges.holds] at h
  | cons r rest ih =>
    obtain ⟨low, high⟩ := r
    rw [Ranges.holds] at h
    split at h
    · simp at h
    · rename_i hlow
      rcases Bool.or_eq_true _ _ ▸ h with hhigh | hrest
      · exact ⟨(low, high), List.mem_cons_self .., Nat.not_lt.1 hlow, of_decide_eq_true hhigh⟩
      · obtain ⟨r, hr, hb⟩ := ih hrest
        exact ⟨r, List.mem_cons_of_mem _ hr, hb⟩

set_option maxRecDepth 100000 in
/-- No blank is a letter or numeral. -/
theorem blanks_disjoint : ∀ r ∈ blanks, ∀ n ∈ List.range' r.1 (r.2 + 1 - r.1),
    letters.holds n = false ∧ numerals.holds n = false ∧ n ≠ '_'.toNat := by
  decide

/-- White space is nothing that a word can hold. -/
theorem isWordChar_eq_false_of_isBlank {c : Char} (h : isBlank c = true) :
    isWordChar c = false := by
  obtain ⟨r, hr, hlow, hhigh⟩ := Ranges.exists_of_holds h
  obtain ⟨hl, hn, hu⟩ := blanks_disjoint r hr c.toNat (by rw [List.mem_range'_1]; omega)
  have hne : c ≠ '_' := fun he => hu (by rw [he])
  simp [isWordChar, isLetter, isNumeral, Ranges.contains, hl, hn, hne]

/-- What a word can hold is no white space. -/
theorem isBlank_eq_false_of_isWordChar {c : Char} (h : isWordChar c = true) :
    isBlank c = false := by
  refine Bool.eq_false_iff.2 fun hb => ?_
  rw [isWordChar_eq_false_of_isBlank hb] at h
  cases h

/-- No word begins with white space. -/
theorem isBlank_eq_false_of_isWordStart {c : Char} (h : isWordStart c = true) :
    isBlank c = false :=
  isBlank_eq_false_of_isWordChar (isWordChar_of_isWordStart h)

/-- No digit is a letter, and none is white space. -/
theorem digits_disjoint : ∀ n ∈ List.range' '0'.toNat 10,
    letters.holds n = false ∧ blanks.holds n = false ∧ n ≠ '_'.toNat := by
  decide

theorem mem_range_of_isDigit {c : Char} (h : Number.isDigit c = true) :
    c.toNat ∈ List.range' '0'.toNat 10 := by
  simp only [Number.isDigit, Bool.and_eq_true, decide_eq_true_eq] at h
  have hlow : '0'.toNat ≤ c.toNat := h.1
  have hhigh : c.toNat ≤ '9'.toNat := h.2
  rw [List.mem_range'_1]
  simp only [Char.reduceToNat] at hlow hhigh ⊢
  omega

/-- No word begins with a digit. -/
theorem isDigit_eq_false_of_isWordStart {c : Char} (h : isWordStart c = true) :
    Number.isDigit c = false := by
  refine Bool.eq_false_iff.2 fun hd => ?_
  obtain ⟨hl, _, hu⟩ := digits_disjoint c.toNat (mem_range_of_isDigit hd)
  have hne : c ≠ '_' := fun he => hu (by rw [he])
  simp [isWordStart, isLetter, Ranges.contains, hl, hne] at h

/-- No digit is white space. -/
theorem isBlank_eq_false_of_isDigit {c : Char} (h : Number.isDigit c = true) :
    isBlank c = false :=
  (digits_disjoint c.toNat (mem_range_of_isDigit h)).2.1

set_option maxRecDepth 10000 in
theorem wordChars_of_hexDigits : ∀ n ∈ List.range ('f'.toNat + 1),
    Number.isHexDigit (Char.ofNat n) = true → isWordChar (Char.ofNat n) = true := by
  decide

/-- Digits can stand in a word, those of base sixteen as well. -/
theorem isWordChar_of_isHexDigit {c : Char} (h : Number.isHexDigit c = true) :
    isWordChar c = true := by
  have hle : c.toNat ≤ 'f'.toNat := by
    simp only [Number.isHexDigit, Number.isDigit, Bool.or_eq_true, Bool.and_eq_true,
      decide_eq_true_eq] at h
    rcases h with (⟨-, hhigh⟩ | ⟨-, hhigh⟩) | ⟨-, hhigh⟩
    · exact Nat.le_trans (m := '9'.toNat) hhigh (by decide)
    · exact hhigh
    · exact Nat.le_trans (m := 'F'.toNat) hhigh (by decide)
  have hchar := wordChars_of_hexDigits c.toNat (List.mem_range.2 (Nat.lt_succ_of_le hle))
  rw [Char.ofNat_toNat] at hchar
  exact hchar h

theorem isWordChar_of_isDigit {c : Char} (h : Number.isDigit c = true) : isWordChar c = true :=
  isWordChar_of_isHexDigit (by simp [Number.isHexDigit, h])

/-- No separator of a path is part of a word. -/
theorem isSeparator_eq_false_of_isWordChar {c : Char} (h : isWordChar c = true) :
    Path.isSeparator c = false := by
  refine Bool.eq_false_iff.2 fun hs => ?_
  simp only [Path.isSeparator, Bool.or_eq_true, beq_iff_eq] at hs
  rcases hs with rfl | rfl
  · exact absurd h (by decide)
  · exact absurd h (by decide)

/-- No part of a word is a separator of a path. -/
theorem isWordChar_eq_false_of_isSeparator {c : Char} (h : Path.isSeparator c = true) :
    isWordChar c = false := by
  refine Bool.eq_false_iff.2 fun hw => ?_
  rw [isSeparator_eq_false_of_isWordChar hw] at h
  cases h

/-! ## How far a word reaches -/

/-- A word ends where something else begins. -/
theorem leadingWord_append {word after : List Char} (hw : ∀ c ∈ word, isWordChar c = true)
    (ha : ∀ c ∈ after.head?, isWordChar c = false) : leadingWord (word ++ after) = word := by
  rw [leadingWord, List.takeWhile_append_of_pos hw]
  cases after with
  | nil => simp
  | cons c cs =>
    have hc : isWordChar c = false := ha c (by simp)
    simp [hc]

/-- A path ends where something else begins. -/
theorem leadingPath_append {path after : List Char}
    (ha : ∀ c ∈ after.head?, isWordChar c = false ∧ Path.isSeparator c = false) :
    leadingPath (path ++ after) = leadingPath path := by
  induction path with
  | nil =>
    cases after with
    | nil => rfl
    | cons c cs =>
      obtain ⟨hw, hs⟩ := ha c (by simp)
      simp [leadingPath, hw, hs]
  | cons c cs ih =>
    -- what follows begins no word behind a separator
    have hhead : ((cs ++ after).head?.map isWordStart).getD false =
        (cs.head?.map isWordStart).getD false := by
      cases cs with
      | cons d ds => rfl
      | nil =>
        cases after with
        | nil => rfl
        | cons d ds =>
          exact Bool.eq_false_iff.2 (mt isWordChar_of_isWordStart (Bool.eq_false_iff.1 (ha d rfl).1))
    rw [List.cons_append, leadingPath, hhead, ih, leadingPath]

/-- What begins a word is the beginning of a path. -/
theorem leadingPath_cons {c : Char} (h : isWordStart c = true) (cs : List Char) :
    leadingPath (c :: cs) = c :: leadingPath cs := by
  rw [leadingPath, if_pos (by simp [isWordChar_of_isWordStart h])]

/-! ## Spelling of names -/

/-- Is the text a word? -/
def IsWord (s : String) : Prop :=
  ∃ c cs, s.toList = c :: cs ∧ isWordStart c = true ∧ ∀ d ∈ cs, isWordChar d = true

/-- The words with a meaning in the language. -/
def reservedWords : List String :=
  ["is", "not", "in", "and", "or", "matches", "where", "any", "each", "has", "component", "isa"]

/-- Is the text read as one path, and no word of the language? -/
def IsSpelling (s : String) : Prop :=
  (∃ c cs, s.toList = c :: cs ∧ isWordStart c = true ∧ leadingPath cs = cs) ∧ s ∉ reservedWords

/-- Every character of a word is a word character. -/
theorem IsWord.isWordChar_of_mem {s : String} (h : IsWord s) : ∀ c ∈ s.toList,
    isWordChar c = true := by
  obtain ⟨c, cs, hs, hc, hcs⟩ := h
  rw [hs]
  intro d hd
  rcases List.mem_cons.1 hd with rfl | hd
  · exact isWordChar_of_isWordStart hc
  · exact hcs d hd

end Text

namespace Path

open Text

/-- Is the path one that a text spells: at least one name, each of them a word, and no lone
word of the language? -/
structure IsProper (p : Path) : Prop where
  /-- There is a name. -/
  ne_nil : p.segments ≠ []
  /-- The names are words. -/
  isWord : ∀ s ∈ p.segments, IsWord s
  /-- A lone name is no word of the language. -/
  not_reserved : ∀ s ∈ reservedWords, p.segments ≠ [s]

/-- What is read of a path before a character is seen: nothing before a word begins, or the
beginning of a word. -/
def Begun (read : List Char) (cs : List Char) : Prop :=
  (read = [] ∧ ∃ d ds, cs = d :: ds ∧ isWordStart d = true) ∨
    ∃ c word, read.reverse = c :: word ∧ isWordStart c = true ∧ ∀ d ∈ word, isWordChar d = true

/-- The pieces of a path are words, there is one, and a lone piece is all of the text. -/
theorem pieces_of_begun {cs : List Char} (hp : leadingPath cs = cs) :
    ∀ read, Begun read cs → pieces read cs ≠ [] ∧ (∀ s ∈ pieces read cs, IsWord s) ∧
      ∀ s, pieces read cs = [s] → s = String.ofList (read.reverse ++ cs) := by
  induction cs with
  | nil =>
    rintro read (⟨rfl, d, ds, hnil, _⟩ | ⟨c, word, hr, hc, hword⟩)
    · cases hnil
    · have hne : read ≠ [] := by rintro rfl; cases hr
      have hpieces : pieces read [] = [String.ofList read.reverse] := by
        cases read with
        | nil => exact absurd rfl hne
        | cons _ _ => rfl
      rw [hpieces]
      refine ⟨by simp, fun s hs => ?_, fun s hs => by simpa using hs.symm⟩
      rw [List.mem_singleton.1 hs]
      exact ⟨c, word, by rw [String.toList_ofList, hr], hc, hword⟩
  | cons c cs ih =>
    intro read hb
    rw [leadingPath] at hp
    split at hp
    · rename_i hc
      have ih := ih (List.cons.inj hp).2
      by_cases hsep : isSeparator c = true
      · have hword : Text.isWordChar c = false := by
          refine Bool.eq_false_iff.2 fun hw => ?_
          rw [isSeparator_eq_false_of_isWordChar hw] at hsep
          cases hsep
        have hnext : ∃ d ds, cs = d :: ds ∧ isWordStart d = true := by
          cases cs with
          | nil => simp [hword] at hc
          | cons d ds => exact ⟨d, ds, rfl, by simpa [hword, hsep] using hc⟩
        obtain ⟨hne, hwords, hlone⟩ := ih [] (.inl ⟨rfl, hnext⟩)
        rcases hb with ⟨rfl, d, ds, hd, hstart⟩ | ⟨c', word, hr, hc', hword'⟩
        · cases hd
          rw [isWordChar_of_isWordStart hstart] at hword
          cases hword
        · have hread : read.isEmpty = false := by
            cases read with
            | nil => cases hr
            | cons _ _ => rfl
          have hpieces : pieces read (c :: cs) = String.ofList read.reverse :: pieces [] cs := by
            cases read with
            | nil => cases hr
            | cons _ _ => simp [pieces, hsep]
          rw [hpieces]
          refine ⟨by simp, fun s hs => ?_, fun s hs => ?_⟩
          · rcases List.mem_cons.1 hs with rfl | hs
            · exact ⟨c', word, by rw [String.toList_ofList, hr], hc', hword'⟩
            · exact hwords s hs
          · exact absurd (List.cons.inj hs).2 hne
      · have hword : Text.isWordChar c = true := by simpa [hsep] using hc
        have hpieces : pieces read (c :: cs) = pieces (c :: read) cs := by
          cases read <;> simp [pieces, hsep]
        have hbegun : Begun (c :: read) cs := by
          rcases hb with ⟨rfl, d, ds, hd, hstart⟩ | ⟨c', word, hr, hc', hword'⟩
          · cases hd
            exact .inr ⟨c, [], rfl, hstart, by simp⟩
          · refine .inr ⟨c', word ++ [c], by simp [hr], hc', fun d hd => ?_⟩
            rcases List.mem_append.1 hd with hd | hd
            · exact hword' d hd
            · rw [List.mem_singleton.1 hd]; exact hword
        obtain ⟨hne, hwords, hlone⟩ := ih (c :: read) hbegun
        rw [hpieces]
        exact ⟨hne, hwords, fun s hs => by rw [hlone s hs]; simp⟩
    · cases hp

/-- The path that a spelling denotes is proper. -/
theorem isProper_ofText {s : String} (h : IsSpelling s) : (ofText s).IsProper := by
  obtain ⟨⟨c, cs, hs, hc, hcs⟩, hr⟩ := h
  have hp : leadingPath s.toList = s.toList := by
    rw [hs, leadingPath_cons hc, hcs]
  obtain ⟨hne, hwords, hlone⟩ := pieces_of_begun hp [] (.inl ⟨rfl, c, cs, hs, hc⟩)
  refine ⟨hne, hwords, fun w hw hsegments => hr ?_⟩
  have := hlone w hsegments
  rw [List.reverse_nil, List.nil_append, String.ofList_toList] at this
  rwa [← this]

/-! ## The text of a path -/

theorem leadingPath_word_append {word : List Char} (hw : ∀ c ∈ word, Text.isWordChar c = true)
    (rest : List Char) : leadingPath (word ++ rest) = word ++ leadingPath rest := by
  induction word with
  | nil => rfl
  | cons c cs ih =>
    rw [List.cons_append, leadingPath, if_pos (by simp [hw c (List.mem_cons_self ..)]),
      ih fun d hd => hw d (List.mem_cons_of_mem _ hd), List.cons_append]

theorem pieces_word_append {word : List Char} (hw : ∀ c ∈ word, Text.isWordChar c = true)
    (read rest : List Char) : pieces read (word ++ rest) = pieces (word.reverse ++ read) rest := by
  induction word generalizing read with
  | nil => rfl
  | cons c cs ih =>
    have hsep := isSeparator_eq_false_of_isWordChar (hw c (List.mem_cons_self ..))
    have hstep : pieces read (c :: (cs ++ rest)) = pieces (c :: read) (cs ++ rest) := by
      cases read <;> simp [pieces, hsep]
    rw [List.cons_append, hstep, ih fun d hd => hw d (List.mem_cons_of_mem _ hd)]
    simp

/-- The names of a path, set apart by `/`, are read as one path with these names. -/
theorem pieces_intercalate {names : List String} (hne : names ≠ [])
    (hw : ∀ s ∈ names, IsWord s) :
    (∃ c cs, (String.intercalate "/" names).toList = c :: cs ∧ isWordStart c = true ∧
      leadingPath cs = cs) ∧
      pieces [] (String.intercalate "/" names).toList = names := by
  induction names with
  | nil => exact absurd rfl hne
  | cons w rest ih =>
    have hword := (hw w (List.mem_cons_self ..)).isWordChar_of_mem
    obtain ⟨c, cs, hc, hstart, hcs⟩ := hw w (List.mem_cons_self ..)
    cases rest with
    | nil =>
      rw [String.intercalate_singleton]
      refine ⟨⟨c, cs, hc, hstart, ?_⟩, ?_⟩
      · have := leadingPath_word_append hcs []
        rwa [List.append_nil, leadingPath, List.append_nil] at this
      · have := pieces_word_append hword [] []
        rw [List.append_nil, List.append_nil] at this
        rw [this, hc]
        cases hr : (c :: cs).reverse with
        | nil => simp at hr
        | cons d ds => rw [pieces, ← hr, List.reverse_reverse, ← hc, String.ofList_toList]; simp
    | cons u more =>
      obtain ⟨⟨d, ds, hd, hdstart, hds⟩, hpieces⟩ :=
        ih (by simp) fun s hs => hw s (List.mem_cons_of_mem _ hs)
      have hlist : (String.intercalate "/" (w :: u :: more)).toList = w.toList ++ '/' :: d :: ds := by
        rw [String.intercalate_cons_cons, String.toList_append, String.toList_append, hd]
        simp
      refine ⟨⟨c, cs ++ '/' :: d :: ds, by rw [hlist, hc]; rfl, hstart, ?_⟩, ?_⟩
      · rw [leadingPath_word_append hcs, leadingPath, if_pos (by simp [isSeparator, hdstart]),
          leadingPath_cons hdstart, hds]
      · have hread : (w.toList.reverse ++ []).isEmpty = false := by simp [hc]
        rw [hlist, pieces_word_append hword]
        cases hr : w.toList.reverse ++ [] with
        | nil => simp [hr] at hread
        | cons e es =>
          rw [pieces, if_pos (by rfl), if_neg (by simp), ← hr, ← hd, hpieces]
          simp

/-- No word of the language has a separator. -/
theorem slash_notMem_of_reserved : ∀ w ∈ reservedWords, '/' ∉ w.toList := by
  decide

/-- The text of a proper path is a spelling. -/
theorem IsProper.isSpelling_text {p : Path} (h : p.IsProper) : IsSpelling p.text := by
  have htext : p.text = String.intercalate "/" p.segments := by
    rw [text, isCurrent, if_neg (by simpa using h.ne_nil)]
  rw [htext]
  refine ⟨(pieces_intercalate h.ne_nil h.isWord).1, fun hr => ?_⟩
  cases hsegments : p.segments with
  | nil => exact h.ne_nil hsegments
  | cons w rest =>
    cases rest with
    | nil =>
      rw [hsegments, String.intercalate_singleton] at hr
      exact h.not_reserved w hr hsegments
    | cons u more =>
      refine slash_notMem_of_reserved _ hr ?_
      rw [hsegments, String.intercalate_cons_cons]
      simp

/-- The text of a path begins with its first name. -/
theorem IsProper.leadingWord_text {p : Path} {w : String} {rest : List String}
    (h : p.IsProper) (hw : p.segments = w :: rest) : leadingWord p.text.toList = w.toList := by
  have hword := (h.isWord w (by rw [hw]; exact List.mem_cons_self ..)).isWordChar_of_mem
  have htext : p.text = String.intercalate "/" (w :: rest) := by
    rw [text, isCurrent, if_neg (by simp [hw]), hw]
  rw [htext]
  cases rest with
  | nil =>
    rw [String.intercalate_singleton]
    have := @leadingWord_append w.toList [] hword (by simp)
    rwa [List.append_nil] at this
  | cons u more =>
    rw [String.intercalate_cons_cons, String.append_assoc, String.toList_append]
    refine leadingWord_append hword ?_
    rw [String.toList_append]
    rintro c ⟨⟩
    decide

/-- **The text of a proper path spells it.** -/
theorem IsProper.ofText_text {p : Path} (h : p.IsProper) : ofText p.text = p := by
  have htext : p.text = String.intercalate "/" p.segments := by
    rw [text, isCurrent, if_neg (by simpa using h.ne_nil)]
  rw [ofText, htext, (pieces_intercalate h.ne_nil h.isWord).2]

end Path

end FieldQuery
