import FieldQuery.Proofs.Pauses

/-!
# White space between lexemes

A text that is put together from lexemes with white space around each of them is read lexeme by
lexeme.  What it is read as does not depend on the white space, although the tokenizer looks
across it to join `is` with `not` and `not` with `in`.

* `Gap`, `Lexeme`, `joined` — white space, texts that are one token, and how they make a text.
* `Lexeme.isPath_or_scan` — a lexeme is a word or path, or is read in one way before any pause.
* `Lexeme.Reading` — whether a lexeme is a token of its own before others.
* `kinds?_joined` — the tokens of a text of lexemes.
-/

namespace FieldQuery

open Text Number

/-! ## Lexemes and the gaps between them -/

/-- White space between lexemes. -/
structure Gap where
  /-- The white space. -/
  text : String
  /-- There is some. -/
  ne_empty : text ≠ ""
  /-- It is nothing but white space. -/
  isBlank_of_mem : ∀ c ∈ text.toList, isBlank c = true

/-- A text that is one token, with no white space around it, and not of two words. -/
structure Lexeme where
  /-- The text. -/
  text : String
  /-- What the token is. -/
  kind : TokenKind
  /-- The text is read as this token. -/
  kinds?_text : kinds? text = some [kind]
  /-- No white space is before it. -/
  isBlank_head : ∀ c ∈ text.toList.head?, isBlank c = false
  /-- No white space is behind it. -/
  isBlank_getLast : ∀ c ∈ text.toList.getLast?, isBlank c = false
  /-- It is not one of the operators that are two words. -/
  not_joint : ∀ s w, ¬ Joint s w kind

/-- The text of lexemes with gaps between, before and after them. -/
def joined (gap : Nat → Gap) : List Lexeme → String
  | [] => (gap 0).text
  | l :: ls => (gap 0).text ++ (l.text ++ joined (fun i => gap (i + 1)) ls)

/-- What the tokenizer makes of tokens: from left to right it joins `is` with `not` and `not` with
`in`. -/
def merged : List TokenKind → List TokenKind
  | .operator (.comparison .is) :: .keyword .not :: ks =>
    .operator (.comparison .isNot) :: merged ks
  | .keyword .not :: .operator (.comparison .member) :: ks =>
    .operator (.comparison .notMember) :: merged ks
  | k :: ks => k :: merged ks
  | [] => []

/-- Is the token a path of several names, the first of which is the given one? -/
def TokenKind.IsPathFrom (first : String) (k : TokenKind) : Prop :=
  ∃ spelling name names, k = .identifier spelling ∧
    (Path.ofText spelling).segments = first :: name :: names

/-- Would the tokenizer join the first lexeme with the first name of the path behind it? -/
def Lexeme.Clashes (l m : Lexeme) : Prop :=
  (l.text = "not" ∧ m.kind.IsPathFrom "in") ∨ (l.text = "is" ∧ m.kind.IsPathFrom "not")

/-- A gap is a pause, whatever follows. -/
theorem Gap.pauses_append (g : Gap) (after : List Char) : Pauses (g.text.toList ++ after) := by
  intro c hc
  cases htext : g.text.toList with
  | nil => exact absurd (String.toList_eq_nil_iff.1 htext) g.ne_empty
  | cons d ds =>
    rw [htext] at hc
    cases hc
    exact g.isBlank_of_mem c (by rw [htext]; exact List.mem_cons_self ..)

theorem pauses_joined (gap : Nat → Gap) (ls : List Lexeme) : Pauses (joined gap ls).toList := by
  cases ls with
  | nil => simpa [joined] using (gap 0).pauses_append []
  | cons l ls =>
    rw [joined, String.toList_append]
    exact (gap 0).pauses_append _

/-- Nothing before the first lexeme is read. -/
theorem kinds?_joined_cons (gap : Nat → Gap) (l : Lexeme) (ls : List Lexeme) :
    kinds? (joined gap (l :: ls)) = kinds? (l.text ++ joined (fun i => gap (i + 1)) ls) :=
  kinds?_blanks_append (gap 0).isBlank_of_mem

theorem kinds?_joined_nil (gap : Nat → Gap) : kinds? (joined gap []) = some [] :=
  kinds?_of_blanks (gap 0).isBlank_of_mem

/-! ## Paths -/

/-- No white space is part of a path. -/
theorem isBlank_eq_false_of_mem_leadingPath {d : Char} {cs : List Char} (h : d ∈ leadingPath cs) :
    isBlank d = false := by
  induction cs with
  | nil => cases h
  | cons c cs ih =>
    rw [leadingPath] at h
    split at h
    · rename_i hc
      rcases List.mem_cons.1 h with rfl | h
      · rcases Bool.or_eq_true _ _ ▸ hc with hword | hsep
        · exact isBlank_eq_false_of_isWordChar hword
        · simp only [Path.isSeparator, Bool.and_eq_true, Bool.or_eq_true, beq_iff_eq] at hsep
          rcases hsep.1 with rfl | rfl
          · decide
          · decide
      · exact ih h
    · cases h

/-- Behind the first name of a path is nothing, or a separator and another path. -/
theorem nil_or_separator_of_leadingPath {rest : List Char} (hpath : leadingPath rest = rest)
    (hword : leadingWord rest = []) : rest = [] ∨ ∃ s d ds, rest = s :: d :: ds ∧
      Path.isSeparator s = true ∧ isWordStart d = true ∧ leadingPath ds = ds := by
  cases rest with
  | nil => exact .inl rfl
  | cons s rest =>
    have hs : isWordChar s = false := by
      refine Bool.eq_false_iff.2 fun hs => ?_
      rw [leadingWord, List.takeWhile_cons_of_pos hs] at hword
      cases hword
    rw [leadingPath] at hpath
    split at hpath
    · rename_i hc
      have hrest := (List.cons.inj hpath).2
      cases rest with
      | nil => simp [hs] at hc
      | cons d ds =>
        obtain ⟨hsep, hd⟩ : Path.isSeparator s = true ∧ isWordStart d = true := by
          simpa [hs] using hc
        rw [leadingPath_cons hd] at hrest
        exact .inr ⟨s, d, ds, rfl, hsep, hd, (List.cons.inj hrest).2⟩
    · cases hpath

/-! ## How a lexeme is read -/

theorem Scans.isBlank_of_nil {cs : List Char} (h : Scans cs []) : ∀ c ∈ cs, isBlank c = true := by
  generalize hks : ([] : List TokenKind) = ks at h
  induction h with
  | nil => simp
  | blank hb _ ih =>
    intro c hc
    rcases List.mem_cons.1 hc with rfl | hc
    · exact hb
    · exact ih hks c hc
  | token _ _ _ _ => cases hks

namespace Lexeme

/-- A lexeme is read by one scan that takes all of it. -/
theorem exists_scan (l : Lexeme) : ∃ c cs n, l.text.toList = c :: cs ∧ isBlank c = false ∧
    scan c cs = .found l.kind n ∧ cs.length + 1 ≤ n := by
  have hscans := kinds?_eq_some_iff.1 l.kinds?_text
  have hhead := l.isBlank_head
  have hlast := l.isBlank_getLast
  generalize l.text.toList = text at hscans hhead hlast
  cases hscans with
  | blank hb _ =>
    rw [hhead _ rfl] at hb
    cases hb
  | @token c cs _ n _ hb hscan hrest =>
    refine ⟨c, cs, n, rfl, hb, hscan, Nat.le_of_not_lt fun hlt => ?_⟩
    -- what is left would be white space at the end
    have hdrop : ((c :: cs).drop n).getLast? = (c :: cs).getLast? := by
      rw [List.getLast?_drop, if_neg (by simpa using hlt)]
    obtain ⟨d, hd⟩ : ∃ d, (c :: cs).getLast? = some d :=
      ⟨_, List.getLast?_eq_some_getLast (List.cons_ne_nil _ _)⟩
    have hblank := hrest.isBlank_of_nil d (List.mem_of_getLast? (by rw [hdrop, hd]))
    rw [hlast d hd] at hblank
    cases hblank

/-- Is the lexeme a word or path? -/
def IsPath (l : Lexeme) : Prop :=
  ∃ c cs, l.text.toList = c :: cs ∧ isWordStart c = true ∧ leadingPath cs = cs

/-- A lexeme that is no word or path is read in the same way before any pause. -/
theorem isPath_or_scan (l : Lexeme) : l.IsPath ∨ ∃ c cs n, l.text.toList = c :: cs ∧
    isBlank c = false ∧ isWordStart c = false ∧ scan c cs = .found l.kind n ∧
    cs.length + 1 ≤ n := by
  obtain ⟨c, cs, n, htext, hb, hscan, hn⟩ := l.exists_scan
  by_cases hc : isWordStart c = true
  · left
    rw [scan_of_isWordStart hc] at hscan
    have hlength := length_of_scanWord hscan l.not_joint
    rw [List.length_cons] at hlength
    exact ⟨c, cs, htext, hc, (leadingPath_isPrefix cs).eq_of_length_le (by omega)⟩
  · exact .inr ⟨c, cs, n, htext, hb, by simpa using hc, hscan, hn⟩

/-- A lexeme that begins with a word is a word or path. -/
theorem isPath_of_isWord {l : Lexeme} {w : String} {rest : List Char} (hw : IsWord w)
    (hl : l.text.toList = w.toList ++ rest) : l.IsPath := by
  rcases l.isPath_or_scan with hpath | ⟨c, cs, n, htext, -, hc, -, -⟩
  · exact hpath
  · obtain ⟨d, ds, hword, hd, -⟩ := hw
    rw [htext, hword] at hl
    cases hl
    rw [hd] at hc
    cases hc

/-- A word or path is all of what is taken for one. -/
theorem IsPath.leadingPath_text {l : Lexeme} (h : l.IsPath) :
    leadingPath l.text.toList = l.text.toList := by
  obtain ⟨c, cs, htext, hc, hcs⟩ := h
  rw [htext, leadingPath_cons hc, hcs]

/-- A word or path on its own is the token of the lexeme. -/
theorem IsPath.scanWord_text {l : Lexeme} (h : l.IsPath) :
    scanWord l.text.toList [] = .found l.kind l.text.toList.length := by
  obtain ⟨c, cs, htext, hc, hcs⟩ := h
  obtain ⟨c', cs', n, htext', -, hscan, -⟩ := l.exists_scan
  rw [htext] at htext' ⊢
  cases htext'
  rw [scan_of_isWordStart hc, hcs, List.drop_length] at hscan
  rw [hscan, length_of_scanWord hscan l.not_joint]

/-- A path is a lexeme. -/
theorem exists_of_path {c : Char} {cs : List Char} (hc : isWordStart c = true)
    (hcs : leadingPath cs = cs) : ∃ l : Lexeme, l.text = String.ofList (c :: cs) := by
  have hpath : leadingPath (c :: cs) = c :: cs := by rw [leadingPath_cons hc, hcs]
  have hblank : ∀ d ∈ c :: cs, isBlank d = false := by
    intro d hd
    rw [← hpath] at hd
    exact isBlank_eq_false_of_mem_leadingPath hd
  obtain ⟨k, hk, hktext⟩ := scanWord_of_ending (c :: cs) (show Ending [] by simp [Ending])
  have hscan : scan c cs = .found k (c :: cs).length := by
    rw [scan_of_isWordStart hc, hcs, List.drop_length, hk]
  refine ⟨⟨String.ofList (c :: cs), k, ?_, ?_, ?_, ?_⟩, rfl⟩
  · rw [kinds?_eq_some_iff, String.toList_ofList]
    refine .token (isBlank_eq_false_of_isWordStart hc) hscan ?_
    rw [List.drop_length]
    exact .nil
  · rw [String.toList_ofList]
    exact fun d hd => hblank d (List.mem_of_mem_head? hd)
  · rw [String.toList_ofList]
    exact fun d hd => hblank d (List.mem_of_getLast? hd)
  · -- the text of an operator of two words has a blank in it
    intro s w hj
    have hspace : ' ' ∈ k.text.toList := by
      cases hj with
      | isNot => decide
      | notIn => decide
    rw [hktext, String.toList_ofList] at hspace
    have hno := hblank ' ' hspace
    revert hno
    decide

/-- A lexeme that begins with a word is this word, or it is a path and goes on with another. -/
theorem eq_or_path_of_leadingWord (l : Lexeme) {w : String} (hw : IsWord w)
    (hlead : leadingWord l.text.toList = w.toList) :
    l.text = w ∨ ∃ s, ∃ u : Lexeme, l.text.toList = w.toList ++ s :: u.text.toList ∧
      Path.isSeparator s = true ∧ u.IsPath := by
  obtain ⟨rest, hrest⟩ : w.toList <+: l.text.toList := hlead ▸ List.takeWhile_prefix isWordChar
  have hpathRest : leadingPath rest = rest := by
    have hall := (isPath_of_isWord hw hrest.symm).leadingPath_text
    rw [← hrest, Path.leadingPath_word_append hw.isWordChar_of_mem] at hall
    exact List.append_cancel_left hall
  have hwordRest : leadingWord rest = [] := by
    rw [← hrest, leadingWord, List.takeWhile_append_of_pos hw.isWordChar_of_mem] at hlead
    exact List.append_cancel_left (hlead.trans (List.append_nil _).symm)
  rcases nil_or_separator_of_leadingPath hpathRest hwordRest with
    rfl | ⟨s, d, ds, rfl, hs, hd, hds⟩
  · left
    rw [List.append_nil] at hrest
    exact (String.toList_inj.1 hrest).symm
  · obtain ⟨u, hu⟩ := exists_of_path hd hds
    have htext : u.text.toList = d :: ds := by rw [hu, String.toList_ofList]
    exact .inr ⟨s, u, by rw [htext, hrest], hs, d, ds, htext, hd, hds⟩

/-- Behind a lexeme the next word is up to the lexeme behind the gap. -/
theorem wordAhead?_joined (w : String) (gap : Nat → Gap) (m : Lexeme) (ls : List Lexeme) :
    wordAhead? w (joined gap (m :: ls)).toList =
      if leadingWord m.text.toList = w.toList then
        some ((gap 0).text.toList.length + w.toList.length) else none := by
  obtain ⟨c, cs, n, htext, hb, -, -⟩ := m.exists_scan
  rw [joined, String.toList_append, String.toList_append]
  refine wordAhead?_blanks_append (gap 0).isBlank_of_mem ?_ ?_ (pauses_joined _ _)
  · rw [htext, dropBlanks, List.dropWhile_cons_of_neg (by simp [hb])]
  · rw [htext]
    exact List.cons_ne_nil _ _

/-- Does the lexeme behind this one not begin with a word that it is joined with? -/
def IsAlone (l : Lexeme) (ls : List Lexeme) : Prop :=
  ∀ w k, Joint l.text w k → ∀ m ∈ ls.head?, leadingWord m.text.toList ≠ w.toList

/-- **A lexeme before others is a token of its own** unless it is joined with the next word. -/
theorem kinds?_append {l : Lexeme} {ls : List Lexeme} (halone : l.IsAlone ls) (gap : Nat → Gap) :
    kinds? (l.text ++ joined gap ls) = (kinds? (joined gap ls)).map (l.kind :: ·) := by
  have ha := pauses_joined gap ls
  have hnone : ∀ w k, Joint l.text w k → wordAhead? w (joined gap ls).toList = none := by
    intro w k hj
    cases ls with
    | nil => exact wordAhead?_of_blanks hj.isWord (gap 0).isBlank_of_mem
    | cons m ls => rw [wordAhead?_joined, if_neg (halone w k hj m rfl)]
  have hread : ∃ c cs, l.text.toList = c :: cs ∧ isBlank c = false ∧
      scan c (cs ++ (joined gap ls).toList) = .found l.kind (cs.length + 1) := by
    rcases l.isPath_or_scan with hpath | ⟨c, cs, n, htext, hb, hc, hscan, hn⟩
    · have hword := hpath.scanWord_text
      obtain ⟨c, cs, htext, hc, hcs⟩ := hpath
      refine ⟨c, cs, htext, isBlank_eq_false_of_isWordStart hc, ?_⟩
      rw [scan_path_append hc hcs ha.head_path, ← htext, scanWord_of_alone, hword, htext]
      · rfl
      · rwa [String.ofList_toList]
    · have hlength := scan_taken_le c cs
      rw [hscan] at hlength
      obtain rfl : n = cs.length + 1 := Nat.le_antisymm hlength hn
      exact ⟨c, cs, htext, hb, ha.breaks.scan_append hc hscan⟩
  obtain ⟨c, cs, htext, hb, hscan⟩ := hread
  refine kinds?_of_scan ?_ hb hscan ?_
  · rw [String.toList_append, htext, List.cons_append]
  · rw [List.drop_succ_cons, List.drop_left]

/-- **A word is joined across the gap** with the first name of the lexeme behind it, and the rest
of this lexeme is left. -/
theorem kinds?_append_joint {l m : Lexeme} {w t : String} {k : TokenKind}
    (hj : Joint l.text w k) (hm : m.text.toList = w.toList ++ t.toList)
    (ht : ∀ c ∈ t.toList.head?, isWordChar c = false) (gap : Nat → Gap) (ls : List Lexeme) :
    kinds? (l.text ++ joined gap (m :: ls)) =
      (kinds? (t ++ joined (fun i => gap (i + 1)) ls)).map (k :: ·) := by
  obtain ⟨c, cs, htext, hc, hcs⟩ := hj.isPath
  have hlead : leadingWord m.text.toList = w.toList := by
    rw [hm, leadingWord_append hj.isWord.isWordChar_of_mem ht]
  have hahead := wordAhead?_joined w gap m ls
  rw [if_pos hlead] at hahead
  have hscan := scanWord_of_joint hj hahead
  rw [htext, ← scan_path_append hc hcs (pauses_joined gap (m :: ls)).head_path] at hscan
  refine kinds?_of_scan ?_ (isBlank_eq_false_of_isWordStart hc) hscan ?_
  · rw [String.toList_append, htext, List.cons_append]
  · have hsplit : c :: (cs ++ (joined gap (m :: ls)).toList) =
        (l.text ++ (gap 0).text ++ w).toList ++
          (t ++ joined (fun i => gap (i + 1)) ls).toList := by
      simp [joined, hm, htext]
    rw [hsplit]
    refine List.drop_left' ?_
    rw [String.toList_append, String.toList_append, htext, List.length_append, List.length_append,
      Nat.add_assoc]

/-- A word is joined with the word behind the gap. -/
theorem kinds?_append_joined {l m : Lexeme} {k : TokenKind} (hj : Joint l.text m.text k)
    (gap : Nat → Gap) (ls : List Lexeme) : kinds? (l.text ++ joined gap (m :: ls)) =
      (kinds? (joined (fun i => gap (i + 1)) ls)).map (k :: ·) := by
  rw [kinds?_append_joint hj (t := "") (by simp) (by simp), String.empty_append]

/-- A word is joined with the first name of the path behind the gap.  The separator behind this
name is a slash of its own, or no token begins with it. -/
theorem kinds?_append_broken {l m u : Lexeme} {w : String} {k : TokenKind} {s : Char}
    (hj : Joint l.text w k) (hm : m.text.toList = w.toList ++ s :: u.text.toList)
    (hs : Path.isSeparator s = true) (gap : Nat → Gap) (ls : List Lexeme) :
    kinds? (l.text ++ joined gap (m :: ls)) =
      if s = '/' then (kinds? (u.text ++ joined (fun i => gap (i + 1)) ls)).map
        fun ks => k :: .operator (.sign .slash) :: ks
      else none := by
  obtain ⟨t, ht⟩ : ∃ t : String, t.toList = s :: u.text.toList := ⟨_, String.toList_ofList⟩
  have hword : ∀ c ∈ t.toList.head?, isWordChar c = false := by
    rw [ht]
    rintro _ ⟨⟩
    exact isWordChar_eq_false_of_isSeparator hs
  rw [kinds?_append_joint hj (by rw [hm, ht]) hword]
  have hafter : (t ++ joined (fun i => gap (i + 1)) ls).toList =
      s :: (u.text ++ joined (fun i => gap (i + 1)) ls).toList := by
    rw [String.toList_append, String.toList_append, ht, List.cons_append]
  simp only [Path.isSeparator, Bool.or_eq_true, beq_iff_eq] at hs
  rcases hs with rfl | rfl
  · -- the slash is read as division, for it does not begin a path
    have hslash : scan '/' (u.text ++ joined (fun i => gap (i + 1)) ls).toList =
        .found (.operator (.sign .slash)) 1 := rfl
    rw [if_pos rfl, kinds?_of_scan hafter (by decide) hslash rfl, Option.map_map]
    rfl
  · -- no token begins with a point
    rw [if_neg (by decide), Option.map_eq_none_iff, Option.eq_none_iff_forall_ne_some]
    intro ks hks
    rw [kinds?_eq_some_iff, hafter] at hks
    cases hks with
    | blank hb _ => exact absurd hb (by decide)
    | token _ hscan _ => cases hscan

/-- What becomes of a lexeme before others. -/
inductive Reading (l : Lexeme) : List Lexeme → Prop where
  /-- It is a token of its own. -/
  | alone {ls} : l.IsAlone ls → Reading l ls
  /-- It is joined with the word behind it. -/
  | joined {m : Lexeme} {ls k} : Joint l.text m.text k → Reading l (m :: ls)
  /-- It is joined with the first name of the path behind it. -/
  | broken {m u : Lexeme} {ls w k s} : Joint l.text w k →
      m.text.toList = w.toList ++ s :: u.text.toList → Path.isSeparator s = true → u.IsPath →
      Reading l (m :: ls)

/-- There is no other way to be read. -/
theorem reading (l : Lexeme) (ls : List Lexeme) : l.Reading ls := by
  cases ls with
  | nil => exact .alone (by simp [IsAlone])
  | cons m ls =>
    by_cases h : ∃ w k, Joint l.text w k ∧ leadingWord m.text.toList = w.toList
    · obtain ⟨w, k, hj, hlead⟩ := h
      rcases m.eq_or_path_of_leadingWord hj.isWord hlead with rfl | ⟨s, u, htext, hs, hu⟩
      · exact .joined hj
      · exact .broken hj htext hs hu
    · refine .alone fun w k hj m' hm hlead => ?_
      cases hm
      exact h ⟨w, k, hj, hlead⟩

end Lexeme

/-! ## Texts of lexemes -/

/-- The gaps make no difference to the tokens, nor do they behind a lexeme. -/
theorem kinds?_joined_congr (gap gap' : Nat → Gap) (ls : List Lexeme) :
    kinds? (joined gap ls) = kinds? (joined gap' ls) ∧
      ∀ l : Lexeme, kinds? (l.text ++ joined gap ls) = kinds? (l.text ++ joined gap' ls) := by
  -- both at once, for what is left of a path that is broken has no gap before it
  induction ls generalizing gap gap' with
  | nil =>
    have hnil : kinds? (joined gap []) = kinds? (joined gap' []) := by
      rw [kinds?_joined_nil, kinds?_joined_nil]
    refine ⟨hnil, fun l => ?_⟩
    cases l.reading [] with
    | alone halone => rw [Lexeme.kinds?_append halone, Lexeme.kinds?_append halone, hnil]
  | cons m ls ih =>
    obtain ⟨hrest, hbehind⟩ := ih (fun i => gap (i + 1)) fun i => gap' (i + 1)
    have hcons : kinds? (joined gap (m :: ls)) = kinds? (joined gap' (m :: ls)) := by
      rw [kinds?_joined_cons, kinds?_joined_cons, hbehind]
    refine ⟨hcons, fun l => ?_⟩
    cases l.reading (m :: ls) with
    | alone halone => rw [Lexeme.kinds?_append halone, Lexeme.kinds?_append halone, hcons]
    | joined hj => rw [Lexeme.kinds?_append_joined hj, Lexeme.kinds?_append_joined hj, hrest]
    | broken hj hm hs _ =>
      rw [Lexeme.kinds?_append_broken hj hm hs, Lexeme.kinds?_append_broken hj hm hs, hbehind]

/-! ## Texts without clashes -/

theorem kind_of_scanNumber {value : Except LexCause Value} {taken n : Nat} {after : List Char}
    {k : TokenKind} (h : scanNumber value taken after = .found k n) : ∃ v, k = .literal v := by
  unfold scanNumber at h
  split at h
  · cases h
  · cases h
  · cases h
    exact ⟨_, rfl⟩

/-- Is the token one of the words that are joined? -/
def TokenKind.IsJoinable (k : TokenKind) : Prop :=
  k = .operator (.comparison .is) ∨ k = .keyword .not ∨ k = .operator (.comparison .member)

/-- Is the token neither a path nor one of the words that are joined? -/
def TokenKind.IsWordless (k : TokenKind) : Prop :=
  ¬ k.IsJoinable ∧ ∀ spelling, k ≠ .identifier spelling

/-- Only what begins as a word is read as a path or as one of the words that are joined. -/
theorem isWordless_of_scan {c : Char} {cs : List Char} {k : TokenKind} {n : Nat}
    (hc : isWordStart c = false) (h : scan c cs = .found k n) : k.IsWordless := by
  have hnumber : ∀ {value taken after}, scanNumber value taken after = .found k n →
      k.IsWordless := by
    intro value taken after h
    obtain ⟨v, rfl⟩ := kind_of_scanNumber h
    simp [TokenKind.IsWordless, TokenKind.IsJoinable]
  have hhex : ∀ {digits}, scanHex digits = .found k n → k.IsWordless := by
    intro digits h
    rw [scanHex] at h
    split at h
    · cases h
    · exact hnumber h
  unfold scan at h
  split at h
  case h_11 | h_13 => cases h
  case h_18 =>
    rw [scanPlaceholder] at h
    split at h
    · obtain ⟨⟩ := h
      simp [TokenKind.IsWordless, TokenKind.IsJoinable]
    · cases h
    · cases h
  case h_19 | h_20 =>
    rw [scanString] at h
    split at h
    · obtain ⟨⟩ := h
      simp [TokenKind.IsWordless, TokenKind.IsJoinable]
    · cases h
  case h_21 =>
    split at h
    · split at h
      · exact hhex h
      · exact hhex h
      · rw [scanDecimal] at h
        split at h
        · exact hnumber h
        · exact hnumber h
    · rw [if_neg (by simp [hc])] at h
      cases h
  all_goals
    obtain ⟨⟩ := h
    simp [TokenKind.IsWordless, TokenKind.IsJoinable]

namespace Lexeme

theorem kinds?_is : kinds? "is" = some [.operator (.comparison .is)] := by
  with_unfolding_all rfl

theorem kinds?_not : kinds? "not" = some [.keyword .not] := by
  with_unfolding_all rfl

theorem kinds?_in : kinds? "in" = some [.operator (.comparison .member)] := by
  with_unfolding_all rfl

/-- The joined words are merged. -/
theorem merged_of_joint {l m : Lexeme} {k : TokenKind} (hj : Joint l.text m.text k)
    (ks : List TokenKind) : merged (l.kind :: m.kind :: ks) = k :: merged ks := by
  have hl := l.kinds?_text
  have hm := m.kinds?_text
  generalize l.text = s at hj hl
  generalize m.text = w at hj hm
  cases hj with
  | isNot =>
    rw [kinds?_is, Option.some.injEq, List.cons.injEq] at hl
    rw [kinds?_not, Option.some.injEq, List.cons.injEq] at hm
    rw [← hl.1, ← hm.1, merged]
  | notIn =>
    rw [kinds?_not, Option.some.injEq, List.cons.injEq] at hl
    rw [kinds?_in, Option.some.injEq, List.cons.injEq] at hm
    rw [← hl.1, ← hm.1, merged]

/-- A word that may be joined is the text of its token. -/
theorem text_of_isJoinable {l : Lexeme} (h : l.kind.IsJoinable) : l.text = l.kind.text := by
  rcases l.isPath_or_scan with hpath | ⟨c, cs, n, -, -, hc, hscan, -⟩
  · obtain ⟨k, hk, htext⟩ := scanWord_of_ending l.text.toList (show Ending [] by simp [Ending])
    rw [hpath.scanWord_text] at hk
    cases hk
    rw [htext, String.ofList_toList]
  · exact absurd h (isWordless_of_scan hc hscan).1

/-- A lexeme that is not joined is not merged. -/
theorem merged_of_alone {l : Lexeme} {ls : List Lexeme} (halone : l.IsAlone ls) :
    merged (l.kind :: ls.map kind) = l.kind :: merged (ls.map kind) := by
  have hjoint : ∀ m ∈ ls.head?, ∀ k, ¬ Joint l.text m.text k := by
    intro m hm k hj
    refine halone _ _ hj m hm ?_
    have := @leadingWord_append m.text.toList [] hj.isWord.isWordChar_of_mem (by simp)
    rwa [List.append_nil] at this
  cases ls with
  | nil => rw [List.map_nil, merged] <;> simp
  | cons m ls =>
    have hm := hjoint m rfl
    rw [List.map_cons, merged]
    · intro ks hl hks
      have hk : m.kind = .keyword .not := (List.cons.inj hks).1
      refine hm (.operator (.comparison .isNot)) ?_
      rw [text_of_isJoinable (.inl hl), text_of_isJoinable (.inr (.inl hk)), hl, hk]
      exact .isNot
    · intro ks hl hks
      have hk : m.kind = .operator (.comparison .member) := (List.cons.inj hks).1
      refine hm (.operator (.comparison .notMember)) ?_
      rw [text_of_isJoinable (.inr (.inl hl)), text_of_isJoinable (.inr (.inr hk)), hl, hk]
      exact .notIn

theorem clashes_of_joint {l m : Lexeme} {w : String} {k : TokenKind} (hj : Joint l.text w k)
    (hm : m.kind.IsPathFrom w) : l.Clashes m := by
  rw [Clashes]
  generalize l.text = s at hj
  cases hj with
  | isNot => exact .inr ⟨rfl, hm⟩
  | notIn => exact .inl ⟨rfl, hm⟩

/-- A lexeme that begins with a word and goes on behind a separator is a path from this word. -/
theorem isPathFrom_of_broken {m u : Lexeme} {w : String} {s : Char} (hw : IsWord w)
    (hm : m.text.toList = w.toList ++ s :: u.text.toList) (hs : Path.isSeparator s = true)
    (hu : u.IsPath) : m.kind.IsPathFrom w := by
  have hreserved : m.text ∉ reservedWords := by
    intro hr
    have hwords : ∀ r ∈ reservedWords, r.toList.all isWordChar = true := by decide
    have hword := List.all_eq_true.1 (hwords _ hr) s (by simp [hm])
    rw [isWordChar_eq_false_of_isSeparator hs] at hword
    cases hword
  have hkind : m.kind = .identifier m.text := by
    have hname := (lexes_identifier ⟨isPath_of_isWord hw hm, hreserved⟩).scans
    exact (List.cons.inj ((kinds?_eq_some_iff.1 m.kinds?_text).unique hname)).1
  have hrest := hu.leadingPath_text
  obtain ⟨c, cs, htext, hc, -⟩ := hu
  obtain ⟨hne, -, -⟩ := Path.pieces_of_begun hrest [] (.inl ⟨rfl, c, cs, htext, hc⟩)
  obtain ⟨name, names, hnames⟩ := List.exists_cons_of_ne_nil hne
  refine ⟨m.text, name, names, hkind, ?_⟩
  show Path.pieces [] m.text.toList = _
  rw [hm, Path.pieces_word_append hw.isWordChar_of_mem, List.append_nil, Path.pieces, if_pos hs,
    if_neg, List.reverse_reverse, String.ofList_toList, hnames]
  obtain ⟨d, ds, hword, -⟩ := hw
  simp [hword]

end Lexeme

/-- Lexemes that do not clash are read as their tokens, merged, also behind another lexeme. -/
theorem kinds?_joined_of_isChain (gap : Nat → Gap) (ls : List Lexeme) :
    (ls.IsChain (fun l m => ¬ l.Clashes m) →
      kinds? (joined gap ls) = some (merged (ls.map Lexeme.kind))) ∧
    ∀ l : Lexeme, (l :: ls).IsChain (fun l m => ¬ l.Clashes m) →
      kinds? (l.text ++ joined gap ls) = some (merged (l.kind :: ls.map Lexeme.kind)) := by
  induction ls generalizing gap with
  | nil =>
    refine ⟨fun _ => kinds?_joined_nil gap, fun l _ => ?_⟩
    cases l.reading [] with
    | alone halone =>
      rw [Lexeme.kinds?_append halone, kinds?_joined_nil, Lexeme.merged_of_alone halone]
      rfl
  | cons m ls ih =>
    obtain ⟨hrest, hbehind⟩ := ih fun i => gap (i + 1)
    have hcons : (m :: ls).IsChain (fun l m => ¬ l.Clashes m) →
        kinds? (joined gap (m :: ls)) = some (merged ((m :: ls).map Lexeme.kind)) := by
      intro hchain
      rw [kinds?_joined_cons, hbehind m hchain, List.map_cons]
    refine ⟨hcons, fun l hchain => ?_⟩
    obtain ⟨hclash, htail⟩ := List.isChain_cons_cons.1 hchain
    cases l.reading (m :: ls) with
    | alone halone =>
      rw [Lexeme.kinds?_append halone, hcons htail, Lexeme.merged_of_alone halone]
      rfl
    | joined hj =>
      rw [Lexeme.kinds?_append_joined hj, hrest htail.tail, List.map_cons,
        Lexeme.merged_of_joint hj]
      rfl
    | broken hj hm hs hu =>
      exact absurd (Lexeme.clashes_of_joint hj (Lexeme.isPathFrom_of_broken hj.isWord hm hs hu))
        hclash

/-- **White space makes no difference.**  What a text of lexemes is read as does not depend on the
gaps between them.  Where no `not` or `is` would be joined with the first name of a path, it is
read as the lexemes, with `is` and `not`, and `not` and `in`, merged from left to right. -/
theorem kinds?_joined (gap gap' : Nat → Gap) (ls : List Lexeme) :
    kinds? (joined gap ls) = kinds? (joined gap' ls) ∧
      (ls.IsChain (fun l m => ¬ l.Clashes m) →
        kinds? (joined gap ls) = some (merged (ls.map Lexeme.kind))) :=
  ⟨(kinds?_joined_congr gap gap' ls).1, (kinds?_joined_of_isChain gap ls).1⟩

/-- A space. -/
def Gap.space : Gap :=
  ⟨" ", by decide, List.all_eq_true.1 (by decide)⟩

/-- A new line that is indented. -/
def Gap.line : Gap :=
  ⟨"\n\t", by decide, List.all_eq_true.1 (by decide)⟩

/-- The word `is`. -/
def Lexeme.wordIs : Lexeme where
  text := "is"
  kind := .operator (.comparison .is)
  kinds?_text := Lexeme.kinds?_is
  isBlank_head := by rintro _ ⟨⟩; decide
  isBlank_getLast := by rintro _ ⟨⟩; decide
  not_joint := by rintro _ _ ⟨⟩

/-- The word `not`. -/
def Lexeme.wordNot : Lexeme where
  text := "not"
  kind := .keyword .not
  kinds?_text := Lexeme.kinds?_not
  isBlank_head := by rintro _ ⟨⟩; decide
  isBlank_getLast := by rintro _ ⟨⟩; decide
  not_joint := by rintro _ _ ⟨⟩

/-- The word `in`. -/
def Lexeme.wordIn : Lexeme where
  text := "in"
  kind := .operator (.comparison .member)
  kinds?_text := Lexeme.kinds?_in
  isBlank_head := by rintro _ ⟨⟩; decide
  isBlank_getLast := by rintro _ ⟨⟩; decide
  not_joint := by rintro _ _ ⟨⟩

/-- A string that has white space in it. -/
def Lexeme.quoted : Lexeme where
  text := "'a b'"
  kind := .literal (.string "a b")
  kinds?_text := by with_unfolding_all rfl
  isBlank_head := by rintro _ ⟨⟩; decide
  isBlank_getLast := by rintro _ ⟨⟩; decide
  not_joint := by rintro _ _ ⟨⟩

/-- Lexemes in which a `not` could be joined with the word before it or with the one behind it. -/
def Lexeme.phrase : List Lexeme :=
  [quoted, wordIs, wordNot, wordIn, wordNot, wordIn, quoted]

theorem kinds?_joined_phrase :
    joined (fun _ => .space) Lexeme.phrase = " 'a b' is not in not in 'a b' " ∧
      kinds? (joined (fun _ => .space) Lexeme.phrase) =
        kinds? (joined (fun _ => .line) Lexeme.phrase) ∧
      Lexeme.phrase.IsChain (fun l m => ¬ l.Clashes m) ∧
      kinds? (joined (fun _ => .space) Lexeme.phrase) = some [.literal (.string "a b"),
        .operator (.comparison .isNot), .operator (.comparison .member),
        .operator (.comparison .notMember), .literal (.string "a b")] := by
  have hchain : Lexeme.phrase.IsChain fun l m => ¬ l.Clashes m := by
    simp only [Lexeme.phrase, List.isChain_cons_cons, List.isChain_singleton, and_true]
    refine ⟨?_, ?_, ?_, ?_, ?_, ?_⟩ <;>
      rintro (⟨-, _, _, _, h, -⟩ | ⟨-, _, _, _, h, -⟩) <;> cases h
  obtain ⟨hsame, hkinds⟩ := kinds?_joined (fun _ => .space) (fun _ => .line) Lexeme.phrase
  exact ⟨rfl, hsame, hchain, hkinds hchain⟩

end FieldQuery
