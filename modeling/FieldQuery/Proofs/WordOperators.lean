import FieldQuery.Proofs.FieldTexts
import FieldQuery.Proofs.Operands

/-!
# Words before a field path

The tokenizer joins `not` with an `in` behind it, and `is` with a `not`.  It looks at the next word
only, so that the word may as well be the first name of a path.  Such a path is broken, and the
text is refused; before any other path `not` and `is` are the operators that they look like.

* `wordAhead?_path` — the word behind a blank is the first name of the path there.
* `kinds?_joint_path`, `kinds?_joint_broken` — a word that may be joined before a path.
* `Grammar.Denotes.begins_behind` — what stands behind a comparison operator.
* `Query.parse_word_before_path` — which texts of these words and paths are read, and as what.
-/

namespace FieldQuery

open Text Grammar

/-! ## A path behind a word -/

section

variable {text s l w : String} {k first : TokenKind}

theorem Text.IsSpelling.dropBlanks_toList (hs : IsSpelling s) :
    s.toList ≠ [] ∧ dropBlanks s.toList = s.toList := by
  obtain ⟨⟨c, cs, htext, hc, -⟩, -⟩ := hs
  rw [htext, dropBlanks, List.dropWhile_cons_of_neg (by simp [isBlank_eq_false_of_isWordStart hc])]
  exact ⟨List.cons_ne_nil _ _, rfl⟩

/-- The word behind a blank is the first name of the path there. -/
theorem wordAhead?_path {front back : String} (hs : IsSpelling s)
    (hfront : ∀ c ∈ front.toList, isBlank c = true) (hback : ∀ c ∈ back.toList, isBlank c = true) :
    wordAhead? w (" " ++ (front ++ (s ++ back))).toList =
      if (Path.ofText s).segments.head? = some w then
        some (1 + front.toList.length + w.toList.length) else none := by
  obtain ⟨hne, hblank⟩ := hs.dropBlanks_toList
  have hpause : Pauses back.toList := fun c hc => hback c (List.mem_of_mem_head? hc)
  have hspace : ∀ c ∈ ' ' :: front.toList, isBlank c = true :=
    List.forall_mem_cons.2 ⟨by decide, hfront⟩
  have hahead := @wordAhead?_blanks_append w _ _ _ hspace hblank hne hpause
  have hname : (Path.ofText s).segments.head? = some w ↔ leadingWord s.toList = w.toList := by
    rw [Path.head?_segments hs, Option.some.injEq, ← String.toList_inj, String.toList_ofList]
  have htext : (" " ++ (front ++ (s ++ back))).toList =
      ' ' :: front.toList ++ (s.toList ++ back.toList) := by
    simp
  rw [htext, hahead, List.length_cons, Nat.add_comm front.toList.length 1]
  simp only [hname]

/-- A path whose first name is a word of the language goes on behind it. -/
theorem exists_separator (hs : IsSpelling s) (hw : w ∈ reservedWords)
    (hfirst : (Path.ofText s).segments.head? = some w) :
    ∃ sep rest, s.toList = w.toList ++ sep :: rest ∧ Path.isSeparator sep = true := by
  obtain ⟨word, rest, hsplit, hlead, -, -, hrest⟩ := hs.exists_first
  rw [Path.head?_segments hs, hlead, Option.some.injEq] at hfirst
  obtain rfl : word = w.toList := by rw [← hfirst, String.toList_ofList]
  rcases hrest with rfl | ⟨sep, tail, rfl, hsep⟩
  · rw [List.append_nil, String.toList_inj] at hsplit
    exact absurd (hsplit ▸ hw) hs.2
  · exact ⟨sep, tail, hsplit, hsep⟩

/-- No token begins with a separator of names but a slash. -/
theorem Scans.head_of_separator {sep : Char} {cs : List Char} {ks : List TokenKind}
    (hs : Path.isSeparator sep = true) (h : Scans (sep :: cs) ks) :
    ∃ tail, ks = .operator (.sign .slash) :: tail := by
  simp only [Path.isSeparator, Bool.or_eq_true, beq_iff_eq] at hs
  rcases hs with rfl | rfl
  · cases h with
    | blank hb _ => exact absurd hb (by decide)
    | token _ hscan _ =>
      cases hscan
      exact ⟨_, rfl⟩
  · cases h with
    | blank hb _ => exact absurd hb (by decide)
    | token _ hscan _ => cases hscan

/-- A word is joined with one word only. -/
theorem Joint.unique {w' : String} {k' : TokenKind} (h : Joint l w k) (h' : Joint l w' k') :
    w' = w := by
  cases h with
  | isNot =>
    generalize hl : "is" = l at h'
    cases h' with
    | isNot => rfl
    | notIn => exact absurd hl (by decide)
  | notIn =>
    generalize hl : "not" = l at h'
    cases h' with
    | isNot => exact absurd hl (by decide)
    | notIn => rfl

theorem Joint.mem_reservedWords (h : Joint l w k) : w ∈ reservedWords := by
  cases h <;> decide

/-- A word that may be joined is read on its own before a path that does not begin with what it
is joined with. -/
theorem kinds?_joint_path (hj : Joint l w k)
    (hl : scanWord l.toList [] = .found first l.toList.length)
    (h : kinds? text = some [.identifier s]) (hname : (Path.ofText s).segments.head? ≠ some w) :
    kinds? (l ++ (" " ++ text)) = some [first, .identifier s] := by
  have hbehind : kinds? (" " ++ text) = some [.identifier s] := by rw [kinds?_space_append, h]
  obtain ⟨hs, front, back, rfl, hfront, hback⟩ := exists_spelling h
  have hnone : ∀ w' k', Joint (String.ofList l.toList) w' k' →
      wordAhead? w' (" " ++ (front ++ (s ++ back))).toList = none := by
    intro w' k' hj'
    rw [String.ofList_toList] at hj'
    rw [hj.unique hj', wordAhead?_path hs hfront hback, if_neg hname]
  obtain ⟨c, cs, htext, hc, hcs⟩ := hj.isPath
  have hscan : scan c (cs ++ (" " ++ (front ++ (s ++ back))).toList) =
      .found first (c :: cs).length := by
    rw [scan_path_append hc hcs (pauses_space _).head_path, ← htext, scanWord_of_alone hnone, hl]
  rw [kinds?_of_scan _ (isBlank_eq_false_of_isWordStart hc) hscan _, hbehind]
  · rfl
  · rw [String.toList_append, htext, List.cons_append]
  · rw [← List.cons_append, List.drop_left]

/-- Before a path that begins with what it is joined with, it breaks the path. -/
theorem kinds?_joint_broken (hj : Joint l w k) (h : kinds? text = some [.identifier s])
    (hname : (Path.ofText s).segments.head? = some w) {ks : List TokenKind}
    (hks : kinds? (l ++ (" " ++ text)) = some ks) :
    ∃ tail, ks = k :: .operator (.sign .slash) :: tail := by
  obtain ⟨hs, front, back, rfl, hfront, hback⟩ := exists_spelling h
  have hahead := wordAhead?_path (w := w) hs hfront hback
  rw [if_pos hname] at hahead
  obtain ⟨c, cs, htext, hc, hcs⟩ := hj.isPath
  have hscan := scanWord_of_joint hj hahead
  rw [htext, ← scan_path_append hc hcs (pauses_space _).head_path] at hscan
  obtain ⟨sep, tail, hsplit, hsep⟩ := exists_separator hs hj.mem_reservedWords hname
  -- what is left of the path begins with its first separator
  have hrest : (c :: (cs ++ (" " ++ (front ++ (s ++ back))).toList)).drop
      ((c :: cs).length + (1 + front.toList.length + w.toList.length)) =
      (String.ofList (sep :: tail ++ back.toList)).toList := by
    have htext' : c :: (cs ++ (" " ++ (front ++ (s ++ back))).toList) =
        (l ++ (" " ++ (front ++ w))).toList ++ (sep :: tail ++ back.toList) := by
      simp [htext, hsplit]
    rw [htext', String.toList_ofList]
    refine List.drop_left' ?_
    simp only [String.toList_append, List.length_append, htext, Nat.add_assoc]
    rfl
  have hfull : (l ++ (" " ++ (front ++ (s ++ back)))).toList =
      c :: (cs ++ (" " ++ (front ++ (s ++ back))).toList) := by
    rw [String.toList_append, htext, List.cons_append]
  rw [kinds?_of_scan hfull (isBlank_eq_false_of_isWordStart hc) hscan hrest,
    Option.map_eq_some_iff] at hks
  obtain ⟨ks, hks, rfl⟩ := hks
  rw [kinds?_eq_some_iff, String.toList_ofList, List.cons_append] at hks
  obtain ⟨tail', rfl⟩ := hks.head_of_separator hsep
  exact ⟨tail', rfl⟩

end

/-! ## Tokens that are refused -/

namespace Grammar

variable {k : TokenKind} {ks : List TokenKind} {e : Expr}

/-- What is read as an expression begins with a token that one can begin with. -/
theorem Denotes.begins (h : Denotes (k :: ks) e) : begins k = true := by
  obtain ⟨ps, hps⟩ := Query.exists_kinds_eq (k :: ks)
  obtain ⟨p, tail, rfl, hp⟩ := (h.derives ps hps).begins trivial
  obtain ⟨q, rest, heq, hq, -⟩ := kinds_eq_cons hps
  cases heq
  rwa [hq] at hp

/-- A path on its own is a sum. -/
theorem spells_sum_field (spelling : String) :
    Spells (.chain .sum) 3 [.identifier spelling] (.field (Path.ofText spelling)) := by
  intro front rest hf hl
  refine (spells_field spelling front rest hf (hl.mono (by decide))).sum_of_primary ?_ hl
  obtain ⟨p, tail, rfl, hp, -⟩ := kinds_eq_cons hf
  simp [hp, isMinus]

/-- **Behind a comparison operator stands what an expression can begin with.** -/
theorem Denotes.begins_behind {spelling : String} {c : Comparator}
    (h : Denotes (.identifier spelling :: .operator (.comparison c) :: k :: ks) e) :
    Grammar.begins k = true := by
  obtain ⟨ps, hps⟩ := Query.exists_kinds_eq
    (.identifier spelling :: .operator (.comparison c) :: k :: ks)
  have hd := h.derives ps hps
  obtain ⟨p, _, rfl, hp, hps⟩ := kinds_eq_cons hps
  obtain ⟨o, _, rfl, ho, hps⟩ := kinds_eq_cons hps
  obtain ⟨q, rest, rfl, hq, -⟩ := kinds_eq_cons hps
  obtain ⟨n, mid, ands, ors, hnegation, -⟩ := hd.operands (loose_nil 0)
  -- the path is all that is read before the operator
  have hfield : Derives none (.chain .sum) (p :: o :: q :: rest)
      (.field (Path.ofText spelling)) (o :: q :: rest) :=
    spells_sum_field spelling [p] _ (by simp [kinds, hp])
      (loose_cons (by rw [ho]; exact Nat.le_refl _))
  cases hnegation with
  | not hk _ _ => rw [hp] at hk; cases hk
  | unnegated _ hcomparison =>
    cases hcomparison with
    | sum hsum hend =>
      obtain ⟨-, rfl⟩ := hsum.unique hfield
      rw [headNot_cons, ho] at hend
      cases hend
    | isa hsum hk _ _ =>
      obtain ⟨-, heq⟩ := hsum.unique hfield
      cases heq
      rw [ho] at hk
      cases hk
    | compare hsum _ _ hright _ =>
      obtain ⟨-, heq⟩ := hsum.unique hfield
      cases heq
      obtain ⟨q', rest', heq, hbegins⟩ := hright.begins trivial
      cases heq
      rwa [hq] at hbegins

end Grammar

/-! ## Texts of words and paths -/

namespace Query

theorem not_before (text : String) : "not " ++ text = "not" ++ (" " ++ text) := by
  rw [← String.append_assoc]
  rfl

section

variable {p x s t : String} (hp : kinds? p = some [.identifier s])
  (hx : kinds? x = some [.identifier t])

include hp

/-- Before a path that does not begin with the name `in`, `not` is the complement. -/
theorem parse_not_path (hname : (Path.ofText s).segments.head? ≠ some "in") :
    parse ("not " ++ p) none = .ok ⟨.not (.field (Path.ofText s))⟩ := by
  have hkinds := kinds?_joint_path .notIn rfl hp hname
  rw [← not_before] at hkinds
  exact parse_of_scans (kinds?_eq_some_iff.1 hkinds)
    (spells_not (spells_sum_field s).comparison.unnegated).conjunction.whole

/-- Before one that does, `not in` is read, which begins no expression. -/
theorem parse_not_broken (hname : (Path.ofText s).segments.head? = some "in") (q : Query) :
    parse ("not " ++ p) none ≠ .ok q := by
  intro hq
  rw [not_before] at hq
  obtain ⟨ks, hks, hdenotes⟩ := parse_eq_ok_iff.1 hq
  obtain ⟨tail, rfl⟩ := kinds?_joint_broken .notIn hp hname hks
  cases hdenotes.begins

omit hp in
/-- Two paths and a comparison operator are a comparison. -/
theorem parse_compare_paths {text : String} {c : Comparator}
    (h : kinds? text = some [.identifier t, .operator (.comparison c), .identifier s]) :
    parse text none = .ok ⟨compare c (.field (Path.ofText t)) (.field (Path.ofText s))⟩ :=
  parse_of_scans (kinds?_eq_some_iff.1 h)
    (spells_compare c (spells_sum_field t) (spells_sum_field s)).unnegated.conjunction.whole

include hx

theorem parse_equal_path : parse (x ++ " == " ++ p) none =
    .ok ⟨.compare .equal (.field (Path.ofText t)) (.field (Path.ofText s))⟩ := by
  have htext : x ++ " == " ++ p = x ++ (" " ++ ("==" ++ (" " ++ p))) := by
    rw [← String.toList_inj]
    simp
  have hsign : ("==" ++ (" " ++ p)).toList = '=' :: '=' :: (" " ++ p).toList := by simp
  have hkinds : kinds? (x ++ " == " ++ p) =
      some [.identifier t, .operator (.comparison .equal), .identifier s] := by
    rw [htext, kinds?_path_space hx, kinds?_of_scan hsign (by decide) rfl rfl, kinds?_space_append,
      hp]
    rfl
  exact parse_compare_paths hkinds

omit hp in
theorem kinds?_is_path : kinds? (x ++ " is " ++ p) =
    (kinds? ("is" ++ (" " ++ p))).map (.identifier t :: ·) := by
  have htext : x ++ " is " ++ p = x ++ (" " ++ ("is" ++ (" " ++ p))) := by
    rw [← String.toList_inj]
    simp
  rw [htext, kinds?_path_space hx]

/-- Before a path that does not begin with the name `not`, `is` compares like `==`. -/
theorem parse_is_path (hname : (Path.ofText s).segments.head? ≠ some "not") :
    parse (x ++ " is " ++ p) none =
      .ok ⟨.compare .equal (.field (Path.ofText t)) (.field (Path.ofText s))⟩ := by
  refine parse_compare_paths (c := .is) ?_
  rw [kinds?_is_path hx, kinds?_joint_path .isNot rfl hp hname]
  rfl

/-- Before one that does, `is not` is read, and what is left begins no expression. -/
theorem parse_is_broken (hname : (Path.ofText s).segments.head? = some "not") (q : Query) :
    parse (x ++ " is " ++ p) none ≠ .ok q := by
  intro hq
  obtain ⟨ks, hks, hdenotes⟩ := parse_eq_ok_iff.1 hq
  rw [kinds?_is_path hx, Option.map_eq_some_iff] at hks
  obtain ⟨ks, hks, rfl⟩ := hks
  obtain ⟨tail, rfl⟩ := kinds?_joint_broken .isNot hp hname hks
  cases hdenotes.begins_behind

end

/-- **Words before a path.**  Before a path that does not begin with the name `in`, `not` is the
complement, and before one that does the text is refused.  Between two paths `is` is read as `==`
unless the second path begins with the name `not`, and then the text is refused.  The sign `==` is
read before every path. -/
theorem parse_word_before_path {p x s t : String} {i j : Nat}
    (hp : tokenize p = .ok [⟨.identifier s, i⟩]) (hx : tokenize x = .ok [⟨.identifier t, j⟩]) :
    ((Path.ofText s).segments.head? ≠ some "in" →
      parse ("not " ++ p) none = .ok ⟨.not (.field (Path.ofText s))⟩) ∧
    ((Path.ofText s).segments.head? = some "in" → ∀ q, parse ("not " ++ p) none ≠ .ok q) ∧
    parse (x ++ " == " ++ p) none =
      .ok ⟨.compare .equal (.field (Path.ofText t)) (.field (Path.ofText s))⟩ ∧
    ((Path.ofText s).segments.head? ≠ some "not" →
      parse (x ++ " is " ++ p) none = parse (x ++ " == " ++ p) none) ∧
    ((Path.ofText s).segments.head? = some "not" → ∀ q, parse (x ++ " is " ++ p) none ≠ .ok q) := by
  have hkp : kinds? p = some [.identifier s] := by rw [kinds?, hp]; rfl
  have hkx : kinds? x = some [.identifier t] := by rw [kinds?, hx]; rfl
  have hequal := parse_equal_path hkp hkx
  refine ⟨parse_not_path hkp, parse_not_broken hkp, hequal, fun hname => ?_,
    parse_is_broken hkp hkx⟩
  rw [hequal]
  exact parse_is_path hkp hkx hname

/-- A path with a first name that only begins with the letters of `in`. -/
theorem parse_word_before_path_inner :
    tokenize " inner/x" = .ok [⟨.identifier "inner/x", 1⟩] ∧
      tokenize "a.b" = .ok [⟨.identifier "a.b", 0⟩] ∧
      parse ("not " ++ " inner/x") none = .ok ⟨.not (.field ⟨["inner", "x"]⟩)⟩ ∧
      parse ("a.b" ++ " is " ++ " inner/x") none = parse ("a.b" ++ " == " ++ " inner/x") none := by
  have hp : tokenize " inner/x" = .ok [⟨.identifier "inner/x", 1⟩] := by with_unfolding_all rfl
  have hx : tokenize "a.b" = .ok [⟨.identifier "a.b", 0⟩] := by with_unfolding_all rfl
  have hpath : Path.ofText "inner/x" = ⟨["inner", "x"]⟩ := by decide
  obtain ⟨hnot, -, -, his, -⟩ := parse_word_before_path hp hx
  rw [hpath] at hnot his
  exact ⟨hp, hx, hnot (by decide), his (by decide)⟩

/-- The two paths that are broken. -/
theorem parse_broken_paths :
    tokenize "in/x" = .ok [⟨.identifier "in/x", 0⟩] ∧
      parse ("not " ++ "in/x") none =
        .error (.grammar (some ⟨.operator (.comparison .notMember), 0⟩) .noExpression) ∧
      tokenize "not/y" = .ok [⟨.identifier "not/y", 0⟩] ∧
      parse ("x" ++ " is " ++ "not/y") none =
        .error (.grammar (some ⟨.operator (.sign .slash), 8⟩) .noExpression) ∧
      parse ("x" ++ " == " ++ "not/y") none =
        .ok ⟨.compare .equal (.field ⟨["x"]⟩) (.field ⟨["not", "y"]⟩)⟩ := by
  with_unfolding_all exact ⟨rfl, rfl, rfl, rfl, rfl⟩

end Query

end FieldQuery
