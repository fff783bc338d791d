import FieldQuery.Proofs.Spacing
import FieldQuery.Proofs.Substitution

/-!
# Texts with a field path in them

A text that is one path is a spelling with white space around it, and is read in the same way
before white space.  And without parameters a text is read as what the kinds of its tokens say,
wherever in the text they are.

* `exists_spelling` — what a text that is one path looks like.
* `kinds?_path_append` — it is one token before a pause.
* `Path.head?_segments` — the first name of a path is the word that its spelling begins with.
* `Grammar.Denotes` — what tokens of some kinds are read as; `Query.parse_eq_ok_iff` ties it to
  the texts.
-/

namespace FieldQuery

open Text Grammar

/-! ## A path alone in its text -/

theorem scanWord_eq_identifier {spelling after : List Char} {s : String} {n : Nat}
    (h : scanWord spelling after = .found (.identifier s) n) :
    s = String.ofList spelling ∧ n = spelling.length := by
  unfold scanWord at h
  split at h
  case h_1 | h_2 => split at h <;> cases h
  case h_8 =>
    split at h
    · cases h
    · cases h
      exact ⟨rfl, rfl⟩
  all_goals cases h

/-- What is read as a path is the longest path that the text begins with. -/
theorem scan_eq_identifier {c : Char} {cs : List Char} {s : String} {n : Nat}
    (h : scan c cs = .found (.identifier s) n) :
    s.toList = c :: leadingPath cs ∧ n = s.toList.length := by
  by_cases hc : isWordStart c = true
  · rw [scan_of_isWordStart hc] at h
    obtain ⟨rfl, rfl⟩ := scanWord_eq_identifier h
    rw [String.toList_ofList]
    exact ⟨rfl, rfl⟩
  · exact absurd rfl ((isWordless_of_scan (by simpa using hc) h).2 s)

/-- **A text that is one path is a spelling with white space around it.** -/
theorem exists_spelling {text s : String} (h : kinds? text = some [.identifier s]) :
    IsSpelling s ∧ ∃ front back : String, text = front ++ (s ++ back) ∧
      (∀ c ∈ front.toList, isBlank c = true) ∧ ∀ c ∈ back.toList, isBlank c = true := by
  have hscans := kinds?_eq_some_iff.1 h
  have hparts : ∃ front back, text.toList = front ++ (s.toList ++ back) ∧
      (∀ c ∈ front, isBlank c = true) ∧ ∀ c ∈ back, isBlank c = true := by
    generalize hks : [TokenKind.identifier s] = ks at hscans
    generalize text.toList = cs at hscans
    induction hscans with
    | nil => cases hks
    | @blank c cs ks hb _ ih =>
      obtain ⟨front, back, rfl, hfront, hback⟩ := ih hks
      exact ⟨c :: front, back, rfl, List.forall_mem_cons.2 ⟨hb, hfront⟩, hback⟩
    | @token c cs k n ks _ hscan hrest _ =>
      cases hks
      obtain ⟨hs, rfl⟩ := scan_eq_identifier hscan
      have hprefix : s.toList <+: c :: cs := by
        rw [hs]
        exact (List.prefix_cons_inj c).2 (leadingPath_isPrefix cs)
      exact ⟨[], _, (List.prefix_iff_eq_append.1 hprefix).symm, nofun, hrest.isBlank_of_nil⟩
  obtain ⟨front, back, htext, hfront, hback⟩ := hparts
  refine ⟨hscans.isLexical _ (List.mem_singleton.2 rfl), String.ofList front, String.ofList back,
    ?_, by rwa [String.toList_ofList], by rwa [String.toList_ofList]⟩
  rw [← String.toList_inj, String.toList_append, String.toList_append, String.toList_ofList,
    String.toList_ofList, htext]

/-- A spelling is one token before what no path goes on with. -/
theorem kinds?_spelling_append {s after : String} (hs : IsSpelling s)
    (ha : ∀ c ∈ after.toList.head?, isWordChar c = false ∧ Path.isSeparator c = false) :
    kinds? (s ++ after) = (kinds? after).map (.identifier s :: ·) := by
  have hscan := scanWord_of_isSpelling hs after.toList
  obtain ⟨⟨c, cs, htext, hc, hcs⟩, -⟩ := hs
  rw [htext, ← scan_path_append hc hcs ha] at hscan
  refine kinds?_of_scan ?_ (isBlank_eq_false_of_isWordStart hc) hscan ?_
  · rw [String.toList_append, htext, List.cons_append]
  · rw [← List.cons_append, List.drop_left]

theorem Pauses.append {back after : List Char} (hback : ∀ c ∈ back, isBlank c = true)
    (ha : Pauses after) : Pauses (back ++ after) := by
  cases back with
  | nil => exact ha
  | cons c cs =>
    rintro _ ⟨⟩
    exact hback _ (List.mem_cons_self ..)

/-- **A text that is one path is one token before a pause.** -/
theorem kinds?_path_append {text s after : String} (h : kinds? text = some [.identifier s])
    (ha : Pauses after.toList) :
    kinds? (text ++ after) = (kinds? after).map (.identifier s :: ·) := by
  obtain ⟨hs, front, back, rfl, hfront, hback⟩ := exists_spelling h
  have hpause : Pauses (back ++ after).toList := by
    rw [String.toList_append]
    exact ha.append hback
  rw [String.append_assoc, String.append_assoc, kinds?_blanks_append hfront,
    kinds?_spelling_append hs hpause.head_path, kinds?_blanks_append hback]

theorem isBlank_of_mem_space : ∀ c ∈ " ".toList, isBlank c = true :=
  List.all_eq_true.1 (by decide)

theorem kinds?_space_append (text : String) : kinds? (" " ++ text) = kinds? text :=
  kinds?_blanks_append isBlank_of_mem_space

theorem pauses_space (after : String) : Pauses (" " ++ after).toList := by
  rw [String.toList_append]
  rintro _ ⟨⟩
  decide

/-- A path is one token before a space. -/
theorem kinds?_path_space {text s after : String} (h : kinds? text = some [.identifier s]) :
    kinds? (text ++ (" " ++ after)) = (kinds? after).map (.identifier s :: ·) := by
  rw [kinds?_path_append h (pauses_space after), kinds?_space_append]

/-! ## The first name of a path -/

/-- A spelling is a word, and then nothing or a separator and what is behind it. -/
theorem Text.IsSpelling.exists_first {s : String} (hs : IsSpelling s) :
    ∃ word rest, s.toList = word ++ rest ∧ leadingWord s.toList = word ∧ word ≠ [] ∧
      (∀ c ∈ word, isWordChar c = true) ∧
      (rest = [] ∨ ∃ sep cs, rest = sep :: cs ∧ Path.isSeparator sep = true) := by
  obtain ⟨⟨c, cs, htext, hc, hcs⟩, -⟩ := hs
  obtain ⟨word, rest, hsplit, hlead⟩ : ∃ word rest, s.toList = word ++ rest ∧
      leadingWord s.toList = word :=
    ⟨_, _, List.takeWhile_append_dropWhile.symm, rfl⟩
  have hword : ∀ d ∈ word, isWordChar d = true := by
    rw [← hlead]
    exact List.all_eq_true.1 List.all_takeWhile
  have hne : word ≠ [] := by
    rintro rfl
    rw [htext, leadingWord, List.takeWhile_cons_of_pos (isWordChar_of_isWordStart hc)] at hlead
    cases hlead
  have hrest : leadingPath rest = rest := by
    have hall : leadingPath s.toList = s.toList := by rw [htext, leadingPath_cons hc, hcs]
    rw [hsplit, Path.leadingPath_word_append hword] at hall
    exact List.append_cancel_left hall
  have hend : leadingWord rest = [] := by
    rw [hsplit, leadingWord, List.takeWhile_append_of_pos hword] at hlead
    exact List.append_cancel_left (hlead.trans (List.append_nil _).symm)
  refine ⟨word, rest, hsplit, hlead, hne, hword, ?_⟩
  rcases nil_or_separator_of_leadingPath hrest hend with rfl | ⟨sep, d, ds, rfl, hsep, -, -⟩
  · exact .inl rfl
  · exact .inr ⟨sep, _, rfl, hsep⟩

/-- The first name of a path is the word that its spelling begins with. -/
theorem Path.head?_segments {s : String} (hs : IsSpelling s) :
    (Path.ofText s).segments.head? = some (String.ofList (leadingWord s.toList)) := by
  obtain ⟨word, rest, hsplit, hlead, hne, hword, hrest⟩ := hs.exists_first
  obtain ⟨c, cs, hread⟩ := List.exists_cons_of_ne_nil (mt List.reverse_eq_nil_iff.1 hne)
  rw [hlead]
  show (pieces [] s.toList).head? = _
  rw [hsplit, pieces_word_append hword, List.append_nil, hread]
  -- the first name is over at the end of the text or at a separator
  rcases hrest with rfl | ⟨sep, tail, rfl, hsep⟩
  · rw [pieces, ← hread, List.reverse_reverse, List.head?_cons]
    exact List.cons_ne_nil _ _
  · rw [pieces, if_pos hsep, if_neg (by simp), List.head?_cons, ← hread, List.reverse_reverse]

/-! ## What tokens are read as -/

namespace Grammar

/-- Tokens of these kinds are read as the expression, and none of them is a placeholder. -/
structure Denotes (ks : List TokenKind) (e : Expr) : Prop where
  /-- There is no placeholder. -/
  placeholder_notMem : ∀ name, .placeholder name ∉ ks
  /-- The tokens are read as the expression, wherever they are. -/
  derives : ∀ ps, kinds ps = ks → Derives none (.chain .or) ps e []

/-- Tokens of the same kinds match if no placeholder is among them. -/
theorem matching_of_kinds {ps qs : List Piece} (h : kinds ps = kinds qs)
    (hps : ∀ name, .placeholder name ∉ kinds ps) : Matching ps qs := by
  have hsigned : ¬ HasSignedPlaceholder (kinds ps) := by
    rintro ⟨name, hrun⟩
    exact hps name (hrun.subset (by simp))
  refine ⟨?_, hsigned, h ▸ hsigned⟩
  clear hsigned
  induction ps generalizing qs with
  | nil =>
    obtain rfl := kinds_eq_nil h.symm
    exact .nil
  | cons p ps ih =>
    obtain ⟨q, rest, rfl, hq, hrest⟩ := kinds_eq_cons h.symm
    have hp : ∀ name, p.token.kind ≠ .placeholder name := fun name heq =>
      hps name (heq ▸ List.mem_cons_self ..)
    refine .cons ?_ (ih hrest.symm fun name hmem => hps name (List.mem_cons_of_mem _ hmem))
    exact (content_of_other hp).trans (hq.symm.trans (content_of_other (hq ▸ hp)).symm)

/-- Without parameters no placeholder is filled. -/
theorem placeholder_notMem_of_isFilled {tokens : List Token} {used : Nat}
    (h : ∀ q ∈ Params.fill none used tokens, q.IsFilled) (name : Option String) :
    .placeholder name ∉ tokens.map Token.kind := by
  induction tokens generalizing used with
  | nil => exact List.not_mem_nil
  | cons t ts ih =>
    rw [List.map_cons, List.mem_cons, not_or]
    by_cases hk : ∃ name, t.kind = .placeholder name
    · obtain ⟨name', hk⟩ := hk
      rw [Params.fill_of_placeholder hk] at h
      obtain ⟨v, hv⟩ := (isFilled_placeholder hk).1 (h _ (List.mem_cons_self ..))
      cases hv
    · rw [Params.fill_of_other (not_exists.1 hk)] at h
      exact ⟨fun heq => hk ⟨name, heq.symm⟩, ih fun q hq => h q (List.mem_cons_of_mem _ hq)⟩

theorem Derives.denotes {ps : List Piece} {e : Expr} (d : Derives none (.chain .or) ps e [])
    (h : ∀ name, .placeholder name ∉ kinds ps) : Denotes (kinds ps) e := by
  refine ⟨h, fun qs hqs => ?_⟩
  obtain ⟨last, hd, hlast⟩ := d.transfer (matching_of_kinds hqs.symm h)
  rwa [hlast.nil_left] at hd

end Grammar

namespace Query

/-- The tokens of a text whose kinds are known, with no parameters for them. -/
theorem exists_tokens {source : String} {ks : List TokenKind} (h : kinds? source = some ks) :
    ∃ ts, (Input.ofText source).tokens = (ts, none) ∧ kinds (Params.fill none 0 ts) = ks := by
  obtain ⟨ts, htokens, hkinds⟩ := (kinds?_eq_some_iff.1 h).tokens (Input.ofText source) rfl
  exact ⟨ts, htokens, (kinds_fill none ts 0).trans hkinds⟩

/-- **Without parameters a text is read as what the kinds of its tokens say.** -/
theorem parse_eq_ok_iff {source : String} {e : Expr} :
    parse source none = .ok ⟨e⟩ ↔ ∃ ks, kinds? source = some ks ∧ Denotes ks e := by
  constructor
  · intro h
    obtain ⟨ts, fault, htokens⟩ : ∃ ts fault, (Input.ofText source).tokens = (ts, fault) :=
      ⟨_, _, rfl⟩
    rw [parse, htokens] at h
    obtain ⟨hclear, hd, -⟩ := ofTokens_eq_ok_iff.1 h
    obtain rfl := hd.clear hclear rfl
    have hfree := placeholder_notMem_of_isFilled (hd.isFilled (by simp))
    have hscans : Input.Holds (Input.ofText source) ts := htokens
    rw [← kinds_fill none ts 0] at hfree
    exact ⟨_, kinds?_eq_some_iff.2 hscans.scans, kinds_fill none ts 0 ▸ hd.denotes hfree⟩
  · rintro ⟨ks, hks, hdenotes⟩
    obtain ⟨ts, htokens, hkinds⟩ := exists_tokens hks
    rw [parse, htokens]
    exact ofTokens_eq_ok_iff.2 ⟨clear_none _, hdenotes.derives _ hkinds, rfl⟩

end Query

end FieldQuery
