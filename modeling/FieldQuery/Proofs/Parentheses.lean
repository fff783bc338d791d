import FieldQuery.Proofs.FieldTexts

/-!
# Parentheses only group

A text in parentheses has the tokens of the text between the parentheses, for no token goes on
with a closing parenthesis; and what these tokens are read as is the same before a closing
parenthesis as at the end of a text, for no expression goes on with one.

* `Ending.scan_append`, `Scans.append_ending` — what is read before the end of a group.
* `Grammar.Derives.append` — what is read is the same before a token that grips nothing.
* `Query.parse_parenthesized` — a text in parentheses is the query of the text, unless it is a
  minus sign and a number.
-/

namespace FieldQuery

open Text Grammar

/-! ## Tokens before the end of a group -/

section

variable {after : List Char}

theorem Ending.breaks (h : Ending after) : Breaks after := by
  intro c hc
  obtain rfl := h c hc
  decide

/-- The end of a group is no part of the word ahead. -/
theorem Ending.wordAhead?_append (h : Ending after) (word : String) (hne : word.toList ≠ [])
    (cs : List Char) :
    FieldQuery.wordAhead? word (cs ++ after) = FieldQuery.wordAhead? word cs := by
  by_cases hcs : dropBlanks cs = []
  · have hnext : dropBlanks (cs ++ after) = dropBlanks after :=
      List.dropWhile_append_of_pos (List.dropWhile_eq_nil_iff.1 hcs)
    have hword : leadingWord (dropBlanks after) ≠ word.toList := by
      intro heq
      have hnone := h.wordAhead? hne
      rw [FieldQuery.wordAhead?, if_pos heq] at hnone
      cases hnone
    have hnil : leadingWord [] ≠ word.toList := Ne.symm hne
    rw [FieldQuery.wordAhead?, FieldQuery.wordAhead?, hnext, if_neg hword, hcs, if_neg hnil]
  · have hword : leadingWord (dropBlanks cs ++ after) = leadingWord (dropBlanks cs) :=
      h.breaks.stops.takeWhile_append (fun _ => id) _
    have hlength : (cs ++ after).length - (dropBlanks cs ++ after).length =
        cs.length - (dropBlanks cs).length := by
      rw [List.length_append, List.length_append, Nat.add_sub_add_right]
    rw [FieldQuery.wordAhead?, FieldQuery.wordAhead?, dropBlanks_append hcs, hword, hlength]

/-- A word is read in the same way before the end of a group. -/
theorem Ending.scanWord_append (h : Ending after) (spelling cs : List Char) :
    scanWord spelling (cs ++ after) = scanWord spelling cs := by
  unfold scanWord
  rw [h.wordAhead?_append "not" (by decide), h.wordAhead?_append "in" (by decide)]

/-- **A token is read in the same way before the end of a group.** -/
theorem Ending.scan_append (h : Ending after) {c : Char} {cs : List Char} {k : TokenKind} {n : Nat}
    (hscan : scan c cs = .found k n) : scan c (cs ++ after) = .found k n := by
  by_cases hc : isWordStart c = true
  · have hpath : leadingPath (cs ++ after) = leadingPath cs :=
      leadingPath_append fun d hd => ⟨(h.delimits.head d hd).1, (h.delimits.head d hd).2.1⟩
    have hle : (leadingPath cs).length ≤ cs.length := (leadingPath_isPrefix cs).length_le
    rw [scan_of_isWordStart hc] at hscan
    rw [scan_of_isWordStart hc, hpath, List.drop_append_of_le_length hle, h.scanWord_append, hscan]
  · exact h.breaks.scan_append (by simpa using hc) hscan

/-- **So are all tokens of a text.** -/
theorem Scans.append_ending {text : List Char} {ks ls : List TokenKind} (h : Scans text ks)
    (he : Ending after) (ha : Scans after ls) : Scans (text ++ after) (ks ++ ls) := by
  induction h with
  | nil => exact ha
  | blank hb _ ih => exact .blank hb ih
  | @token c cs k n ks hb hscan _ ih =>
    have hlength := scan_taken_le c cs
    rw [hscan] at hlength
    refine .token hb (he.scan_append hscan) ?_
    show Scans ((c :: cs ++ after).drop n) (ks ++ ls)
    rwa [List.drop_append_of_le_length hlength]

end

/-- A text in parentheses has the tokens of the text and the parentheses. -/
theorem kinds?_parenthesized {source : String} {ks : List TokenKind} (h : kinds? source = some ks) :
    kinds? ("(" ++ source ++ ")") = some (.openParen :: ks ++ [.closeParen]) := by
  have hclose : Scans [')'] [.closeParen] := .token (n := 1) (by decide) rfl .nil
  have hinner := (kinds?_eq_some_iff.1 h).append_ending (by simp [Ending]) hclose
  rw [kinds?_eq_some_iff, String.toList_append, String.toList_append]
  exact .token (n := 1) (by decide) rfl hinner

/-! ## Expressions before a token that grips nothing -/

namespace Grammar

variable {tail : List Piece}

/-- Where there are tokens, the first of them is the same with more behind. -/
theorem HeadNot.append {test : TokenKind → Bool} {ps : List Piece} (h : HeadNot test ps)
    (ht : HeadNot test tail) : HeadNot test (ps ++ tail) := by
  cases ps with
  | nil => exact ht
  | cons p ps => exact h

theorem HeadNot.append_of_ne {test : TokenKind → Bool} {ps : List Piece} (h : HeadNot test ps)
    (hne : ps ≠ []) : HeadNot test (ps ++ tail) := by
  cases ps with
  | nil => exact absurd rfl hne
  | cons p ps => exact h

theorem Derives.ne_nil {fault : Option LexError} {phrase : Phrase} {ps rest : List Piece} {e : Expr}
    (d : Derives fault phrase ps e rest) (hb : phrase.Begins) : ps ≠ [] := by
  obtain ⟨p, tail, rfl, -⟩ := d.begins hb
  exact List.cons_ne_nil _ _

/-- A parenthesis that holds no negative literal holds none if more tokens follow. -/
theorem negativeLiteral?_append {ps last : List Piece} {c : Piece} {e : Expr}
    (h : negativeLiteral? none ps = .ok none) (hc : c :: last <:+ ps)
    (d : Derives none (.chain .or) (ps ++ tail) e (c :: last ++ tail)) :
    negativeLiteral? none (ps ++ tail) = .ok none := by
  obtain ⟨front, rfl⟩ := hc
  rw [List.append_assoc] at d ⊢
  refine negativeLiteral?_eq_none rfl d fun hclose v negated hv hks => ?_
  obtain ⟨m, after, rfl, hm, hafter⟩ := kinds_eq_cons hks
  obtain ⟨n, after, rfl, hn, hnil⟩ := kinds_eq_cons hafter
  obtain rfl := kinds_eq_nil hnil
  obtain ⟨hlt, hsome⟩ := negativeLiteral?_of_negative hm hn hv hclose (clear_none last)
  exact nomatch h.symm.trans hsome

/-- **What is read is the same before a token that grips nothing.** -/
theorem Derives.append {phrase : Phrase} {ps rest : List Piece} {e : Expr}
    (d : Derives none phrase ps e rest) (hl : Loose 0 tail) :
    Derives none phrase (ps ++ tail) e (rest ++ tail) := by
  induction d with
  | chain _ _ ihFirst ihRest => exact .chain ihFirst ihRest
  | stop hrest =>
    exact .stop (hrest.append (hl.headNot fun _ h => Nat.zero_lt_of_lt (grip_of_joins h)))
  | more hj _ _ _ ihRight ihRest => exact .more hj (clear_none _) ihRight ihRest
  | orOperand _ ih => exact .orOperand ih
  | andOperand _ ih => exact .andOperand ih
  | sumOperand _ ih => exact .sumOperand ih
  | productOperand _ ih => exact .productOperand ih
  | not hk _ _ ih => exact .not hk (clear_none _) ih
  | unnegated hnot d ih => exact .unnegated (hnot.append_of_ne (d.ne_nil trivial)) ih
  | sum _ hrest ih =>
    exact .sum ih
      (hrest.append (hl.headNot fun _ h => Nat.zero_lt_of_lt (grip_of_continuesComparison h)))
  | isa _ hk hn _ ih => exact .isa ih hk hn (clear_none _)
  | compare _ hk _ _ hrest ihLeft ihRight =>
    exact .compare ihLeft hk (clear_none _) ihRight
      (hrest.append (hl.headNot fun _ h => Nat.zero_lt_of_lt (grip_of_isComparator h)))
  | minus hk _ _ ih => exact .minus hk (clear_none _) ih
  | unsigned hminus d ih => exact .unsigned (hminus.append_of_ne (d.ne_nil trivial)) ih
  | literal hk _ => exact .literal hk (clear_none _)
  | filled hk hv _ => exact .filled hk hv (clear_none _)
  | field hk _ hrest =>
    exact .field hk (clear_none _)
      (hrest.append (hl.headNot fun _ h => Nat.zero_lt_of_lt (grip_of_isNavigator h)))
  | within hk ho _ _ ih => exact .within hk ho (clear_none _) ih
  | quantified hk hc ho _ _ ih => exact .quantified hk hc ho (clear_none _) ih
  | component hk hc hn _ => exact .component hk hc hn (clear_none _)
  | isaCurrent hk hn _ => exact .isaCurrent hk hn (clear_none _)
  | minusPrimary hk _ _ ih => exact .minusPrimary hk (clear_none _) ih
  | emptyList hk hc _ => exact .emptyList hk hc (clear_none _)
  | negative hk hm hn hv hc _ => exact .negative hk hm hn hv hc (clear_none _)
  | group hk _ hclose hnone d hc _ ih =>
    exact .group hk (clear_none _) (hclose.append_of_ne (d.ne_nil trivial))
      (negativeLiteral?_append hnone d.suffix ih) ih hc (clear_none _)
  | list hk _ hclose hnone d hc hv _ ihFirst ihItems =>
    exact .list hk (clear_none _) (hclose.append_of_ne (d.ne_nil trivial))
      (negativeLiteral?_append hnone d.suffix ihFirst) ihFirst hc hv ihItems
  | item hk _ _ hv _ ihItem ihItems => exact .item hk (clear_none _) ihItem hv ihItems
  | close hk _ => exact .close hk (clear_none _)

/-- What a text is read as can stand wherever nothing grips it. -/
theorem Denotes.spells {ks : List TokenKind} {e : Expr} (h : Denotes ks e) :
    Spells (.chain .or) 0 ks e :=
  fun front _ hf hl => (h.derives front hf).append hl

/-- What can stand as an operand is read on its own. -/
theorem IsOperand.denotes {ks : List TokenKind} {e : Expr} (h : IsOperand ks e)
    (hks : ∀ name, .placeholder name ∉ ks) : Denotes ks e := by
  refine ⟨hks, fun ps hps => ?_⟩
  have hd := h.whole ps [] hps (loose_nil 0)
  rwa [List.append_nil] at hd

/-- A group is read as what is in it, unless it is a negative literal. -/
theorem Denotes.group {ks : List TokenKind} {e : Expr} (h : Denotes ks e)
    (hneg : ∀ v negated, negate? v = some negated →
      ks ≠ [.operator (.sign .minus), .literal v]) :
    Denotes (.openParen :: ks ++ [.closeParen]) e :=
  (isOperand_group h.spells fun v negated hv hks => absurd hks (hneg v negated hv)).denotes
    (by simp [h.placeholder_notMem])

/-- A minus sign and a number in parentheses are read as the negated number. -/
theorem denotes_negative {v negated : Value} (h : negate? v = some negated) :
    Denotes [.openParen, .operator (.sign .minus), .literal v, .closeParen] (.literal negated) :=
  (isOperand_negative h).denotes (by simp)

end Grammar

namespace Query

/-- **Parentheses only group.**  A text that is a query is the same query in parentheses, unless
its tokens are a minus sign and one number, which in parentheses are the literal of the negated
number. -/
theorem parse_parenthesized {source : String} {q : Query} (h : parse source none = .ok q) :
    (∀ n, kinds? source = some [.operator (.sign .minus), .literal (.integer n)] →
      parse ("(" ++ source ++ ")") none = .ok ⟨.literal (.integer (-n))⟩) ∧
    (∀ x, kinds? source = some [.operator (.sign .minus), .literal (.float x)] →
      parse ("(" ++ source ++ ")") none = .ok ⟨.literal (.float (-x))⟩) ∧
    ((∀ n, kinds? source ≠ some [.operator (.sign .minus), .literal (.integer n)]) →
      (∀ x, kinds? source ≠ some [.operator (.sign .minus), .literal (.float x)]) →
      parse ("(" ++ source ++ ")") none = .ok q ∧ (q == q) = true) := by
  have hnegative : ∀ {v negated : Value}, negate? v = some negated →
      kinds? source = some [.operator (.sign .minus), .literal v] →
      parse ("(" ++ source ++ ")") none = .ok ⟨.literal negated⟩ := fun hv hks =>
    parse_eq_ok_iff.2 ⟨_, kinds?_parenthesized hks, denotes_negative hv⟩
  refine ⟨fun n => hnegative rfl, fun x => hnegative rfl, fun hinteger hfloat => ?_⟩
  obtain ⟨ks, hks, hdenotes⟩ := parse_eq_ok_iff.1 h
  refine ⟨parse_eq_ok_iff.2 ⟨_, kinds?_parenthesized hks, hdenotes.group ?_⟩,
    (written_of_parse h).same_self⟩
  -- only numbers can be negated
  intro v negated hv heq
  cases v <;> cases hv
  · exact hinteger _ (hks.trans (congrArg some heq))
  · exact hfloat _ (hks.trans (congrArg some heq))

/-- A minus sign and a number, alone and before more. -/
theorem parse_parenthesized_minus :
    (∃ q, parse "-5" none = .ok q ∧
      parse ("(" ++ "-5" ++ ")") none = .ok ⟨.literal (.integer (-5))⟩) ∧
    ∃ q, parse "-5 in (1, 2)" none = .ok q ∧ parse ("(" ++ "-5 in (1, 2)" ++ ")") none = .ok q := by
  have hnegative : parse "-5" none = .ok ⟨.negation (.literal (.integer 5))⟩ := by
    with_unfolding_all rfl
  have hmember : parse "-5 in (1, 2)" none = .ok ⟨.compare .member
      (.negation (.literal (.integer 5)))
      (.literal (.array [.integer 1, .integer 2]))⟩ := by
    with_unfolding_all rfl
  have hkinds : kinds? "-5 in (1, 2)" = some [.operator (.sign .minus), .literal (.integer 5),
      .operator (.comparison .member), .openParen, .literal (.integer 1), .comma,
      .literal (.integer 2), .closeParen] := by
    with_unfolding_all rfl
  refine ⟨⟨_, hnegative, (parse_parenthesized hnegative).1 5 (by with_unfolding_all rfl)⟩,
    _, hmember, ((parse_parenthesized hmember).2.2 ?_ ?_).1⟩
  · intro n
    simp [hkinds]
  · intro x
    simp [hkinds]

end Query

end FieldQuery
