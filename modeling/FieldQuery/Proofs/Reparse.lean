import FieldQuery.Proofs.Constants

/-!
# Printed queries are read back

The text of an expression is read as the expression.  Every operand is printed so that it can
stand beside any operator, and so an induction over the text needs to know no more of the parts of
an expression than that.

* `Expr.IsClean` — what an expression must not hold for its text to be read back.
* `Lexing` — what is taken of the tokens of texts that are put together.
* `Expr.IsLegible` — what an expression must not hold for its text to have the tokens it should.
* `Expr.Reads` — the text is read as the expression.
* `Expr.Reads.isOperand` — an operand can stand on either side of any operator.
* `Expr.reads` — every legible expression that a text can have is read back.
-/

namespace FieldQuery

open Text Number Grammar

namespace Expr

/-! ## What is read back -/

/-- Is there nothing in the expression that its text would be misread for? -/
structure IsClean (e : Expr) : Prop where
  /-- The literals are clean. -/
  literals : ∀ v, .literal v ∈ e.parts → v.IsClean
  /-- No negated field path begins with the word `in`, which `not` would join. -/
  notIn : ∀ p, .not (.field p) ∈ e.parts → p.segments.head? ≠ some "in"
  /-- No two minus signs stand before a number that has none of its own. -/
  signs : ∀ v, negation (negation (.literal v)) ∈ e.parts → v.isNonNegative = false

/-- What a clean expression must not hold, said of all constants in it. -/
theorem IsClean.of_constants {e : Expr}
    (hquotes : ∀ s, .string s ∈ e.constants → '\'' ∉ s.toList)
    (hfinite : ∀ x, .float x ∈ e.constants → x.isInf = false)
    (hin : ∀ p, .not (.field p) ∈ e.parts → p.segments.head? ≠ some "in")
    (hsigns : ∀ v, negation (negation (.literal v)) ∈ e.parts → v.isNonNegative = false) :
    e.IsClean := by
  refine ⟨fun v hv => ⟨fun s hs => ?_, fun x hx => ?_⟩, hin, hsigns⟩
  · exact hquotes s (mem_constants.2 ⟨v, hv, hs⟩)
  · exact hfinite x (mem_constants.2 ⟨v, hv, hx⟩)

end Expr

/-! ## Texts that are put together -/

/-- A way for texts to have tokens, as far as it matters how the texts are put together. -/
structure Lexing where
  /-- A text has the tokens in front of any delimiter. -/
  Inner : List Char → List TokenKind → Prop
  /-- A text has the tokens where the whole text or a group ends. -/
  Whole : List Char → List TokenKind → Prop
  /-- A text always has the tokens that the tokenizer reads. -/
  of_lexes {t ks} : Lexes t ks → Inner t ks
  /-- The end of a text or group is a delimiter. -/
  whole {t ks} : Inner t ks → Whole t ks
  /-- Two texts with a blank between them. -/
  spaced {t u ks ls} : Inner t ks → Inner u ls → Inner (t ++ ' ' :: u) (ks ++ ls)
  /-- A text between parentheses. -/
  parenthesized {t ks} :
    Whole t ks → Inner ('(' :: t ++ [')']) (.openParen :: ks ++ [.closeParen])
  /-- A sign and the text behind it, which must not make it an arrow. -/
  minus {t ks} : Inner t ks → (∀ c tail, ks ≠ .operator (.comparison c) :: tail) →
    Inner ('-' :: t) (.operator (.sign .minus) :: ks)
  /-- `not` before anything but a name or a comparison. -/
  not {t ks} : Inner t ks → ks ≠ [] → (∀ c tail, ks ≠ .operator (.comparison c) :: tail) →
    (∀ s tail, ks ≠ .identifier s :: tail) → Whole ("not ".toList ++ t) (.keyword .not :: ks)
  /-- The tokens are such as a text can have. -/
  isLexical {t ks} : Whole t ks → ∀ k ∈ ks, k.IsLexical

namespace Lexing

/-- Texts have the tokens that the tokenizer reads. -/
def exact : Lexing where
  Inner := Lexes
  Whole := Lexes
  of_lexes := id
  whole := id
  spaced := Lexes.spaced
  parenthesized := Lexes.parenthesized
  minus := Lexes.minus
  not ht hne hoperator hname :=
    ht.not hne hoperator fun s tail hks => absurd hks (hname s tail)
  isLexical ht := ht.scans.isLexical

/-- Two texts around an operator that has a blank on either side. -/
theorem around (lexing : Lexing) {l r between : String} {op : List Char}
    {ks ls ms : List TokenKind} (hb : between.toList = ' ' :: op ++ [' '])
    (hl : lexing.Inner l.toList ks) (ho : Lexes op ls) (hr : lexing.Inner r.toList ms) :
    lexing.Inner (l ++ between ++ r).toList (ks ++ (ls ++ ms)) := by
  have htext : (l ++ between ++ r).toList = l.toList ++ ' ' :: (op ++ ' ' :: r.toList) := by
    simp [String.toList_append, hb]
  rw [htext]
  exact lexing.spaced hl (lexing.spaced (lexing.of_lexes ho) hr)

end Lexing

namespace Expr

variable {lexing : Lexing}

/-- Does the text of the expression have the tokens that the expression is read from? -/
structure IsLegible (lexing : Lexing) (e : Expr) : Prop where
  /-- The literals are clean. -/
  literals : ∀ v, .literal v ∈ e.parts → v.IsClean
  /-- A negated field path is `not` and the path. -/
  nots : ∀ p : Path, .not (.field p) ∈ e.parts → p.IsProper →
    lexing.Whole ("not ".toList ++ p.text.toList) [.keyword .not, .identifier p.text]
  /-- No two minus signs stand before a number that has none of its own. -/
  signs : ∀ v, negation (negation (.literal v)) ∈ e.parts → v.isNonNegative = false

/-- Parts of a legible expression are legible. -/
theorem IsLegible.part {e part : Expr} (h : e.IsLegible lexing) (hp : part ∈ e.parts) :
    part.IsLegible lexing where
  literals v hv := h.literals v (parts_trans hv hp)
  nots p hn := h.nots p (parts_trans hn hp)
  signs v hv := h.signs v (parts_trans hv hp)

/-- `not` before a path that does not begin with the word `in`. -/
theorem lexes_not_field {p : Path} (hp : p.IsProper) (hin : p.segments.head? ≠ some "in") :
    Lexes ("not ".toList ++ p.text.toList) [.keyword .not, .identifier p.text] := by
  refine (lexes_identifier hp.isSpelling_text).not (by simp) (by simp) fun s tail hks hword => ?_
  cases hks
  obtain ⟨w, rest, hsegments⟩ := List.exists_cons_of_ne_nil hp.ne_nil
  rw [hp.leadingWord_text hsegments] at hword
  refine hin ?_
  rw [hsegments, List.head?_cons, ← String.ofList_toList (s := w), hword]

/-- The tokenizer finds the tokens of a clean expression. -/
theorem IsClean.isLegible {e : Expr} (h : e.IsClean) : e.IsLegible .exact where
  literals := h.literals
  nots p hn hp := lexes_not_field hp (h.notIn p hn)
  signs := h.signs

/-- The text of the expression is read as the expression; with a sign in front it is also read as
a term. -/
structure Reads (lexing : Lexing) (e : Expr) : Prop where
  /-- The whole text. -/
  whole : ∃ ks, lexing.Whole e.text.toList ks ∧ Spells (.chain .or) 0 ks e
  /-- A text that begins with a sign. -/
  signed : ∀ inner, e.negated? = some inner →
    ∃ ks, lexing.Inner e.text.toList ks ∧ Spells .signed 4 ks e

theorem eq_of_isMinusOne {e : Expr} (h : e.isMinusOne = true) : e = .literal (.integer (-1)) := by
  unfold isMinusOne at h
  split at h
  · rename_i n
    rw [beq_iff_eq.1 h]
  · cases h

/-- An expression with a sign is a negation. -/
theorem negated?_eq_some {e inner : Expr} (h : e.negated? = some inner) : e = negation inner := by
  unfold negated? at h
  split at h
  · rename_i factor operand
    split at h
    · rename_i hone
      cases h
      rw [eq_of_isMinusOne hone]
      rfl
    · cases h
  · cases h

@[simp] theorem negated?_negation (e : Expr) : (negation e).negated? = some e := by
  simp [negated?, negation, isMinusOne]

/-- What is read as a negation is read as a whole. -/
theorem reads_of_negation {e : Expr} {ks : List TokenKind} (hlex : lexing.Whole e.text.toList ks)
    (hs : Spells .negation 2 ks e) (hn : e.negated? = none) : e.Reads lexing where
  whole := ⟨ks, hlex, hs.conjunction.whole⟩
  signed := by simp [hn]

/-! ## Operands -/

/-- What has no inner structure is an operand as it stands. -/
theorem isOperand_of_isAtom {e : Expr} (ha : e.isAtom = true) (hw : e.Written)
    (hc : e.IsLegible lexing) : ∃ ks, lexing.Inner e.text.toList ks ∧ IsOperand ks e := by
  cases e with
  | literal v =>
    obtain ⟨ks, hlex, hoperand⟩ := Value.Constant.isOperand hw (hc.literals v (mem_parts_self _))
    exact ⟨ks, lexing.of_lexes hlex, hoperand⟩
  | field p =>
    have hp : p.IsProper := hw
    exact ⟨_, lexing.of_lexes (lexes_identifier hp.isSpelling_text), isOperand_field hp⟩
  | component name =>
    have hhas : Lexes ['h', 'a', 's'] [.keyword .has] :=
      lexes_word (by decide) (by decide) fun _ _ => rfl
    have hcomponent : Lexes ['c', 'o', 'm', 'p', 'o', 'n', 'e', 'n', 't'] [.keyword .component] :=
      lexes_word (by decide) (by decide) fun _ _ => rfl
    have hname : Lexes name.toList [.identifier name] := lexes_identifier hw
    refine ⟨_, ?_, isOperand_component name⟩
    rw [text, String.toList_append]
    exact lexing.of_lexes (hhas.spaced (hcomponent.spaced hname))
  | _ => cases ha

/-- A literal in two pairs of parentheses with a sign between them. -/
theorem isOperand_negated_literal {v : Value} (hv : v.Constant) (hc : v.IsClean) :
    ∃ ks, lexing.Inner ("(-(" ++ literalText v ++ "))").toList ks ∧
      IsOperand ks (negation (.literal v)) := by
  obtain ⟨ks, hlex, hoperand⟩ := hv.isOperand hc
  have hinner : IsOperand (.openParen :: ks ++ [.closeParen]) (.literal v) :=
    isOperand_group hoperand.whole fun _ _ _ _ => by simp [negation]
  have hminus := ((spells_minus hinner.signed).sum.comparison.unnegated).conjunction.whole
  refine ⟨_, ?_, isOperand_group hminus fun _ _ _ hks => by simp at hks⟩
  have := lexing.of_lexes (hlex.parenthesized.minus (by simp)).parenthesized
  simpa [String.toList_append] using this

/-- **Every operand** is printed so that it can stand on either side of any operator. -/
theorem Reads.isOperand {e : Expr} (h : e.Reads lexing) (hw : e.Written) (hc : e.IsLegible lexing) :
    ∃ ks, lexing.Inner (operandText e e.text).toList ks ∧ IsOperand ks e := by
  unfold operandText
  split
  · rename_i n heq
    have he := negated?_eq_some heq
    subst he
    exact isOperand_negated_literal hw.2 (hc.literals _ (by simp [negation, parts]))
  · rename_i x heq
    have he := negated?_eq_some heq
    subst he
    exact isOperand_negated_literal hw.2 (hc.literals _ (by simp [negation, parts]))
  · rename_i hint hfloat
    split
    · rename_i ha
      exact isOperand_of_isAtom ha hw hc
    · obtain ⟨ks, hlex, hs⟩ := h.whole
      refine ⟨_, ?_, isOperand_group hs fun v negated hv _ => ?_⟩
      · have := lexing.parenthesized hlex
        simpa [String.toList_append] using this
      · -- a negated number is printed in another way
        rintro rfl
        cases v with
        | integer n => exact hint n (negated?_negation _)
        | float x => exact hfloat x (negated?_negation _)
        | _ => cases hv

/-- An operand of `+` or `-` may begin with a sign. -/
theorem Reads.isTerm {e : Expr} (h : e.Reads lexing) (hw : e.Written) (hc : e.IsLegible lexing) :
    ∃ ks, lexing.Inner (termText e e.text).toList ks ∧ Spells (.operand .sum) 4 ks e := by
  unfold termText
  split
  · rename_i inner heq
    obtain ⟨ks, hlex, hs⟩ := h.signed inner heq
    exact ⟨ks, hlex, fun front rest hf hl => .sumOperand (hs front rest hf hl)⟩
  · obtain ⟨ks, hlex, hoperand⟩ := h.isOperand hw hc
    exact ⟨ks, hlex, hoperand.operand .sum⟩

/-- A signed expression, unless two signs stand before a number without one. -/
theorem Reads.negation {e : Expr} (h : e.Reads lexing) (hw : e.Written) (hc : e.IsLegible lexing)
    (hsigns : ∀ v, e = negation (.literal v) → v.isNonNegative = false) :
    ∃ ks, lexing.Inner (if e.isAtom then "-" ++ e.text else "-(" ++ e.text ++ ")").toList ks ∧
      Spells .signed 4 ks (Expr.negation e) := by
  split
  · rename_i ha
    obtain ⟨ks, hlex, hoperand⟩ := isOperand_of_isAtom ha hw hc
    refine ⟨_, ?_, spells_minus hoperand.signed⟩
    rw [String.toList_append]
    exact lexing.minus hlex hoperand.ready.not_comparison
  · obtain ⟨ks, hlex, hs⟩ := h.whole
    have hgroup : IsOperand (.openParen :: ks ++ [.closeParen]) e := by
      refine isOperand_group hs fun v negated hv hks he => ?_
      have hsign := hsigns v he
      have hlexical : v.IsLexical := lexing.isLexical hlex (.literal v) (by simp [hks])
      cases v with
      | integer n =>
        have hle : 0 ≤ n := hlexical
        simp [Value.isNonNegative, hle] at hsign
      | float x => simp [Value.isNonNegative, hlexical.1] at hsign
      | _ => cases hv
    refine ⟨_, ?_, spells_minus hgroup.signed⟩
    have := lexing.minus (lexing.parenthesized hlex) (by simp)
    simpa [String.toList_append] using this

/-! ## Words and signs -/

/-- A comparison sign is one token. -/
def comparator : Comparison → Comparator
  | .equal => .equal
  | .member | .subset => .member
  | .greater => .greater
  | .atLeast => .greaterEqual
  | .search => .search

theorem lexes_relation {relation : Comparison} (h : relation ≠ .subset) :
    Lexes (relationText relation).toList [.operator (.comparison (comparator relation))] := by
  cases relation with
  | subset => exact absurd rfl h
  | member => exact lexes_word (by decide) (by decide) fun _ _ => rfl
  | greater =>
    refine lexes_single (c := '>') (by decide) fun after hd => ?_
    cases after with
    | nil => rfl
    | cons c cs => rcases hd c rfl with rfl | rfl | rfl <;> rfl
  | _ => exact lexes_single (by decide) fun _ _ => rfl

theorem compare_comparator {relation : Comparison} (h : relation ≠ .subset) (l r : Expr) :
    Grammar.compare (comparator relation) l r = .compare relation l r := by
  cases relation with
  | subset => exact absurd rfl h
  | _ => rfl

/-! ## Expressions -/

/-- What is read as a comparison is read as a whole. -/
theorem reads_of_comparison {e : Expr} {ks : List TokenKind}
    (hlex : lexing.Whole e.text.toList ks)
    (hs : Spells .comparison 2 ks e) (hn : e.negated? = none) : e.Reads lexing :=
  reads_of_negation hlex hs.unnegated hn

/-- What is read as a sum is read as a whole. -/
theorem reads_of_sum {e : Expr} {ks : List TokenKind} (hlex : lexing.Whole e.text.toList ks)
    (hs : Spells (.chain .sum) 3 ks e) (hn : e.negated? = none) : e.Reads lexing :=
  reads_of_comparison hlex hs.comparison hn

theorem reads_of_isAtom {e : Expr} (ha : e.isAtom = true) (hw : e.Written)
    (hc : e.IsLegible lexing) : e.Reads lexing := by
  obtain ⟨ks, hlex, hoperand⟩ := isOperand_of_isAtom ha hw hc
  refine reads_of_negation (lexing.whole hlex) hoperand.negation ?_
  cases e <;> first | rfl | cases ha

/-- Operands around a comparison operator. -/
theorem reads_compare {l r : Expr} {between : String} {op : List Char} (c : Comparator)
    (hl : ∃ ks, lexing.Inner (operandText l l.text).toList ks ∧ IsOperand ks l)
    (hr : ∃ ks, lexing.Inner (operandText r r.text).toList ks ∧ IsOperand ks r)
    (hb : between.toList = ' ' :: op ++ [' ']) (ho : Lexes op [.operator (.comparison c)])
    (ht : (Grammar.compare c l r).text = operandText l l.text ++ between ++ operandText r r.text) :
    (Grammar.compare c l r).Reads lexing := by
  obtain ⟨ks, hlex, hl⟩ := hl
  obtain ⟨ls, hlex', hr⟩ := hr
  have hlexes := lexing.whole (lexing.around hb hlex ho hlex')
  rw [← ht] at hlexes
  exact reads_of_comparison hlexes (spells_compare c hl.signed.sum hr.signed.sum)
    (by cases c <;> rfl)

/-- Operands around an operator of a product. -/
theorem reads_product {l r : Expr} {between : String} {op : List Char} {sign : Sign}
    {join : Expr → Expr → Expr} (hj : join? .product (.operator (.sign sign)) = some join)
    (hl : ∃ ks, lexing.Inner (operandText l l.text).toList ks ∧ IsOperand ks l)
    (hr : ∃ ks, lexing.Inner (operandText r r.text).toList ks ∧ IsOperand ks r)
    (hb : between.toList = ' ' :: op ++ [' ']) (ho : Lexes op [.operator (.sign sign)])
    (ht : (join l r).text = operandText l l.text ++ between ++ operandText r r.text)
    (hn : (join l r).negated? = none) : (join l r).Reads lexing := by
  obtain ⟨ks, hlex, hl⟩ := hl
  obtain ⟨ls, hlex', hr⟩ := hr
  have hlexes := lexing.whole (lexing.around hb hlex ho hlex')
  rw [← ht] at hlexes
  have hproduct := spells_join hj (hl.operand .product) (hr.operand .product)
  exact reads_of_sum hlexes (hproduct.unsigned hl.ready.append).sum hn

/-- Terms around an operator of a sum. -/
theorem reads_sum {l r : Expr} {between : String} {op : List Char} {sign : Sign}
    {join : Expr → Expr → Expr} (hj : join? .sum (.operator (.sign sign)) = some join)
    (hl : ∃ ks, lexing.Inner (termText l l.text).toList ks ∧ Spells (.operand .sum) 4 ks l)
    (hr : ∃ ks, lexing.Inner (termText r r.text).toList ks ∧ Spells (.operand .sum) 4 ks r)
    (hb : between.toList = ' ' :: op ++ [' ']) (ho : Lexes op [.operator (.sign sign)])
    (ht : (join l r).text = termText l l.text ++ between ++ termText r r.text)
    (hn : (join l r).negated? = none) : (join l r).Reads lexing := by
  obtain ⟨ks, hlex, hl⟩ := hl
  obtain ⟨ls, hlex', hr⟩ := hr
  have hlexes := lexing.whole (lexing.around hb hlex ho hlex')
  rw [← ht] at hlexes
  exact reads_of_sum hlexes (spells_join hj hl hr) hn

/-- A sign before an operand, in whatever way the operand is printed. -/
theorem reads_negation {e : Expr} (h : e.Reads lexing) (hw : e.Written)
    (hc : (Expr.negation e).IsLegible lexing) : (Expr.negation e).Reads lexing := by
  have hce : e.IsLegible lexing := hc.part (by simp [Expr.negation, parts, mem_parts_self])
  obtain ⟨ks, hlex, hs⟩ := h.negation hw hce fun v he =>
    hc.signs v (by rw [he]; exact mem_parts_self _)
  have htext : (Expr.negation e).text =
      if e.isAtom then "-" ++ e.text else "-(" ++ e.text ++ ")" := by
    rw [Expr.negation, text, if_pos (by rfl)]
  rw [← htext] at hlex
  exact ⟨⟨ks, lexing.whole hlex, hs.sum.comparison.unnegated.conjunction.whole⟩,
    fun _ _ => ⟨ks, hlex, hs⟩⟩

/-- **The text of every legible expression that a text can have** is read as the expression. -/
theorem reads (e : Expr) (hw : e.Written) (hc : e.IsLegible lexing) : e.Reads lexing := by
  fun_induction Expr.text e with
  | case1 v => exact reads_of_isAtom rfl hw hc
  | case2 path => exact reads_of_isAtom rfl hw hc
  | case3 name => exact reads_of_isAtom rfl hw hc
  | case4 context body ihContext ihBody =>
    obtain ⟨⟨p, rfl, hp⟩, hwb⟩ := hw
    have hcb : body.IsLegible lexing := hc.part (by simp [parts, mem_parts_self])
    obtain ⟨ks, hlex, hbody⟩ := (ihBody hwb hcb).isOperand hwb hcb
    have hfield : Lexes p.text.toList [.identifier p.text] := lexes_identifier hp.isSpelling_text
    have harrow : Lexes ['-', '>'] [.operator (.navigation .arrow)] :=
      lexes_single (by decide) fun _ _ => rfl
    have hlexes : lexing.Inner (p.text ++ " -> " ++ operandText body body.text).toList _ :=
      lexing.around rfl (lexing.of_lexes hfield) harrow hlex
    exact reads_of_negation (lexing.whole hlexes)
      ((spells_within hp hbody.negation).negation (by decide) ⟨_, _, rfl, rfl, rfl⟩) rfl
  | case5 quantifier context body ihContext ihBody =>
    obtain ⟨⟨p, rfl, hp⟩, hwb⟩ := hw
    have hcb : body.IsLegible lexing := hc.part (by simp [parts, mem_parts_self])
    obtain ⟨ks, hlex, hbody⟩ := (ihBody hwb hcb).isOperand hwb hcb
    have hfield : Lexes p.text.toList [.identifier p.text] := lexes_identifier hp.isSpelling_text
    have hmatches : Lexes ['m', 'a', 't', 'c', 'h', 'e', 's']
        [.operator (.navigation .matchesWord)] :=
      lexes_word (by decide) (by decide) fun _ _ => rfl
    have hquantifier : Lexes (quantifierText quantifier).toList
        [.keyword (quantifierWord quantifier)] := by
      cases quantifier <;> exact lexes_word (by decide) (by decide) fun _ _ => rfl
    have hcondition : lexing.Inner (p.text ++ " matches " ++ operandText body body.text).toList _ :=
      lexing.around rfl (lexing.of_lexes hfield) hmatches hlex
    have hlexes := lexing.whole (lexing.spaced (lexing.of_lexes hquantifier) hcondition)
    have htext : (Expr.quantified quantifier (.field p) body).text.toList =
        (quantifierText quantifier).toList ++
          ' ' :: (p.text ++ " matches " ++ operandText body body.text).toList := by
      simp [text, operandText, negated?, isAtom, String.toList_append]
    rw [← htext] at hlexes
    exact reads_of_negation hlexes
      ((spells_quantified hp hbody.negation).negation (by decide)
        ⟨_, _, rfl, by cases quantifier <;> rfl, by cases quantifier <;> rfl⟩) rfl
  | case6 needle haystack ihNeedle ihHaystack =>
    obtain ⟨_, hwl, hwr⟩ := hw
    have hcl : needle.IsLegible lexing := hc.part (by simp [parts, mem_parts_self])
    have hcr : haystack.IsLegible lexing := hc.part (by simp [parts, mem_parts_self])
    exact reads_compare .notMember ((ihNeedle hwl hcl).isOperand hwl hcl)
      ((ihHaystack hwr hcr).isOperand hwr hcr) rfl lexes_notIn rfl
  | case7 left right ihLeft ihRight =>
    obtain ⟨_, hwl, hwr⟩ := hw
    have hcl : left.IsLegible lexing := hc.part (by simp [parts, mem_parts_self])
    have hcr : right.IsLegible lexing := hc.part (by simp [parts, mem_parts_self])
    exact reads_compare .isNot ((ihLeft hwl hcl).isOperand hwl hcl)
      ((ihRight hwr hcr).isOperand hwr hcr) rfl lexes_isNot rfl
  | case8 operand hmember hequal ih =>
    have hco : operand.IsLegible lexing := hc.part (by simp [parts, mem_parts_self])
    obtain ⟨ks, hlex, ho⟩ := (ih hw hco).isOperand hw hco
    have htext : operand.not.text = "not " ++ operandText operand operand.text := by
      rw [text]
      · exact hmember
      · exact hequal
    by_cases hfield : ∃ p, operand = .field p
    · obtain ⟨p, rfl⟩ := hfield
      have hp : p.IsProper := hw
      have hlexes := hc.nots p (mem_parts_self _) hp
      rw [← String.toList_append] at hlexes
      exact reads_of_negation hlexes (spells_not (isOperand_field hp).negation) rfl
    · have hne : ks ≠ [] := by
        obtain ⟨k, tail, rfl, _⟩ := ho.ready
        simp
      have hlexes := lexing.not hlex hne ho.ready.not_comparison fun s tail hks => by
        obtain ⟨p, hp, -⟩ := ho.name s tail hks
        exact hfield ⟨p, hp⟩
      rw [← String.toList_append, ← htext] at hlexes
      exact reads_of_negation hlexes (spells_not ho.negation) rfl
  | case9 left right ihLeft ihRight =>
    obtain ⟨hwl, hwr⟩ := hw
    have hcl : left.IsLegible lexing := hc.part (by simp [parts, mem_parts_self])
    have hcr : right.IsLegible lexing := hc.part (by simp [parts, mem_parts_self])
    obtain ⟨ks, hlex, hl⟩ := (ihLeft hwl hcl).isOperand hwl hcl
    obtain ⟨ls, hlex', hr⟩ := (ihRight hwr hcr).isOperand hwr hcr
    have hand : Lexes ['a', 'n', 'd'] [.operator .and] :=
      lexes_word (by decide) (by decide) fun _ _ => rfl
    have hlexes : lexing.Inner (left.and right).text.toList _ := lexing.around rfl hlex hand hlex'
    exact ⟨⟨_, lexing.whole hlexes, (spells_join rfl (hl.operand .and) (hr.operand .and)).whole⟩, by
      simp [negated?]⟩
  | case10 left right ihLeft ihRight =>
    obtain ⟨hwl, hwr⟩ := hw
    have hcl : left.IsLegible lexing := hc.part (by simp [parts, mem_parts_self])
    have hcr : right.IsLegible lexing := hc.part (by simp [parts, mem_parts_self])
    obtain ⟨ks, hlex, hl⟩ := (ihLeft hwl hcl).isOperand hwl hcl
    obtain ⟨ls, hlex', hr⟩ := (ihRight hwr hcr).isOperand hwr hcr
    have hor : Lexes ['o', 'r'] [.operator .or] :=
      lexes_word (by decide) (by decide) fun _ _ => rfl
    have hlexes : lexing.Inner (left.or right).text.toList _ := lexing.around rfl hlex hor hlex'
    exact ⟨⟨_, lexing.whole hlexes, spells_join rfl (hl.operand .or) (hr.operand .or)⟩, by simp [negated?]⟩
  | case11 left right => exact absurd rfl hw.1
  | case12 relation left right hsubset ihLeft ihRight =>
    obtain ⟨_, hwl, hwr⟩ := hw
    have hcl : left.IsLegible lexing := hc.part (by simp [parts, mem_parts_self])
    have hcr : right.IsLegible lexing := hc.part (by simp [parts, mem_parts_self])
    rw [← compare_comparator hsubset]
    have hbetween : (" " ++ relationText relation ++ " ").toList =
        ' ' :: (relationText relation).toList ++ [' '] := by
      simp [String.toList_append]
    refine reads_compare _ ((ihLeft hwl hcl).isOperand hwl hcl)
      ((ihRight hwr hcr).isOperand hwr hcr) hbetween (lexes_relation hsubset) ?_
    rw [compare_comparator hsubset, text]
    · simp [String.append_assoc]
    · exact hsubset
  | case13 typeName =>
    have hisa : Lexes ['i', 's', 'a'] [.keyword .isa] :=
      lexes_word (by decide) (by decide) fun _ _ => rfl
    have hname : Lexes typeName.toList [.identifier typeName] := lexes_identifier hw.2
    have hlexes := lexing.whole (lexing.of_lexes (hisa.spaced hname))
    have htext : (Expr.isInstance (.field ⟨[]⟩) typeName).text.toList =
        ['i', 's', 'a'] ++ ' ' :: typeName.toList := by
      simp [text, String.toList_append]
    rw [← htext] at hlexes
    exact reads_of_negation hlexes
      ((spells_isaCurrent typeName).negation (by decide) ⟨_, _, rfl, rfl, rfl⟩) rfl
  | case14 subject typeName hcurrent ih =>
    have hws : subject.Written := hw.1.resolve_left hcurrent
    have hcs : subject.IsLegible lexing := hc.part (by simp [parts, mem_parts_self])
    obtain ⟨ks, hlex, hs⟩ := (ih hws hcs).isOperand hws hcs
    have hisa : Lexes ['i', 's', 'a'] [.keyword .isa] :=
      lexes_word (by decide) (by decide) fun _ _ => rfl
    have hname : Lexes typeName.toList [.identifier typeName] := lexes_identifier hw.2
    have hlexes : lexing.Inner (operandText subject subject.text ++ " isa " ++ typeName).toList _ :=
      lexing.around rfl hlex hisa (lexing.of_lexes hname)
    have htext : (Expr.isInstance subject typeName).text =
        operandText subject subject.text ++ " isa " ++ typeName := by
      rw [text]
      exact hcurrent
    rw [← htext] at hlexes
    exact reads_of_comparison (lexing.whole hlexes) (spells_isa hs.signed.sum) rfl
  | case15 left right ihLeft ihRight =>
    obtain ⟨hwl, hwr⟩ := hw
    have hcl : left.IsLegible lexing := hc.part (by simp [parts, mem_parts_self])
    have hcr : right.IsLegible lexing := hc.part (by simp [parts, mem_parts_self])
    exact reads_sum rfl ((ihLeft hwl hcl).isTerm hwl hcl) ((ihRight hwr hcr).isTerm hwr hcr) rfl
      (lexes_sign .plus) rfl rfl
  | case16 left right ihLeft ihRight =>
    obtain ⟨hwl, hwr⟩ := hw
    have hcl : left.IsLegible lexing := hc.part (by simp [parts, mem_parts_self])
    have hcr : right.IsLegible lexing := hc.part (by simp [parts, mem_parts_self])
    exact reads_sum rfl ((ihLeft hwl hcl).isTerm hwl hcl) ((ihRight hwr hcr).isTerm hwr hcr) rfl
      (lexes_sign .minus) rfl rfl
  | case17 left right hone _ ih | case18 left right hone _ ih =>
    cases eq_of_isMinusOne hone
    have hcr : right.IsLegible lexing := hc.part (by simp [parts, mem_parts_self])
    exact reads_negation (ih hw.2 hcr) hw.2 hc
  | case19 left right hone ihLeft ihRight =>
    obtain ⟨hwl, hwr⟩ := hw
    have hcl : left.IsLegible lexing := hc.part (by simp [parts, mem_parts_self])
    have hcr : right.IsLegible lexing := hc.part (by simp [parts, mem_parts_self])
    have hbetween : " * ".toList = ' ' :: Sign.times.text.toList ++ [' '] := rfl
    refine reads_product rfl ((ihLeft hwl hcl).isOperand hwl hcl)
      ((ihRight hwr hcr).isOperand hwr hcr) hbetween (lexes_sign .times) ?_ ?_
    · rw [text, if_neg hone]
    · simp [negated?, hone]
  | case20 left right ihLeft ihRight =>
    obtain ⟨hwl, hwr⟩ := hw
    have hcl : left.IsLegible lexing := hc.part (by simp [parts, mem_parts_self])
    have hcr : right.IsLegible lexing := hc.part (by simp [parts, mem_parts_self])
    exact reads_product rfl ((ihLeft hwl hcl).isOperand hwl hcl)
      ((ihRight hwr hcr).isOperand hwr hcr) rfl (lexes_sign .slash) rfl rfl

end Expr

/-! ## Queries -/

/-- A constant is equal to itself. -/
theorem Value.Constant.same_self {v : Value} (h : v.Constant) : v.same v = true := by
  induction h with
  | string => simp [Value.same]
  | integer => simp [Value.same]
  | float hx => simpa [Value.same] using hx
  | @array items _ _ ih =>
    have hitems : ∀ vs : List Value, (∀ v ∈ vs, v.same v = true) → Value.sameItems vs vs = true := by
      intro vs hvs
      induction vs with
      | nil => rfl
      | cons v vs ihvs =>
        rw [Value.sameItems, hvs v (List.mem_cons_self ..),
          ihvs fun w hw => hvs w (List.mem_cons_of_mem _ hw)]
        rfl
    rw [Value.same]
    exact hitems items ih

/-- The tree of a text is equal to itself, for it holds no NaN. -/
theorem Expr.Written.same_self {e : Expr} (h : e.Written) : e.same e = true := by
  induction e with
  | literal v => exact Value.Constant.same_self h
  | field p => simp [Expr.same]
  | component name => simp [Expr.same]
  | within context body _ ih =>
    obtain ⟨⟨p, rfl, _⟩, hb⟩ := h
    simp [Expr.same, ih hb]
  | quantified quantifier context body _ ih =>
    obtain ⟨⟨p, rfl, _⟩, hb⟩ := h
    simp [Expr.same, ih hb]
  | not operand ih =>
    rw [Expr.same]
    exact ih h
  | and left right ihLeft ihRight | or left right ihLeft ihRight =>
    simp [Expr.same, ihLeft h.1, ihRight h.2]
  | compare relation left right ihLeft ihRight => simp [Expr.same, ihLeft h.2.1, ihRight h.2.2]
  | isInstance subject typeName ih =>
    rcases h.1 with rfl | hs
    · simp [Expr.same]
    · simp [Expr.same, ih hs]
  | arithmetic operation left right ihLeft ihRight => simp [Expr.same, ihLeft h.1, ihRight h.2]

namespace Query

/-- A text whose tokens spell a whole expression is read as it. -/
theorem parse_of_scans {source : String} {ks : List TokenKind} {e : Expr}
    (hscans : Scans source.toList ks) (hs : Spells (.chain .or) 0 ks e) :
    parse source none = .ok ⟨e⟩ := by
  obtain ⟨ts, htokens, hkinds⟩ := hscans.tokens (Input.ofText source) rfl
  have hd := hs _ [] ((kinds_fill none ts 0).trans hkinds) (loose_nil 0)
  rw [List.append_nil] at hd
  rw [parse, htokens]
  show ofTokens ts none none = .ok ⟨e⟩
  rw [ofTokens, query_eq_ok_iff.2 ⟨clear_none _, hd⟩]
  rfl

theorem parse_of_spells {source : String} {ks : List TokenKind} {e : Expr}
    (hlex : Lexes source.toList ks) (hs : Spells (.chain .or) 0 ks e) :
    parse source none = .ok ⟨e⟩ :=
  parse_of_scans hlex.scans hs

/-- A clean query that a text can have is read from its own text. -/
theorem parse_text_of_written {q : Query} (hw : q.root.Written) (hc : q.root.IsClean) :
    parse q.text none = .ok q := by
  obtain ⟨ks, hlex, hs⟩ := (Expr.reads q.root hw hc.isLegible).whole
  exact parse_of_spells hlex hs

/-- **Printed queries are read back.**  What was read from a text without parameters is read again
from its own text, unless a string in it holds a single quote, a float in it is infinite, `not`
stands before a path that begins with the word `in`, or two minus signs stand before a number that
has none of its own. -/
theorem parse_text {source : String} {q : Query} (h : parse source none = .ok q)
    (hquotes : ∀ s, .string s ∈ q.root.constants → '\'' ∉ s.toList)
    (hfinite : ∀ x, .float x ∈ q.root.constants → x.isInf = false)
    (hin : ∀ p, .not (.field p) ∈ q.root.parts → p.segments.head? ≠ some "in")
    (hsigns : ∀ v, .negation (.negation (.literal v)) ∈ q.root.parts → v.isNonNegative = false) :
    parse q.text none = .ok q ∧ (q == q) = true := by
  have hw := written_of_parse h
  exact ⟨parse_text_of_written hw (.of_constants hquotes hfinite hin hsigns), hw.same_self⟩

/-- A query with a list, a sign before a path and a float. -/
def nested : Query where
  root := .not (.and
    (.compare .member (.field ⟨["tags"]⟩) (.literal (.array [.string "a", .integer (-1)])))
    (.compare .greater (.negation (.field ⟨["size", "max"]⟩)) (.literal (.float 2.5))))

set_option maxRecDepth 10000 in
theorem nested_text : nested.text = "not ((tags in ('a', -1)) and ((-size/max) > 2.5))" := by
  with_unfolding_all rfl

theorem nested_written : nested.root.Written := by
  have htags : (⟨["tags"]⟩ : Path).IsProper :=
    Path.isProper_ofText (s := "tags") ⟨⟨'t', _, rfl, by decide, by decide⟩, by decide⟩
  have hsize : (⟨["size", "max"]⟩ : Path).IsProper :=
    Path.isProper_ofText (s := "size/max") ⟨⟨'s', _, rfl, by decide, by decide⟩, by decide⟩
  have hlist : (Value.array [.string "a", .integer (-1)]).Constant := by
    refine .array (by decide) fun v hv => ?_
    rcases List.mem_cons.1 hv with rfl | hv
    · exact .string
    · rw [List.mem_singleton.1 hv]
      exact .integer (by decide)
  exact ⟨⟨by decide, htags, hlist⟩, by decide, ⟨.integer (by decide), hsize⟩,
    .float (by with_unfolding_all rfl)⟩

theorem parse_text_nested :
    parse "not ((tags in ('a', -1)) and ((-size/max) > 2.5))" none = .ok nested ∧
      parse nested.text none = .ok nested ∧ (nested == nested) = true := by
  have hquotes : ∀ s, .string s ∈ nested.root.constants → '\'' ∉ s.toList := by
    simp [nested, Expr.constants, Expr.parts, Value.parts, Value.itemParts, Expr.negation]
  have hfinite : ∀ x, .float x ∈ nested.root.constants → x.isInf = false := by
    have hx : (2.5 : Float).isInf = false := by decide +kernel
    simp [nested, Expr.constants, Expr.parts, Value.parts, Value.itemParts, Expr.negation, hx]
  have hin : ∀ p, .not (.field p) ∈ nested.root.parts → p.segments.head? ≠ some "in" := by
    simp [nested, Expr.parts, Expr.negation]
  have hsigns : ∀ v, .negation (.negation (.literal v)) ∈ nested.root.parts →
      v.isNonNegative = false := by
    simp [nested, Expr.parts, Expr.negation]
  have hparse := parse_text_of_written nested_written (.of_constants hquotes hfinite hin hsigns)
  rw [nested_text] at hparse
  exact ⟨hparse, parse_text hparse hquotes hfinite hin hsigns⟩

end Query

end FieldQuery
