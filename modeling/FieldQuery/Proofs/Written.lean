import FieldQuery.Proofs.Derivation
import FieldQuery.Proofs.Lexical
import FieldQuery.Proofs.Parts

/-!
# What queries are read

Not every tree is that of a text.  In the tree of a text without placeholders the contexts are
field paths, names are spelled as names, no list has a single element, and no number is NaN or the
least integer, which has no positive counterpart.

* `Expr.Written` — the trees of such texts.
* `Derives.written` — what is derived from the tokens of a text is such a tree.
* `Query.written_of_parse` — what is read is such a tree.
-/

namespace FieldQuery

open Text Number

/-! ## Trees of texts -/

namespace Value

/-- Is the value a constant that can be written in a query? -/
inductive Constant : Value → Prop where
  /-- A string. -/
  | string {s} : Constant (.string s)
  /-- An integer with a positive counterpart. -/
  | integer {n} : n ≠ Int64.minValue → Constant (.integer n)
  /-- A float that is a number. -/
  | float {x} : x.isNaN = false → Constant (.float x)
  /-- A list, which a single element in parentheses is not. -/
  | array {items} : items.length ≠ 1 → (∀ v ∈ items, Constant v) → Constant (.array items)

theorem IsLexical.constant {v : Value} (h : v.IsLexical) : v.Constant := by
  cases v with
  | string s => exact .string
  | integer n =>
    refine .integer ?_
    rintro rfl
    exact absurd (show (0 : Int64) ≤ Int64.minValue from h) (by decide)
  | float x => exact .float h.2
  | _ => exact h.elim

/-- The negated number is a constant as well. -/
theorem Constant.negate {v w : Value} (h : v.Constant) (hw : Grammar.negate? v = some w) :
    w.Constant := by
  cases h with
  | string => cases hw
  | @integer n hn =>
    cases hw
    refine .integer fun hmin => hn ?_
    have hneg : -(-n) = -Int64.minValue := by rw [hmin]
    rw [Int64.neg_neg] at hneg
    exact hneg.trans (by decide)
  | float hx =>
    cases hw
    exact .float (by rw [isNaN_neg, hx])
  | array => cases hw

end Value

namespace Expr

/-- Is the expression one that a text without placeholders can have? -/
def Written : Expr → Prop
  | .literal v => v.Constant
  | .field p => p.IsProper
  | .component name => IsSpelling name
  | .within context body => (∃ p, context = .field p ∧ p.IsProper) ∧ body.Written
  | .quantified _ context body => (∃ p, context = .field p ∧ p.IsProper) ∧ body.Written
  | .not operand => operand.Written
  | .and left right => left.Written ∧ right.Written
  | .or left right => left.Written ∧ right.Written
  | .compare relation left right => relation ≠ .subset ∧ left.Written ∧ right.Written
  | .isInstance subject typeName =>
    (subject = .field .current ∨ subject.Written) ∧ IsSpelling typeName
  | .arithmetic _ left right => left.Written ∧ right.Written

/-- A negated expression is written with a sign. -/
theorem Written.negation {e : Expr} (h : e.Written) : (negation e).Written :=
  ⟨.integer (by decide), h⟩

/-- The operand of a negated number is written. -/
theorem Written.of_negated? {e operand : Expr} (h : e.Written)
    (hoperand : e.negated? = some operand) : operand.Written := by
  unfold negated? at hoperand
  split at hoperand
  · split at hoperand
    · cases hoperand
      exact h.2
    · cases hoperand
  · cases hoperand

/-- The elements of lists are constants. -/
theorem Written.constant {e : Expr} {v : Value} (h : e.Written)
    (hv : Grammar.constant? e = some v) : v.Constant := by
  unfold Grammar.constant? at hv
  split at hv
  · cases hv
    exact h
  · split at hv
    · rename_i hnegated
      exact Value.Constant.negate (h.of_negated? hnegated) hv
    · cases hv

end Expr

namespace Grammar

/-! ## What is derived -/

theorem written_join {level : Chain} {kind : TokenKind} {join : Expr → Expr → Expr}
    (h : join? level kind = some join) {l r : Expr} (hl : l.Written) (hr : r.Written) :
    (join l r).Written := by
  unfold join? at h
  split at h <;> cases h <;> exact ⟨hl, hr⟩

theorem written_compare (c : Comparator) {l r : Expr} (hl : l.Written) (hr : r.Written) :
    (compare c l r).Written := by
  cases c <;> first | exact ⟨by decide, hl, hr⟩ | exact ⟨by decide, hr, hl⟩

/-- What each phrase says about the expression that it is read as. -/
def Phrase.Yields : Phrase → List Piece → Expr → Prop
  | .extend _ left, _, e => left.Written → e.Written
  | .items before, ps, e =>
    (∀ v ∈ before, v.Constant) → ∃ vs, e = .literal (.array vs) ∧ (∀ v ∈ vs, v.Constant) ∧
      before.length ≤ vs.length ∧ (¬ HeadNot isComma ps → before.length < vs.length)
  | _, _, e => e.Written

/-- Is the token one of a text, and is it left as it is? -/
def IsPlain (p : Piece) : Prop :=
  p.token.kind.IsLexical ∧ ∀ v, p.filling ≠ .ok v

variable {fault : Option LexError}

/-- **What is derived from the tokens of a text** is the tree of a text. -/
theorem Derives.written {phrase : Phrase} {ps : List Piece} {e : Expr} {rest : List Piece}
    (d : Derives fault phrase ps e rest) (hps : ∀ p ∈ ps, IsPlain p) :
    phrase.Yields ps e ∧ ∀ p ∈ rest, IsPlain p := by
  induction d with
  | chain _ _ ihFirst ihRest =>
    obtain ⟨hf, hmid⟩ := ihFirst hps
    obtain ⟨hr, hrest⟩ := ihRest hmid
    exact ⟨hr hf, hrest⟩
  | stop _ => exact ⟨id, hps⟩
  | more hj _ _ _ ihRight ihRest =>
    obtain ⟨hr, hmid⟩ := ihRight fun p hp => hps p (List.mem_cons_of_mem _ hp)
    obtain ⟨he, hlast⟩ := ihRest hmid
    exact ⟨fun hl => he (written_join hj hl hr), hlast⟩
  | orOperand _ ih | andOperand _ ih | sumOperand _ ih | productOperand _ ih
  | unnegated _ _ ih | sum _ _ ih | unsigned _ _ ih => exact ih hps
  | not _ _ _ ih => exact ih fun p hp => hps p (List.mem_cons_of_mem _ hp)
  | isa _ _ hn _ ih =>
    obtain ⟨he, hmid⟩ := ih hps
    refine ⟨⟨.inr he, ?_⟩, fun p hp => hmid p (by simp [hp])⟩
    have := (hmid _ (List.mem_cons_of_mem _ (List.mem_cons_self ..))).1
    rwa [hn] at this
  | @compare _ _ _ _ c _ _ _ _ _ _ _ ihLeft ihRight =>
    obtain ⟨hl, hmid⟩ := ihLeft hps
    obtain ⟨hr, hrest⟩ := ihRight fun p hp => hmid p (List.mem_cons_of_mem _ hp)
    exact ⟨written_compare c hl hr, hrest⟩
  | minus _ _ _ ih | minusPrimary _ _ _ ih =>
    obtain ⟨he, hlast⟩ := ih fun p hp => hps p (List.mem_cons_of_mem _ hp)
    exact ⟨he.negation, hlast⟩
  | literal hk _ =>
    have hlexical := (hps _ (List.mem_cons_self ..)).1
    rw [hk] at hlexical
    exact ⟨Value.IsLexical.constant hlexical, fun p hp => hps p (List.mem_cons_of_mem _ hp)⟩
  | filled _ hv _ => exact absurd hv ((hps _ (List.mem_cons_self ..)).2 _)
  | field hk _ _ =>
    have hlexical := (hps _ (List.mem_cons_self ..)).1
    rw [hk] at hlexical
    exact ⟨Path.isProper_ofText hlexical, fun p hp => hps p (List.mem_cons_of_mem _ hp)⟩
  | within hk _ _ _ ih =>
    have hlexical := (hps _ (List.mem_cons_self ..)).1
    rw [hk] at hlexical
    obtain ⟨he, hlast⟩ := ih fun p hp => hps p (by simp [hp])
    exact ⟨⟨⟨_, rfl, Path.isProper_ofText hlexical⟩, he⟩, hlast⟩
  | @quantified p c _ _ _ _ _ _ _ _ hc _ _ _ ih =>
    have hlexical := (hps c (by simp)).1
    rw [hc] at hlexical
    obtain ⟨he, hlast⟩ := ih fun p hp => hps p (by simp [hp])
    exact ⟨⟨⟨_, rfl, Path.isProper_ofText hlexical⟩, he⟩, hlast⟩
  | @component p c n _ _ _ _ hn _ =>
    have hlexical := (hps n (by simp)).1
    rw [hn] at hlexical
    exact ⟨hlexical, fun p hp => hps p (by simp [hp])⟩
  | @isaCurrent p n _ _ _ hn _ =>
    have hlexical := (hps n (by simp)).1
    rw [hn] at hlexical
    exact ⟨⟨.inl rfl, hlexical⟩, fun p hp => hps p (by simp [hp])⟩
  | emptyList => exact ⟨.array (by simp) (by simp), fun p hp => hps p (by simp [hp])⟩
  | @negative p m n _ _ _ _ _ _ hn hv _ _ =>
    have hlexical := (hps n (by simp)).1
    rw [hn] at hlexical
    exact ⟨(Value.IsLexical.constant hlexical).negate hv, fun p hp => hps p (by simp [hp])⟩
  | group _ _ _ _ _ _ _ ih =>
    obtain ⟨he, hmid⟩ := ih fun p hp => hps p (List.mem_cons_of_mem _ hp)
    exact ⟨he, fun p hp => hmid p (List.mem_cons_of_mem _ hp)⟩
  | list _ _ _ _ _ hcomma hv _ ihFirst ihItems =>
    obtain ⟨hf, hmid⟩ := ihFirst fun p hp => hps p (List.mem_cons_of_mem _ hp)
    obtain ⟨hitems, hlast⟩ := ihItems hmid
    obtain ⟨vs, rfl, hvs, _, hlt⟩ := hitems (by simpa using hf.constant hv)
    refine ⟨.array ?_ hvs, hlast⟩
    -- the comma behind the first element makes the list longer than it
    have := hlt (by simp [hcomma, isComma])
    simp only [List.length_singleton] at this
    omega
  | item _ _ _ hv _ ihItem ihItems =>
    obtain ⟨hi, hmid⟩ := ihItem fun p hp => hps p (List.mem_cons_of_mem _ hp)
    obtain ⟨hitems, hlast⟩ := ihItems hmid
    refine ⟨fun hbefore => ?_, hlast⟩
    obtain ⟨vs, rfl, hvs, hle, _⟩ := hitems fun v hmem => by
      rcases List.mem_append.1 hmem with hmem | hmem
      · exact hbefore v hmem
      · rw [List.mem_singleton.1 hmem]
        exact hi.constant hv
    rw [List.length_append, List.length_singleton] at hle
    exact ⟨vs, rfl, hvs, by omega, fun _ => by omega⟩
  | close hk _ =>
    refine ⟨fun hbefore => ⟨_, rfl, hbefore, Nat.le_refl _, fun hcomma => ?_⟩,
      fun p hp => hps p (List.mem_cons_of_mem _ hp)⟩
    exact absurd (by simp [hk, isComma]) hcomma

end Grammar

/-! ## What is read -/

/-- The pieces of a text without parameters. -/
theorem isPlain_of_mem_fill {tokens : List Token} (h : ∀ t ∈ tokens, t.kind.IsLexical) :
    ∀ used, ∀ p ∈ Params.fill none used tokens, Grammar.IsPlain p := by
  induction tokens with
  | nil => simp [Params.fill]
  | cons t ts ih =>
    intro used p hp
    have ih := ih fun u hu => h u (List.mem_cons_of_mem _ hu)
    rw [Params.fill] at hp
    split at hp <;> rcases List.mem_cons.1 hp with rfl | hp
    · exact ⟨h t (List.mem_cons_self ..), fun v hv => by simp [Params.filling] at hv⟩
    · exact ih _ p hp
    · exact ⟨h t (List.mem_cons_self ..), fun v hv => by simp at hv⟩
    · exact ih _ p hp

/-- **What is read from a text without parameters** is the tree of a text. -/
theorem Query.written_of_parse {source : String} {q : Query} (h : Query.parse source none = .ok q) :
    q.root.Written := by
  rw [Query.parse] at h
  dsimp only at h
  obtain ⟨root, hroot, h⟩ := Grammar.bind_eq_ok.1 h
  cases h
  obtain ⟨_, hd⟩ := Grammar.query_eq_ok_iff.1 hroot
  exact (hd.written (isPlain_of_mem_fill (tokens_isLexical _) 0)).1

end FieldQuery
