import FieldQuery.Proofs.Derivation
import FieldQuery.Proofs.Words

/-!
# Precedence

How tightly a token binds to what stands before it decides where an expression ends.  What is read
before tokens that bind loosely enough can stand as an operand, and operands with an operator
between them are read as one expression.

* `Grammar.grip` — how tightly a token binds to the left.
* `Grammar.Spells` — tokens that are read as an expression wherever nothing grips it tighter.
* `Grammar.IsOperand` — tokens that can stand on either side of any operator.
* `Grammar.spells_join`, `Grammar.spells_compare`, `Grammar.spells_minus` and their like — what
  operators make of operands.
* `Grammar.Derives.unique` — tokens are read in one way only.
-/

namespace FieldQuery

namespace Grammar

/-! ## Where an expression ends -/

/-- How tightly a token binds to what stands before it. -/
def grip : TokenKind → Nat
  | .operator (.navigation _) => 6
  | .operator (.sign .times) | .operator (.sign .slash) => 5
  | .operator (.sign .plus) | .operator (.sign .minus) => 4
  | .operator (.comparison _) | .keyword .isa => 3
  | .operator .and => 2
  | .operator .or => 1
  | _ => 0

/-- The grip that the operands of a chain withstand. -/
def strength : Chain → Nat
  | .or => 0
  | .and => 1
  | .sum => 3
  | .product => 4

/-- Does the first token bind no tighter than this? -/
def Loose (n : Nat) (rest : List Piece) : Prop :=
  ∀ p ∈ rest.head?, grip p.token.kind ≤ n

theorem loose_nil (n : Nat) : Loose n [] := by
  simp [Loose]

theorem loose_cons {n : Nat} {p : Piece} {rest : List Piece} (h : grip p.token.kind ≤ n) :
    Loose n (p :: rest) := by
  simpa [Loose] using h

theorem Loose.mono {n m : Nat} {rest : List Piece} (h : Loose n rest) (hle : n ≤ m) :
    Loose m rest :=
  fun p hp => Nat.le_trans (h p hp) hle

/-- A token of a kind that binds tighter does not come first. -/
theorem Loose.headNot {n : Nat} {rest : List Piece} {test : TokenKind → Bool} (h : Loose n rest)
    (ht : ∀ kind, test kind = true → n < grip kind) : HeadNot test rest := by
  intro p hp
  refine Bool.eq_false_iff.2 fun htest => ?_
  exact absurd (h p hp) (Nat.not_le.2 (ht _ htest))

theorem grip_of_isNavigator {kind : TokenKind} (h : isNavigator kind = true) : 5 < grip kind := by
  unfold isNavigator at h
  split at h
  · simp [grip]
  · cases h

theorem grip_of_continuesComparison {kind : TokenKind} (h : continuesComparison kind = true) :
    2 < grip kind := by
  unfold continuesComparison at h
  split at h
  · simp [grip]
  · simp [grip]
  · simp [grip]
  · cases h

theorem grip_of_isComparator {kind : TokenKind} (h : isComparator kind = true) :
    2 < grip kind := by
  unfold isComparator at h
  split at h
  · simp [grip]
  · cases h

/-- The operators of a chain bind a little tighter than its operands withstand. -/
theorem grip_of_join? {level : Chain} {kind : TokenKind} {join : Expr → Expr → Expr}
    (h : join? level kind = some join) : grip kind = strength level + 1 := by
  unfold join? at h
  split at h <;> first | rfl | cases h

theorem grip_of_joins {level : Chain} {kind : TokenKind} (h : joins level kind = true) :
    strength level < grip kind := by
  obtain ⟨join, hj⟩ := Option.isSome_iff_exists.1 h
  rw [grip_of_join? hj]
  exact Nat.lt_succ_self _

/-! ## Tokens that spell an expression -/

/-- The kinds of some tokens. -/
def kinds (ps : List Piece) : List TokenKind :=
  ps.map (·.token.kind)

/-- Tokens of these kinds are read as the expression where nothing grips it tighter. -/
def Spells (phrase : Phrase) (n : Nat) (ks : List TokenKind) (e : Expr) : Prop :=
  ∀ front rest, kinds front = ks → Loose n rest → Derives none phrase (front ++ rest) e rest

/-- Does an expression with these tokens begin with no operator? -/
def Ready (ks : List TokenKind) : Prop :=
  ∃ k tail, ks = k :: tail ∧ isMinus k = false ∧ isComparator k = false

/-- Tokens that are read as the expression on either side of any operator. -/
structure IsOperand (ks : List TokenKind) (e : Expr) : Prop where
  /-- They are read as the expression. -/
  spells : Spells .primary 5 ks e
  /-- They begin with no operator. -/
  ready : Ready ks
  /-- They begin with a name only if they are a field path. -/
  name : ∀ spelling tail, ks = .identifier spelling :: tail →
    ∃ p, e = .field p ∧ spelling = p.text

theorem clear_none (rest : List Piece) : Clear none rest :=
  fun _ => rfl

theorem kinds_eq_cons {ps : List Piece} {k : TokenKind} {ks : List TokenKind}
    (h : kinds ps = k :: ks) : ∃ p rest, ps = p :: rest ∧ p.token.kind = k ∧ kinds rest = ks := by
  obtain ⟨p, rest, rfl, hp, hrest⟩ := List.map_eq_cons_iff.1 h
  exact ⟨p, rest, rfl, hp, hrest⟩

theorem kinds_eq_append {ps : List Piece} {ks ls : List TokenKind} (h : kinds ps = ks ++ ls) :
    ∃ front rest, ps = front ++ rest ∧ kinds front = ks ∧ kinds rest = ls := by
  obtain ⟨front, rest, rfl, hf, hr⟩ := List.map_eq_append_iff.1 h
  exact ⟨front, rest, rfl, hf, hr⟩

theorem kinds_eq_nil {ps : List Piece} (h : kinds ps = []) : ps = [] :=
  List.map_eq_nil_iff.1 h

/-- Filling in parameters changes no token. -/
theorem kinds_fill (params : Option Params) (tokens : List Token) :
    ∀ used, kinds (Params.fill params used tokens) = tokens.map Token.kind := by
  induction tokens with
  | nil => intro used; rfl
  | cons t ts ih =>
    intro used
    rw [Params.fill]
    split <;> exact congrArg (t.kind :: ·) (ih _)

theorem Ready.headNot_isMinus {ks : List TokenKind} {front rest : List Piece} (h : Ready ks)
    (hf : kinds front = ks) : HeadNot isMinus (front ++ rest) := by
  obtain ⟨k, tail, rfl, hminus, _⟩ := h
  obtain ⟨p, after, rfl, hp, _⟩ := kinds_eq_cons hf
  simp [hp, hminus]

theorem Ready.not_comparison {ks : List TokenKind} (h : Ready ks) :
    ∀ c tail, ks ≠ .operator (.comparison c) :: tail := by
  obtain ⟨k, tail, rfl, _, hk⟩ := h
  rintro c tail' ⟨⟩
  cases hk

theorem Ready.append {ks ls : List TokenKind} (h : Ready ks) : Ready (ks ++ ls) := by
  obtain ⟨k, tail, rfl, hk⟩ := h
  exact ⟨k, tail ++ ls, rfl, hk⟩

/-! ## How expressions begin -/

/-- Does a phrase begin with the first of its tokens, and not with what was read before? -/
def Phrase.Begins : Phrase → Prop
  | .extend _ _ | .items _ => False
  | _ => True

/-- Can an expression begin with the token? -/
def begins : TokenKind → Bool
  | .literal _ | .placeholder _ | .identifier _ | .openParen | .operator (.sign .minus)
  | .keyword .any | .keyword .each | .keyword .has | .keyword .isa | .keyword .not => true
  | _ => false

/-- Every expression begins with a token that one can begin with. -/
theorem Derives.begins {fault : Option LexError} {phrase : Phrase} {ps : List Piece} {e : Expr}
    {rest : List Piece} (d : Derives fault phrase ps e rest) (hb : phrase.Begins) :
    ∃ p tail, ps = p :: tail ∧ begins p.token.kind = true := by
  induction d with
  | chain _ _ ih _ => exact ih trivial
  | orOperand _ ih | andOperand _ ih | sumOperand _ ih | productOperand _ ih
  | unnegated _ _ ih | sum _ _ ih | isa _ _ _ _ ih | unsigned _ _ ih => exact ih trivial
  | compare _ _ _ _ _ ih _ => exact ih trivial
  | stop | more | item | close => exact hb.elim
  | not hk | minus hk | literal hk | filled hk | field hk | within hk | component hk
  | isaCurrent hk | minusPrimary hk | emptyList hk | negative hk | group hk | list hk =>
    exact ⟨_, _, rfl, by rw [hk]; rfl⟩
  | @quantified _ _ _ _ quantifier _ _ _ _ hk =>
    exact ⟨_, _, rfl, by rw [hk]; cases quantifier <;> rfl⟩

/-- No expression begins with a closing parenthesis. -/
theorem Derives.headNot_isClose {fault : Option LexError} {phrase : Phrase} {ps : List Piece}
    {e : Expr} {rest : List Piece} (d : Derives fault phrase ps e rest) (hb : phrase.Begins) :
    HeadNot isClose ps := by
  obtain ⟨p, tail, rfl, hp⟩ := d.begins hb
  rw [headNot_cons, Bool.eq_false_iff]
  intro hclose
  cases hk : p.token.kind <;> simp [hk, isClose] at hclose
  simp [hk, Grammar.begins] at hp

/-- Is the phrase one that binds tighter than `not`? -/
def Phrase.BindsTight : Phrase → Prop
  | .chain .sum | .chain .product | .operand .sum | .operand .product
  | .comparison | .signed | .primary => True
  | _ => False

/-- Nothing that binds tighter than `not` begins with it. -/
theorem Derives.headNot_isNot {fault : Option LexError} {phrase : Phrase} {ps : List Piece}
    {e : Expr} {rest : List Piece} (d : Derives fault phrase ps e rest)
    (ht : phrase.BindsTight) : HeadNot isNot ps := by
  induction d with
  | @chain level _ _ _ _ _ _ _ ih _ => cases level <;> first | exact ht.elim | exact ih trivial
  | sumOperand _ ih | productOperand _ ih | sum _ _ ih | isa _ _ _ _ ih | unsigned _ _ ih =>
    exact ih trivial
  | compare _ _ _ _ _ ih _ => exact ih trivial
  | stop | more | item | close | orOperand | andOperand | not | unnegated => exact ht.elim
  | minus hk | literal hk | filled hk | field hk | within hk | component hk | isaCurrent hk
  | minusPrimary hk | emptyList hk | negative hk | group hk | list hk => simp [hk, isNot]
  | @quantified _ _ _ _ quantifier _ _ _ _ hk => cases quantifier <;> simp [hk, isNot, quantifierWord]

/-! ## From tighter to looser phrases -/

/-- A lone operand is a chain. -/
theorem Spells.chain (level : Chain) {ks : List TokenKind} {e : Expr}
    (h : Spells (.operand level) (strength level + 1) ks e) :
    Spells (.chain level) (strength level) ks e := by
  intro front rest hf hl
  refine .chain (h front rest hf (hl.mono (Nat.le_succ _))) (.stop ?_)
  exact hl.headNot fun _ => grip_of_joins

/-- A signed product is a sum. -/
theorem Spells.sum {ks : List TokenKind} {e : Expr} (h : Spells .signed 4 ks e) :
    Spells (.chain .sum) 3 ks e :=
  Spells.chain .sum fun front rest hf hl => .sumOperand (h front rest hf hl)

/-- A lone sum is a comparison. -/
theorem Spells.comparison {ks : List TokenKind} {e : Expr} (h : Spells (.chain .sum) 3 ks e) :
    Spells .comparison 2 ks e :=
  fun front rest hf hl => .sum (h front rest hf (hl.mono (by decide)))
    (hl.headNot fun _ => grip_of_continuesComparison)

/-- A comparison is a negation. -/
theorem Spells.unnegated {ks : List TokenKind} {e : Expr} (h : Spells .comparison 2 ks e) :
    Spells .negation 2 ks e := by
  intro front rest hf hl
  have hd := h front rest hf hl
  exact .unnegated (hd.headNot_isNot trivial) hd

/-- A negation is a conjunction. -/
theorem Spells.conjunction {ks : List TokenKind} {e : Expr} (h : Spells .negation 2 ks e) :
    Spells (.chain .and) 1 ks e :=
  Spells.chain .and fun front rest hf hl => .andOperand (h front rest hf hl)

/-- A conjunction is a whole expression. -/
theorem Spells.whole {ks : List TokenKind} {e : Expr} (h : Spells (.chain .and) 1 ks e) :
    Spells (.chain .or) 0 ks e :=
  Spells.chain .or fun front rest hf hl => .orOperand (h front rest hf hl)

/-- A product without a sign is a signed product. -/
theorem Spells.unsigned {ks : List TokenKind} {e : Expr} (h : Spells (.chain .product) 4 ks e)
    (hr : Ready ks) : Spells .signed 4 ks e :=
  fun front rest hf hl => .unsigned (hr.headNot_isMinus hf) (h front rest hf hl)

/-- What has no operands is a sum. -/
theorem Derives.sum_of_primary {fault : Option LexError} {ps rest : List Piece} {e : Expr}
    (d : Derives fault .primary ps e rest) (hminus : HeadNot isMinus ps) (hl : Loose 3 rest) :
    Derives fault (.chain .sum) ps e rest :=
  .chain (.sumOperand (.unsigned hminus (.chain (.productOperand d)
    (.stop ((hl.mono (by decide)).headNot fun _ => grip_of_joins)))))
    (.stop (hl.headNot fun _ => grip_of_joins))

/-- What has no operands is a negation. -/
theorem Derives.negation_of_primary {fault : Option LexError} {ps rest : List Piece} {e : Expr}
    (d : Derives fault .primary ps e rest) (hminus : HeadNot isMinus ps) (hl : Loose 2 rest) :
    Derives fault .negation ps e rest := by
  have hsum := d.sum_of_primary hminus (hl.mono (by decide))
  exact .unnegated (hsum.headNot_isNot trivial)
    (.sum hsum (hl.headNot fun _ => grip_of_continuesComparison))

theorem Spells.negation {n : Nat} {ks : List TokenKind} {e : Expr} (h : Spells .primary n ks e)
    (hn : 2 ≤ n) (hr : Ready ks) : Spells .negation 2 ks e :=
  fun front rest hf hl =>
    (h front rest hf (hl.mono hn)).negation_of_primary (hr.headNot_isMinus hf) hl

namespace IsOperand

variable {ks : List TokenKind} {e : Expr}

theorem signed (h : IsOperand ks e) : Spells .signed 4 ks e :=
  (Spells.chain .product fun front rest hf hl =>
    .productOperand (h.spells front rest hf hl)).unsigned h.ready

theorem negation (h : IsOperand ks e) : Spells .negation 2 ks e :=
  h.spells.negation (by decide) h.ready

/-- An operand can stand in any chain. -/
theorem operand (h : IsOperand ks e) (level : Chain) :
    Spells (.operand level) (strength level + 1) ks e := by
  cases level with
  | or => exact fun front rest hf hl => .orOperand (h.negation.conjunction front rest hf hl)
  | and => exact fun front rest hf hl => .andOperand (h.negation front rest hf hl)
  | sum => exact fun front rest hf hl => .sumOperand (h.signed front rest hf hl)
  | product => exact fun front rest hf hl => .productOperand (h.spells front rest hf hl)

/-- An operand is a whole expression. -/
theorem whole (h : IsOperand ks e) : Spells (.chain .or) 0 ks e :=
  h.negation.conjunction.whole

end IsOperand

/-! ## Operators -/

/-- An operator of a chain between two operands. -/
theorem spells_join {level : Chain} {op : TokenKind} {join : Expr → Expr → Expr}
    {ks ls : List TokenKind} {l r : Expr} (hj : join? level op = some join)
    (hl : Spells (.operand level) (strength level + 1) ks l)
    (hr : Spells (.operand level) (strength level + 1) ls r) :
    Spells (.chain level) (strength level) (ks ++ op :: ls) (join l r) := by
  intro front rest hf hloose
  obtain ⟨left, mid, rfl, hleft, hmid⟩ := kinds_eq_append hf
  obtain ⟨p, right, rfl, hp, hright⟩ := kinds_eq_cons hmid
  rw [List.append_assoc, List.cons_append]
  refine .chain (hl left _ hleft (loose_cons ?_)) (.more (hp ▸ hj) (clear_none _)
    (hr right rest hright (hloose.mono (Nat.le_succ _))) (.stop ?_))
  · exact Nat.le_of_eq ((congrArg grip hp).trans (grip_of_join? hj))
  · exact hloose.headNot fun _ => grip_of_joins

/-- A comparison operator between two sums. -/
theorem spells_compare (c : Comparator) {ks ls : List TokenKind} {l r : Expr}
    (hl : Spells (.chain .sum) 3 ks l) (hr : Spells (.chain .sum) 3 ls r) :
    Spells .comparison 2 (ks ++ .operator (.comparison c) :: ls) (compare c l r) := by
  intro front rest hf hloose
  obtain ⟨left, mid, rfl, hleft, hmid⟩ := kinds_eq_append hf
  obtain ⟨p, right, rfl, hp, hright⟩ := kinds_eq_cons hmid
  rw [List.append_assoc, List.cons_append]
  refine .compare (hl left _ hleft (loose_cons ?_)) hp (clear_none _)
    (hr right rest hright (hloose.mono (by decide))) ?_
  · rw [hp]
    exact Nat.le_refl _
  · exact hloose.headNot fun _ => grip_of_isComparator

/-- `isa` behind a sum. -/
theorem spells_isa {ks : List TokenKind} {e : Expr} {typeName : String}
    (h : Spells (.chain .sum) 3 ks e) :
    Spells .comparison 2 (ks ++ [.keyword .isa, .identifier typeName])
      (.isInstance e typeName) := by
  intro front rest hf hloose
  obtain ⟨left, mid, rfl, hleft, hmid⟩ := kinds_eq_append hf
  obtain ⟨p, after, rfl, hp, hafter⟩ := kinds_eq_cons hmid
  obtain ⟨n, last, rfl, hn, hlast⟩ := kinds_eq_cons hafter
  cases kinds_eq_nil hlast
  rw [List.append_assoc]
  refine .isa (h left _ hleft (loose_cons ?_)) hp hn (clear_none _)
  rw [hp]
  exact Nat.le_refl _

/-- A minus sign before a signed product. -/
theorem spells_minus {ks : List TokenKind} {e : Expr} (h : Spells .signed 4 ks e) :
    Spells .signed 4 (.operator (.sign .minus) :: ks) (.negation e) := by
  intro front rest hf hloose
  obtain ⟨p, after, rfl, hp, hafter⟩ := kinds_eq_cons hf
  exact .minus hp (clear_none _) (h after rest hafter hloose)

/-- `not` before a negation. -/
theorem spells_not {ks : List TokenKind} {e : Expr} (h : Spells .negation 2 ks e) :
    Spells .negation 2 (.keyword .not :: ks) (.not e) := by
  intro front rest hf hloose
  obtain ⟨p, after, rfl, hp, hafter⟩ := kinds_eq_cons hf
  exact .not hp (clear_none _) (h after rest hafter hloose)

/-! ## Expressions without operands -/

/-- A literal. -/
theorem isOperand_literal (v : Value) : IsOperand [.literal v] (.literal v) where
  spells := by
    intro front rest hf _
    obtain ⟨p, after, rfl, hp, hafter⟩ := kinds_eq_cons hf
    cases kinds_eq_nil hafter
    exact .literal hp (clear_none _)
  ready := ⟨_, _, rfl, rfl, rfl⟩
  name := by rintro _ _ ⟨⟩

/-- A name on its own. -/
theorem spells_field (spelling : String) :
    Spells .primary 5 [.identifier spelling] (.field (Path.ofText spelling)) := by
  intro front rest hf hloose
  obtain ⟨piece, after, rfl, hp, hafter⟩ := kinds_eq_cons hf
  cases kinds_eq_nil hafter
  exact .field hp (clear_none _) (hloose.headNot fun _ => grip_of_isNavigator)

/-- A field path. -/
theorem isOperand_field {p : Path} (h : p.IsProper) : IsOperand [.identifier p.text] (.field p) where
  spells := by
    have hs := spells_field p.text
    rwa [h.ofText_text] at hs
  ready := ⟨_, _, rfl, rfl, rfl⟩
  name := by
    rintro _ _ ⟨⟩
    exact ⟨p, rfl, rfl⟩

/-- A component test. -/
theorem isOperand_component (name : String) :
    IsOperand [.keyword .has, .keyword .component, .identifier name] (.component name) where
  spells := by
    intro front rest hf _
    obtain ⟨p, after, rfl, hp, hafter⟩ := kinds_eq_cons hf
    obtain ⟨c, after, rfl, hc, hafter⟩ := kinds_eq_cons hafter
    obtain ⟨n, after, rfl, hn, hafter⟩ := kinds_eq_cons hafter
    cases kinds_eq_nil hafter
    exact .component hp hc hn (clear_none _)
  ready := ⟨_, _, rfl, rfl, rfl⟩
  name := by rintro _ _ ⟨⟩

/-- A negative number in parentheses. -/
theorem isOperand_negative {v negated : Value} (h : negate? v = some negated) :
    IsOperand [.openParen, .operator (.sign .minus), .literal v, .closeParen]
      (.literal negated) where
  spells := by
    intro front rest hf _
    obtain ⟨p, after, rfl, hp, hafter⟩ := kinds_eq_cons hf
    obtain ⟨m, after, rfl, hm, hafter⟩ := kinds_eq_cons hafter
    obtain ⟨n, after, rfl, hn, hafter⟩ := kinds_eq_cons hafter
    obtain ⟨c, after, rfl, hc, hafter⟩ := kinds_eq_cons hafter
    cases kinds_eq_nil hafter
    exact .negative hp hm hn h hc (clear_none _)
  ready := ⟨_, _, rfl, rfl, rfl⟩
  name := by rintro _ _ ⟨⟩

/-- A condition on the value of a field. -/
theorem spells_within {p : Path} {n : Navigator} {ks : List TokenKind} {e : Expr}
    (hp : p.IsProper) (h : Spells .negation 2 ks e) :
    Spells .primary 2 (.identifier p.text :: .operator (.navigation n) :: ks)
      (.within (.field p) e) := by
  intro front rest hf hloose
  obtain ⟨c, after, rfl, hc, hafter⟩ := kinds_eq_cons hf
  obtain ⟨o, body, rfl, ho, hbody⟩ := kinds_eq_cons hafter
  have hd : Derives none .primary (c :: o :: body ++ rest)
      (.within (.field (Path.ofText p.text)) e) rest :=
    .within hc ho (clear_none _) (h body rest hbody hloose)
  rwa [hp.ofText_text] at hd

/-- A quantifier. -/
theorem spells_quantified {quantifier : Quantifier} {p : Path} {n : Navigator}
    {ks : List TokenKind} {e : Expr} (hp : p.IsProper) (h : Spells .negation 2 ks e) :
    Spells .primary 2
      (.keyword (quantifierWord quantifier) :: .identifier p.text ::
        .operator (.navigation n) :: ks)
      (.quantified quantifier (.field p) e) := by
  intro front rest hf hloose
  obtain ⟨q, after, rfl, hq, hafter⟩ := kinds_eq_cons hf
  obtain ⟨c, after, rfl, hc, hafter⟩ := kinds_eq_cons hafter
  obtain ⟨o, body, rfl, ho, hbody⟩ := kinds_eq_cons hafter
  have hd : Derives none .primary (q :: c :: o :: body ++ rest)
      (.quantified quantifier (.field (Path.ofText p.text)) e) rest :=
    .quantified hq hc ho (clear_none _) (h body rest hbody hloose)
  rwa [hp.ofText_text] at hd

/-- An `isa` test of the value at hand. -/
theorem spells_isaCurrent (typeName : String) :
    Spells .primary 5 [.keyword .isa, .identifier typeName]
      (.isInstance (.field .current) typeName) := by
  intro front rest hf _
  obtain ⟨p, after, rfl, hp, hafter⟩ := kinds_eq_cons hf
  obtain ⟨n, after, rfl, hn, hafter⟩ := kinds_eq_cons hafter
  cases kinds_eq_nil hafter
  exact .isaCurrent hp hn (clear_none _)

/-! ## Parentheses -/

/-- **Tokens are read in one way only.** -/
theorem Derives.unique {level : Chain} {fault : Option LexError} {ps : List Piece} {e f : Expr}
    {rest last : List Piece} (d : Derives fault (.chain level) ps e rest)
    (d' : Derives fault (.chain level) ps f last) : e = f ∧ rest = last :=
  Reaches.unique d.runs d'.runs

theorem close?_ok (ps : List Piece) : ∃ found, close? none ps = .ok found := by
  cases ps with
  | nil => exact ⟨_, rfl⟩
  | cons p rest =>
    rw [close?]
    split
    · rw [(stepTo_eq_ok_iff none).2 (clear_none rest)]
      exact ⟨_, rfl⟩
    · exact ⟨_, rfl⟩

theorem negatedNumber?_ok (ps : List Piece) : ∃ found, negatedNumber? none ps = .ok found := by
  cases ps with
  | nil => exact ⟨_, rfl⟩
  | cons p rest =>
    rw [negatedNumber?]
    split
    · split
      · exact ⟨_, rfl⟩
      · obtain ⟨found, hfound⟩ := close?_ok rest
        rw [(stepTo_eq_ok_iff none).2 (clear_none rest)]
        dsimp only [bind, Except.bind]
        rw [hfound]
        exact ⟨_, rfl⟩
    · exact ⟨_, rfl⟩

/-- Looking for a negative literal never fails where the text goes on. -/
theorem negativeLiteral?_ok (ps : List Piece) : ∃ found, negativeLiteral? none ps = .ok found := by
  cases ps with
  | nil => exact ⟨_, rfl⟩
  | cons p rest =>
    rw [negativeLiteral?]
    split
    · obtain ⟨found, hfound⟩ := negatedNumber?_ok rest
      rw [(stepTo_eq_ok_iff none).2 (clear_none rest)]
      dsimp only [bind, Except.bind]
      rw [hfound]
      exact ⟨_, rfl⟩
    · exact ⟨_, rfl⟩

/-- What is in a parenthesis is no negative literal if it is read as something else, or up to a
token that is no closing parenthesis. -/
theorem negativeLiteral?_eq_none {ks : List TokenKind} {front last : List Piece} {e : Expr}
    {c : Piece} (hf : kinds front = ks)
    (d : Derives none (.chain .or) (front ++ c :: last) e (c :: last))
    (hneg : c.token.kind = .closeParen → ∀ v negated, negate? v = some negated →
      ks = [.operator (.sign .minus), .literal v] → e ≠ .negation (.literal v)) :
    negativeLiteral? none (front ++ c :: last) = .ok none := by
  obtain ⟨found, hfound⟩ := negativeLiteral?_ok (front ++ c :: last)
  cases found with
  | none => exact hfound
  | some step =>
    exfalso
    obtain ⟨negated, after, hlt⟩ := step
    obtain ⟨m, n, c', v, hps, hm, hn, hv, hc', _⟩ := negativeLiteral?_eq_some hfound
    -- the sign and the number are also read as an expression, which has to be the same
    have hnumber := (spells_minus (isOperand_literal v).signed).sum.comparison
    have hd := hnumber.unnegated.conjunction.whole [m, n] (c' :: after) (by simp [kinds, hm, hn])
      (loose_cons (by rw [hc']; exact Nat.le_refl _))
    rw [hps] at d
    obtain ⟨rfl, hrest⟩ := d.unique hd
    cases hrest
    have hfront : front = [m, n] :=
      List.append_cancel_right (show front ++ c :: last = [m, n] ++ c :: last from hps)
    refine hneg hc' v negated hv ?_ rfl
    rw [← hf, hfront]
    simp [kinds, hm, hn]

/-- A group, unless it is a negative literal. -/
theorem isOperand_group {ks : List TokenKind} {e : Expr} (h : Spells (.chain .or) 0 ks e)
    (hneg : ∀ v negated, negate? v = some negated → ks = [.operator (.sign .minus), .literal v] →
      e ≠ .negation (.literal v)) :
    IsOperand (.openParen :: ks ++ [.closeParen]) e where
  spells := by
    intro front rest hf _
    obtain ⟨p, after, rfl, hp, hafter⟩ := kinds_eq_cons hf
    obtain ⟨inner, closing, rfl, hinner, hclosing⟩ := kinds_eq_append hafter
    obtain ⟨c, last, rfl, hc, hlast⟩ := kinds_eq_cons hclosing
    cases kinds_eq_nil hlast
    rw [List.cons_append, List.append_assoc]
    have hd := h inner (c :: rest) hinner (loose_cons (by rw [hc]; exact Nat.le_refl _))
    exact .group hp (clear_none _) (hd.headNot_isClose trivial)
      (negativeLiteral?_eq_none hinner hd fun _ => hneg) hd hc (clear_none _)
  ready := ⟨_, _, rfl, rfl, rfl⟩
  name := by rintro _ _ ⟨⟩

/-! ## Lists -/

/-- The empty list. -/
theorem isOperand_emptyList : IsOperand [.openParen, .closeParen] (.literal (.array [])) where
  spells := by
    intro front rest hf _
    obtain ⟨p, after, rfl, hp, hafter⟩ := kinds_eq_cons hf
    obtain ⟨c, after, rfl, hc, hafter⟩ := kinds_eq_cons hafter
    cases kinds_eq_nil hafter
    exact .emptyList hp hc (clear_none _)
  ready := ⟨_, _, rfl, rfl, rfl⟩
  name := by rintro _ _ ⟨⟩

/-- Tokens that are read as an expression for a constant. -/
def SpellsItem (ks : List TokenKind) (v : Value) : Prop :=
  ∃ e, Spells (.chain .or) 0 ks e ∧ constant? e = some v

/-- Tokens that are read as more elements of a list, and its end. -/
inductive SpellsItems : List TokenKind → List Value → Prop where
  /-- The end. -/
  | close : SpellsItems [.closeParen] []
  /-- One more element. -/
  | item {ks ls v vs} : SpellsItem ks v → SpellsItems ls vs →
      SpellsItems (.comma :: (ks ++ ls)) (v :: vs)

/-- The rest of a list begins with a token that ends an expression. -/
theorem SpellsItems.head {ks : List TokenKind} {vs : List Value} (h : SpellsItems ks vs) :
    ∃ k tail, ks = k :: tail ∧ grip k = 0 ∧ (vs ≠ [] → k = .comma) := by
  cases h with
  | close => exact ⟨_, _, rfl, rfl, fun hne => absurd rfl hne⟩
  | item _ _ => exact ⟨_, _, rfl, rfl, fun _ => rfl⟩

theorem SpellsItems.derives {ks : List TokenKind} {vs : List Value} (h : SpellsItems ks vs) :
    ∀ before front rest, kinds front = ks →
      Derives none (.items before) (front ++ rest) (.literal (.array (before ++ vs))) rest := by
  induction h with
  | close =>
    intro before front rest hf
    obtain ⟨c, after, rfl, hc, hafter⟩ := kinds_eq_cons hf
    cases kinds_eq_nil hafter
    rw [List.append_nil]
    exact .close hc (clear_none _)
  | @item ks ls v vs hitem hitems ih =>
    intro before front rest hf
    obtain ⟨e, he, hv⟩ := hitem
    obtain ⟨c, after, rfl, hc, hafter⟩ := kinds_eq_cons hf
    obtain ⟨inner, tail, rfl, hinner, htail⟩ := kinds_eq_append hafter
    have hloose : Loose 0 (tail ++ rest) := by
      obtain ⟨k, more, rfl, hk, _⟩ := hitems.head
      obtain ⟨p, after, rfl, hp, _⟩ := kinds_eq_cons htail
      exact loose_cons (Nat.le_of_eq ((congrArg grip hp).trans hk))
    have hd := ih (before ++ [v]) tail rest htail
    rw [List.append_assoc] at hd
    rw [List.cons_append, List.append_assoc]
    exact .item hc (clear_none _) (he inner _ hinner hloose) hv hd

/-- A list of two or more elements. -/
theorem isOperand_list {ks ls : List TokenKind} {v : Value} {vs : List Value}
    (hitem : SpellsItem ks v) (hitems : SpellsItems ls vs) (hne : vs ≠ []) :
    IsOperand (.openParen :: (ks ++ ls)) (.literal (.array (v :: vs))) where
  spells := by
    intro front rest hf _
    obtain ⟨e, he, hv⟩ := hitem
    obtain ⟨p, after, rfl, hp, hafter⟩ := kinds_eq_cons hf
    obtain ⟨inner, tail, rfl, hinner, htail⟩ := kinds_eq_append hafter
    obtain ⟨k, more, hk, hgrip, hcomma⟩ := hitems.head
    obtain ⟨c, after, rfl, hc, _⟩ := kinds_eq_cons (htail.trans hk)
    rw [hcomma hne] at hc
    have hd := he inner (c :: after ++ rest) hinner (loose_cons (by rw [hc]; exact Nat.le_refl _))
    rw [List.cons_append, List.append_assoc]
    refine .list hp (clear_none _) (hd.headNot_isClose trivial)
      (negativeLiteral?_eq_none hinner hd fun hclose => ?_) hd hc hv
      (hitems.derives [v] (c :: after) rest htail)
    rw [hc] at hclose
    cases hclose
  ready := ⟨_, _, rfl, rfl, rfl⟩
  name := by rintro _ _ ⟨⟩

end Grammar

end FieldQuery
