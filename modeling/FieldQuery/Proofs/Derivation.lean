import FieldQuery.Query

/-!
# Derivations of the grammar

The grammar is a family of functions that call each other and carry proofs of their progress.
This file says what they accept as a relation on tokens, so that what holds of all queries is an
induction over derivations and that something is a query is a matter of building one.

* `Grammar.Derives` — the rules, one constructor for each way to read something.
* `Grammar.derives_sound` — what the functions read has a derivation.
* `Grammar.Derives.runs` — what has a derivation is read.
* `Grammar.query_eq_ok_iff` — a text is a query exactly when its tokens derive one.

The rules are as greedy as the functions: a chain ends only where no operator of it follows.
-/

namespace FieldQuery

namespace Grammar

/-! ## The rules -/

/-- What is read from the front of some tokens. -/
inductive Phrase where
  /-- A chain of operands. -/
  | chain (level : Chain)
  /-- The rest of a chain whose beginning is read. -/
  | extend (level : Chain) (left : Expr)
  /-- An operand of a chain. -/
  | operand (level : Chain)
  /-- A comparison behind any number of `not`. -/
  | negation
  /-- A comparison, an `isa` test or a lone sum. -/
  | comparison
  /-- A product behind any number of minus signs. -/
  | signed
  /-- An expression without operands. -/
  | primary
  /-- The elements of a list behind those that are read, and its end. -/
  | items (before : List Value)

/-- The word of a quantifier. -/
def quantifierWord : Quantifier → Keyword
  | .any => .any
  | .each => .each

/-- Does the token go on with a comparison whose left side is read? -/
def continuesComparison : TokenKind → Bool
  | .keyword .isa | .operator (.navigation _) | .operator (.comparison _) => true
  | _ => false

/-- Is the token a comparison operator? -/
def isComparator : TokenKind → Bool
  | .operator (.comparison _) => true
  | _ => false

/-- Is the token a navigation operator? -/
def isNavigator : TokenKind → Bool
  | .operator (.navigation _) => true
  | _ => false

/-- Does a test fail for the first token, or is there none? -/
def HeadNot (test : TokenKind → Bool) (pieces : List Piece) : Prop :=
  ∀ p ∈ pieces.head?, test p.token.kind = false

@[simp] theorem headNot_nil (test : TokenKind → Bool) : HeadNot test [] := by
  simp [HeadNot]

@[simp] theorem headNot_cons {test : TokenKind → Bool} {p : Piece} {rest : List Piece} :
    HeadNot test (p :: rest) ↔ test p.token.kind = false := by
  simp [HeadNot]

/-- Is the token the word `not`? -/
def isNot : TokenKind → Bool
  | .keyword .not => true
  | _ => false

/-- Is the token a minus sign? -/
def isMinus : TokenKind → Bool
  | .operator (.sign .minus) => true
  | _ => false

/-- Is the token a closing parenthesis? -/
def isClose : TokenKind → Bool
  | .closeParen => true
  | _ => false

/-- Is the token a comma? -/
def isComma : TokenKind → Bool
  | .comma => true
  | _ => false

/-- Does the token join the operands of a chain? -/
def joins (level : Chain) (kind : TokenKind) : Bool :=
  (join? level kind).isSome

section

variable (fault : Option LexError)

/-- The tokens do not end where the text is malformed. -/
def Clear (rest : List Piece) : Prop :=
  rest = [] → fault = none

/-- The rules of the grammar: what is read from some tokens, and the tokens that are left. -/
inductive Derives : Phrase → List Piece → Expr → List Piece → Prop where
  /-- A chain begins with an operand. -/
  | chain {level ps first mid e rest} :
      Derives (.operand level) ps first mid → Derives (.extend level first) mid e rest →
      Derives (.chain level) ps e rest
  /-- A chain is over where no operator of it follows. -/
  | stop {level left rest} : HeadNot (joins level) rest → Derives (.extend level left) rest left rest
  /-- An operator and one more operand. -/
  | more {level left join p rest right mid e last} :
      join? level p.token.kind = some join → Clear fault rest →
      Derives (.operand level) rest right mid →
      Derives (.extend level (join left right)) mid e last →
      Derives (.extend level left) (p :: rest) e last
  /-- Disjunctions are of conjunctions. -/
  | orOperand {ps e rest} : Derives (.chain .and) ps e rest → Derives (.operand .or) ps e rest
  /-- Conjunctions are of negations. -/
  | andOperand {ps e rest} : Derives .negation ps e rest → Derives (.operand .and) ps e rest
  /-- Sums are of signed products. -/
  | sumOperand {ps e rest} : Derives .signed ps e rest → Derives (.operand .sum) ps e rest
  /-- Products are of expressions without operands. -/
  | productOperand {ps e rest} :
      Derives .primary ps e rest → Derives (.operand .product) ps e rest
  /-- `not` before a negation. -/
  | not {p rest e last} :
      p.token.kind = .keyword .not → Clear fault rest → Derives .negation rest e last →
      Derives .negation (p :: rest) (.not e) last
  /-- A comparison without `not`. -/
  | unnegated {ps e rest} :
      HeadNot isNot ps → Derives .comparison ps e rest → Derives .negation ps e rest
  /-- A lone sum. -/
  | sum {ps e rest} :
      Derives (.chain .sum) ps e rest → HeadNot continuesComparison rest →
      Derives .comparison ps e rest
  /-- An `isa` test. -/
  | isa {ps e p n rest typeName} :
      Derives (.chain .sum) ps e (p :: n :: rest) → p.token.kind = .keyword .isa →
      n.token.kind = .identifier typeName → Clear fault rest →
      Derives .comparison ps (.isInstance e typeName) rest
  /-- A comparison of two sums. -/
  | compare {ps l p mid c r rest} :
      Derives (.chain .sum) ps l (p :: mid) → p.token.kind = .operator (.comparison c) →
      Clear fault mid → Derives (.chain .sum) mid r rest → HeadNot isComparator rest →
      Derives .comparison ps (compare c l r) rest
  /-- A minus sign before a signed product. -/
  | minus {p rest e last} :
      p.token.kind = .operator (.sign .minus) → Clear fault rest → Derives .signed rest e last →
      Derives .signed (p :: rest) (.negation e) last
  /-- A product without a sign. -/
  | unsigned {ps e rest} :
      HeadNot isMinus ps → Derives (.chain .product) ps e rest → Derives .signed ps e rest
  /-- A literal. -/
  | literal {p rest v} :
      p.token.kind = .literal v → Clear fault rest → Derives .primary (p :: rest) (.literal v) rest
  /-- A placeholder that is filled. -/
  | filled {p rest name v} :
      p.token.kind = .placeholder name → p.filling = .ok v → Clear fault rest →
      Derives .primary (p :: rest) (.literal v) rest
  /-- A field path. -/
  | field {p rest spelling} :
      p.token.kind = .identifier spelling → Clear fault rest → HeadNot isNavigator rest →
      Derives .primary (p :: rest) (.field (Path.ofText spelling)) rest
  /-- A field path with a condition on its value. -/
  | within {p o body spelling n e last} :
      p.token.kind = .identifier spelling → o.token.kind = .operator (.navigation n) →
      Clear fault body → Derives .negation body e last →
      Derives .primary (p :: o :: body) (.within (.field (Path.ofText spelling)) e) last
  /-- A quantifier with its context and body. -/
  | quantified {p c o body quantifier spelling n e last} :
      p.token.kind = .keyword (quantifierWord quantifier) →
      c.token.kind = .identifier spelling → o.token.kind = .operator (.navigation n) →
      Clear fault body → Derives .negation body e last →
      Derives .primary (p :: c :: o :: body)
        (.quantified quantifier (.field (Path.ofText spelling)) e) last
  /-- A component test. -/
  | component {p c n rest name} :
      p.token.kind = .keyword .has → c.token.kind = .keyword .component →
      n.token.kind = .identifier name → Clear fault rest →
      Derives .primary (p :: c :: n :: rest) (.component name) rest
  /-- An `isa` test of the value at hand. -/
  | isaCurrent {p n rest typeName} :
      p.token.kind = .keyword .isa → n.token.kind = .identifier typeName → Clear fault rest →
      Derives .primary (p :: n :: rest) (.isInstance (.field .current) typeName) rest
  /-- A minus sign before an expression without operands. -/
  | minusPrimary {p rest e last} :
      p.token.kind = .operator (.sign .minus) → Clear fault rest → Derives .primary rest e last →
      Derives .primary (p :: rest) (.negation e) last
  /-- The empty list. -/
  | emptyList {p c rest} :
      p.token.kind = .openParen → c.token.kind = .closeParen → Clear fault rest →
      Derives .primary (p :: c :: rest) (.literal (.array [])) rest
  /-- A negative number on its own in parentheses. -/
  | negative {p m n c rest v negated} :
      p.token.kind = .openParen → m.token.kind = .operator (.sign .minus) →
      n.token.kind = .literal v → negate? v = some negated → c.token.kind = .closeParen →
      Clear fault rest → Derives .primary (p :: m :: n :: c :: rest) (.literal negated) rest
  /-- A group. -/
  | group {p rest e c last} :
      p.token.kind = .openParen → Clear fault rest → HeadNot isClose rest →
      negativeLiteral? fault rest = .ok none → Derives (.chain .or) rest e (c :: last) →
      c.token.kind = .closeParen → Clear fault last → Derives .primary (p :: rest) e last
  /-- A list of two or more elements. -/
  | list {p rest first v c mid e last} :
      p.token.kind = .openParen → Clear fault rest → HeadNot isClose rest →
      negativeLiteral? fault rest = .ok none → Derives (.chain .or) rest first (c :: mid) →
      c.token.kind = .comma → constant? first = some v → Derives (.items [v]) (c :: mid) e last →
      Derives .primary (p :: rest) e last
  /-- One more element of a list. -/
  | item {before p rest item v mid e last} :
      p.token.kind = .comma → Clear fault rest → Derives (.chain .or) rest item mid →
      constant? item = some v → Derives (.items (before ++ [v])) mid e last →
      Derives (.items before) (p :: rest) e last
  /-- The end of a list. -/
  | close {before p rest} :
      p.token.kind = .closeParen → Clear fault rest →
      Derives (.items before) (p :: rest) (.literal (.array before)) rest

/-! ## Reading single tokens -/

theorem stepTo_eq_ok_iff {rest : List Piece} :
    stepTo fault rest = .ok () ↔ Clear fault rest := by
  cases rest <;> cases fault <;> simp [stepTo, Clear]

theorem clear_cons (p : Piece) (rest : List Piece) : Clear fault (p :: rest) := by
  simp [Clear]

variable {fault}

theorem bind_eq_ok {ε α β : Type} {x : Except ε α} {f : α → Except ε β} {b : β} :
    (x >>= f) = .ok b ↔ ∃ a, x = .ok a ∧ f a = .ok b := by
  cases x <;> simp [bind, Except.bind]

theorem name_eq_ok {role : NameRole} {ps rest : List Piece} {spelling : String} {hlt}
    (h : name fault role ps = .ok ⟨spelling, rest, hlt⟩) :
    ∃ p, ps = p :: rest ∧ p.token.kind = .identifier spelling ∧ Clear fault rest := by
  cases ps with
  | nil => simp [name] at h
  | cons p rest =>
    rw [name] at h
    split at h
    · rename_i spelling hk
      obtain ⟨_, hc, h⟩ := bind_eq_ok.1 h
      cases h
      exact ⟨p, rfl, hk, (stepTo_eq_ok_iff fault).1 hc⟩
    · simp at h
    · simp at h

theorem name_of_identifier {role : NameRole} {p : Piece} {rest : List Piece} {spelling : String}
    (hk : p.token.kind = .identifier spelling) (hc : Clear fault rest) :
    name fault role (p :: rest) = .ok ⟨spelling, rest, Nat.lt_succ_self _⟩ := by
  simp [name, hk, (stepTo_eq_ok_iff fault).2 hc, bind, Except.bind]

theorem navigation?_eq_none {ps : List Piece} (h : navigation? fault ps = .ok none) :
    HeadNot isNavigator ps := by
  cases ps with
  | nil => simp
  | cons p rest =>
    rw [navigation?] at h
    split at h
    · obtain ⟨_, _, h⟩ := bind_eq_ok.1 h
      simp at h
    · rename_i hk
      rw [headNot_cons, isNavigator]
      exact hk

theorem navigation?_of_headNot {ps : List Piece} (h : HeadNot isNavigator ps) :
    navigation? fault ps = .ok none := by
  cases ps with
  | nil => rfl
  | cons p rest =>
    rw [headNot_cons] at h
    rw [navigation?]
    split
    · rename_i n hk
      simp [isNavigator, hk] at h
    · rfl

theorem navigation?_eq_some {ps rest : List Piece} {n : Navigator} {hlt}
    (h : navigation? fault ps = .ok (some ⟨n, rest, hlt⟩)) :
    ∃ p, ps = p :: rest ∧ p.token.kind = .operator (.navigation n) ∧ Clear fault rest := by
  cases ps with
  | nil => simp [navigation?] at h
  | cons p rest =>
    rw [navigation?] at h
    split at h
    · rename_i n hk
      obtain ⟨_, hc, h⟩ := bind_eq_ok.1 h
      cases h
      exact ⟨p, rfl, hk, (stepTo_eq_ok_iff fault).1 hc⟩
    · simp at h

theorem navigation?_of_navigator {p : Piece} {rest : List Piece} {n : Navigator}
    (hk : p.token.kind = .operator (.navigation n)) (hc : Clear fault rest) :
    navigation? fault (p :: rest) = .ok (some ⟨n, rest, Nat.lt_succ_self _⟩) := by
  simp [navigation?, hk, (stepTo_eq_ok_iff fault).2 hc, bind, Except.bind]

theorem close?_eq_none {ps : List Piece} (h : close? fault ps = .ok none) :
    HeadNot isClose ps := by
  cases ps with
  | nil => simp
  | cons p rest =>
    rw [close?] at h
    split at h
    · obtain ⟨_, _, h⟩ := bind_eq_ok.1 h
      simp at h
    · rename_i hk
      rw [headNot_cons, isClose]
      exact hk

theorem close?_of_headNot {ps : List Piece} (h : HeadNot isClose ps) :
    close? fault ps = .ok none := by
  cases ps with
  | nil => rfl
  | cons p rest =>
    rw [headNot_cons] at h
    rw [close?]
    split
    · rename_i hk
      simp [isClose, hk] at h
    · rfl

theorem close?_eq_some {ps rest : List Piece} {u : Unit} {hlt}
    (h : close? fault ps = .ok (some ⟨u, rest, hlt⟩)) :
    ∃ p, ps = p :: rest ∧ p.token.kind = .closeParen ∧ Clear fault rest := by
  cases ps with
  | nil => simp [close?] at h
  | cons p rest =>
    rw [close?] at h
    split at h
    · rename_i hk
      obtain ⟨_, hc, h⟩ := bind_eq_ok.1 h
      cases h
      exact ⟨p, rfl, hk, (stepTo_eq_ok_iff fault).1 hc⟩
    · simp at h

theorem close?_of_close {p : Piece} {rest : List Piece} (hk : p.token.kind = .closeParen)
    (hc : Clear fault rest) :
    close? fault (p :: rest) = .ok (some ⟨(), rest, Nat.lt_succ_self _⟩) := by
  simp [close?, hk, (stepTo_eq_ok_iff fault).2 hc, bind, Except.bind]

theorem close_eq_ok {cause : SyntaxCause} {ps rest : List Piece} {u : Unit} {hlt}
    (h : close fault cause ps = .ok ⟨u, rest, hlt⟩) :
    ∃ p, ps = p :: rest ∧ p.token.kind = .closeParen ∧ Clear fault rest := by
  obtain ⟨found, hf, h⟩ := bind_eq_ok.1 h
  cases found with
  | none => simp at h
  | some step =>
    cases h
    exact close?_eq_some hf

theorem close_of_close {cause : SyntaxCause} {p : Piece} {rest : List Piece}
    (hk : p.token.kind = .closeParen) (hc : Clear fault rest) :
    close fault cause (p :: rest) = .ok ⟨(), rest, Nat.lt_succ_self _⟩ := by
  simp [close, close?_of_close hk hc, bind, Except.bind]

theorem negativeLiteral?_eq_some {ps rest : List Piece} {negated : Value} {hlt}
    (h : negativeLiteral? fault ps = .ok (some ⟨negated, rest, hlt⟩)) :
    ∃ m n c v, ps = m :: n :: c :: rest ∧ m.token.kind = .operator (.sign .minus) ∧
      n.token.kind = .literal v ∧ negate? v = some negated ∧ c.token.kind = .closeParen ∧
      Clear fault rest := by
  cases ps with
  | nil => simp [negativeLiteral?] at h
  | cons m ps =>
    rw [negativeLiteral?] at h
    split at h
    · rename_i hm
      obtain ⟨_, _, h⟩ := bind_eq_ok.1 h
      obtain ⟨found, hf, h⟩ := bind_eq_ok.1 h
      cases found with
      | none => simp at h
      | some t =>
        cases h
        cases ps with
        | nil => simp [negatedNumber?] at hf
        | cons n ps =>
          rw [negatedNumber?] at hf
          split at hf
          · rename_i v hn
            split at hf
            · simp at hf
            · rename_i negated hv
              obtain ⟨_, _, hf⟩ := bind_eq_ok.1 hf
              obtain ⟨closing, hc, hf⟩ := bind_eq_ok.1 hf
              cases closing with
              | none => simp at hf
              | some u =>
                cases hf
                obtain ⟨c, hps, hk, hclear⟩ := close?_eq_some hc
                exact ⟨m, n, c, v, congrArg (m :: n :: ·) hps, hm, hn, hv, hk, hclear⟩
          · simp at hf
    · simp at h

theorem negativeLiteral?_of_negative {m n c : Piece} {rest : List Piece} {v negated : Value}
    (hm : m.token.kind = .operator (.sign .minus)) (hn : n.token.kind = .literal v)
    (hv : negate? v = some negated) (hk : c.token.kind = .closeParen) (hc : Clear fault rest) :
    ∃ h, negativeLiteral? fault (m :: n :: c :: rest) = .ok (some ⟨negated, rest, h⟩) := by
  refine ⟨by simp only [List.length_cons]; omega, ?_⟩
  simp [negativeLiteral?, negatedNumber?, hm, hn, hv, close?_of_close hk hc, stepTo, bind,
    Except.bind, Step.map, Step.behind]

theorem componentName_eq_ok {ps rest : List Piece} {spelling : String} {hlt}
    (h : componentName fault ps = .ok ⟨spelling, rest, hlt⟩) :
    ∃ c n, ps = c :: n :: rest ∧ c.token.kind = .keyword .component ∧
      n.token.kind = .identifier spelling ∧ Clear fault rest := by
  cases ps with
  | nil => simp [componentName] at h
  | cons c ps =>
    rw [componentName] at h
    split at h
    · rename_i hc
      obtain ⟨_, _, h⟩ := bind_eq_ok.1 h
      obtain ⟨t, ht, h⟩ := bind_eq_ok.1 h
      cases h
      obtain ⟨n, hps, hn, hclear⟩ := name_eq_ok ht
      exact ⟨c, n, congrArg (c :: ·) hps, hc, hn, hclear⟩
    · simp at h

theorem componentName_of_name {c n : Piece} {rest : List Piece} {spelling : String}
    (hc : c.token.kind = .keyword .component) (hn : n.token.kind = .identifier spelling)
    (hclear : Clear fault rest) :
    ∃ h, componentName fault (c :: n :: rest) = .ok ⟨spelling, rest, h⟩ := by
  refine ⟨by simp only [List.length_cons]; omega, ?_⟩
  simp [componentName, hc, name_of_identifier hn hclear, stepTo, bind, Except.bind, Step.behind]

/-! ## What is read has a derivation -/

theorem headNot_of_isNot {p : Piece} {rest : List Piece}
    (h : p.token.kind = .keyword .not → False) : HeadNot isNot (p :: rest) := by
  rw [headNot_cons, isNot]
  exact h

theorem headNot_of_isMinus {p : Piece} {rest : List Piece}
    (h : p.token.kind = .operator (.sign .minus) → False) : HeadNot isMinus (p :: rest) := by
  rw [headNot_cons, isMinus]
  exact h

/-- **What the functions read has a derivation**, for each of them.  The condition of a
quantifier and the inside of a parenthesis are read behind their first token. -/
theorem derives_sound_all :
    (∀ level ps s, chain fault level ps = .ok s → Derives fault (.chain level) ps s.value s.rest) ∧
    (∀ level ps left s, extend fault level ps left = .ok s →
      Derives fault (.extend level left.value) left.rest s.value s.rest) ∧
    (∀ level ps s, operand fault level ps = .ok s →
      Derives fault (.operand level) ps s.value s.rest) ∧
    (∀ ps s, primary fault ps = .ok s → Derives fault .primary ps s.value s.rest) ∧
    (∀ quantifier word ps s, condition fault quantifier word ps = .ok s →
      word = quantifierWord quantifier → ∀ p : Piece, p.token.kind = .keyword word →
      Derives fault .primary (p :: ps) s.value s.rest) ∧
    (∀ ps s, negation fault ps = .ok s → Derives fault .negation ps s.value s.rest) ∧
    (∀ ps s, comparison fault ps = .ok s → Derives fault .comparison ps s.value s.rest) ∧
    (∀ ps s, parenthesis fault ps = .ok s → Clear fault ps →
      ∀ p : Piece, p.token.kind = .openParen → Derives fault .primary (p :: ps) s.value s.rest) ∧
    (∀ ps before s, items fault ps before = .ok s →
      Derives fault (.items before.value) before.rest (.literal (.array s.value)) s.rest) ∧
    (∀ ps s, signed fault ps = .ok s → Derives fault .signed ps s.value s.rest) := by
  refine chain.mutual_induct
    (fun level ps => ∀ s, chain fault level ps = .ok s →
      Derives fault (.chain level) ps s.value s.rest)
    (fun level ps left => ∀ s, extend fault level ps left = .ok s →
      Derives fault (.extend level left.value) left.rest s.value s.rest)
    (fun level ps => ∀ s, operand fault level ps = .ok s →
      Derives fault (.operand level) ps s.value s.rest)
    (fun ps => ∀ s, primary fault ps = .ok s → Derives fault .primary ps s.value s.rest)
    (fun quantifier word ps => ∀ s, condition fault quantifier word ps = .ok s →
      word = quantifierWord quantifier → ∀ p : Piece, p.token.kind = .keyword word →
      Derives fault .primary (p :: ps) s.value s.rest)
    (fun ps => ∀ s, negation fault ps = .ok s → Derives fault .negation ps s.value s.rest)
    (fun ps => ∀ s, comparison fault ps = .ok s → Derives fault .comparison ps s.value s.rest)
    (fun ps => ∀ s, parenthesis fault ps = .ok s → Clear fault ps →
      ∀ p : Piece, p.token.kind = .openParen → Derives fault .primary (p :: ps) s.value s.rest)
    (fun ps before => ∀ s, items fault ps before = .ok s →
      Derives fault (.items before.value) before.rest (.literal (.array s.value)) s.rest)
    (fun ps => ∀ s, signed fault ps = .ok s → Derives fault .signed ps s.value s.rest)
    ?chain ?extendEnd ?extendStop ?extendMore ?operandOr ?operandAnd ?operandSum ?operandProduct
    ?primaryEnd ?primaryLiteral ?primaryUnfilled ?primaryFilled ?primaryField ?primaryOpen
    ?primaryAny ?primaryEach ?primaryHas ?primaryIsa ?primaryMinus ?primaryOther ?condition
    ?negationEnd ?negationNot ?negationOther ?comparison ?parenthesis ?itemsMore ?itemsClose
    ?itemsEnd ?signedEnd ?signedMinus ?signedOther
  case chain =>
    intro level ps ihOperand ihExtend s h
    rw [chain] at h
    obtain ⟨first, hfirst, h⟩ := bind_eq_ok.1 h
    exact .chain (ihOperand first hfirst) (ihExtend first s h)
  case extendEnd =>
    intro level ps left hrest s h
    rw [extend] at h
    split at h
    · cases h
      exact .stop (by rw [hrest]; exact headNot_nil _)
    · rename_i p rest hr
      rw [hrest] at hr
      cases hr
  case extendStop =>
    intro level ps left p rest hrest hjoin s h
    rw [extend] at h
    split at h
    · rename_i hr
      rw [hrest] at hr
      cases hr
    · rename_i p' rest' hr
      rw [hrest] at hr
      cases hr
      rw [hjoin] at h
      cases h
      exact .stop (by rw [hrest, headNot_cons, joins, hjoin]; rfl)
  case extendMore =>
    intro level ps left p rest hrest join hjoin ihOperand ihExtend s h
    rw [extend] at h
    split at h
    · rename_i hr
      rw [hrest] at hr
      cases hr
    · rename_i p' rest' hr
      have heq := hr
      rw [hrest] at heq
      cases heq
      split at h
      · rename_i hnone
        rw [hjoin] at hnone
        cases hnone
      · rename_i join' hjoin'
        rw [hjoin] at hjoin'
        cases hjoin'
        obtain ⟨_, hc, h⟩ := bind_eq_ok.1 h
        obtain ⟨right, hright, h⟩ := bind_eq_ok.1 h
        rw [hrest]
        exact .more hjoin ((stepTo_eq_ok_iff fault).1 hc) (ihOperand right hright)
          (ihExtend right s h)
  case operandOr =>
    intro ps ih s h
    rw [operand] at h
    exact .orOperand (ih s h)
  case operandAnd =>
    intro ps ih s h
    rw [operand] at h
    exact .andOperand (ih s h)
  case operandSum =>
    intro ps ih s h
    rw [operand] at h
    exact .sumOperand (ih s h)
  case operandProduct =>
    intro ps ih s h
    rw [operand] at h
    exact .productOperand (ih s h)
  case primaryEnd =>
    intro s h
    simp [primary] at h
  case primaryLiteral =>
    intro p rest v hk s h
    simp only [primary, hk] at h
    obtain ⟨_, hc, h⟩ := bind_eq_ok.1 h
    cases h
    exact .literal hk ((stepTo_eq_ok_iff fault).1 hc)
  case primaryUnfilled =>
    intro p rest name hk e he s h
    simp [primary, hk, he] at h
  case primaryFilled =>
    intro p rest name hk v hv s h
    simp only [primary, hk, hv] at h
    obtain ⟨_, hc, h⟩ := bind_eq_ok.1 h
    cases h
    exact .filled hk hv ((stepTo_eq_ok_iff fault).1 hc)
  case primaryField =>
    intro p rest spelling hk ih s h
    simp only [primary, hk] at h
    obtain ⟨_, hc, h⟩ := bind_eq_ok.1 h
    obtain ⟨found, hf, h⟩ := bind_eq_ok.1 h
    cases found with
    | none =>
      cases h
      exact .field hk ((stepTo_eq_ok_iff fault).1 hc) (navigation?_eq_none hf)
    | some step =>
      obtain ⟨body, hbody, h⟩ := bind_eq_ok.1 h
      cases h
      have hb := ih step body hbody
      obtain ⟨n, after, hlt⟩ := step
      obtain ⟨o, rfl, ho, hclear⟩ := navigation?_eq_some hf
      exact .within hk ho hclear hb
  case primaryOpen =>
    intro p rest hk ih s h
    simp only [primary, hk] at h
    obtain ⟨_, hc, h⟩ := bind_eq_ok.1 h
    obtain ⟨inner, hi, h⟩ := bind_eq_ok.1 h
    cases h
    exact ih inner hi ((stepTo_eq_ok_iff fault).1 hc) p hk
  case primaryAny =>
    intro p rest hk ih s h
    simp only [primary, hk] at h
    obtain ⟨_, _, h⟩ := bind_eq_ok.1 h
    obtain ⟨inner, hi, h⟩ := bind_eq_ok.1 h
    cases h
    exact ih inner hi rfl p hk
  case primaryEach =>
    intro p rest hk ih s h
    simp only [primary, hk] at h
    obtain ⟨_, _, h⟩ := bind_eq_ok.1 h
    obtain ⟨inner, hi, h⟩ := bind_eq_ok.1 h
    cases h
    exact ih inner hi rfl p hk
  case primaryHas =>
    intro p rest hk s h
    simp only [primary, hk] at h
    obtain ⟨_, _, h⟩ := bind_eq_ok.1 h
    obtain ⟨inner, hi, h⟩ := bind_eq_ok.1 h
    cases h
    obtain ⟨spelling, after, hlt⟩ := inner
    obtain ⟨c, n, rfl, hc, hn, hclear⟩ := componentName_eq_ok hi
    exact .component hk hc hn hclear
  case primaryIsa =>
    intro p rest hk s h
    simp only [primary, hk] at h
    obtain ⟨_, _, h⟩ := bind_eq_ok.1 h
    obtain ⟨type, ht, h⟩ := bind_eq_ok.1 h
    cases h
    obtain ⟨spelling, after, hlt⟩ := type
    obtain ⟨n, rfl, hn, hclear⟩ := name_eq_ok ht
    exact .isaCurrent hk hn hclear
  case primaryMinus =>
    intro p rest hk ih s h
    simp only [primary, hk] at h
    obtain ⟨_, hc, h⟩ := bind_eq_ok.1 h
    obtain ⟨inner, hi, h⟩ := bind_eq_ok.1 h
    cases h
    exact .minusPrimary hk ((stepTo_eq_ok_iff fault).1 hc) (ih inner hi)
  case primaryOther =>
    intro p rest _ _ _ _ _ _ _ _ _ s h
    rw [primary] at h
    split at h <;> simp_all
  case condition =>
    intro quantifier word ps ih s h hword p hp
    rw [condition] at h
    obtain ⟨context, hcontext, h⟩ := bind_eq_ok.1 h
    obtain ⟨found, hf, h⟩ := bind_eq_ok.1 h
    cases found with
    | none => simp at h
    | some step =>
      obtain ⟨body, hbody, h⟩ := bind_eq_ok.1 h
      cases h
      have hb := ih context step body hbody
      obtain ⟨spelling, mid, hlt⟩ := context
      obtain ⟨n, after, hlt'⟩ := step
      obtain ⟨c, rfl, hc, _⟩ := name_eq_ok hcontext
      obtain ⟨o, rfl, ho, hclear⟩ := navigation?_eq_some hf
      exact .quantified (hword ▸ hp) hc ho hclear hb
  case negationEnd =>
    intro ih s h
    rw [negation] at h
    exact .unnegated (headNot_nil _) (ih s h)
  case negationNot =>
    intro p rest hk ih s h
    simp only [negation, hk] at h
    obtain ⟨_, hc, h⟩ := bind_eq_ok.1 h
    obtain ⟨inner, hi, h⟩ := bind_eq_ok.1 h
    cases h
    exact .not hk ((stepTo_eq_ok_iff fault).1 hc) (ih inner hi)
  case negationOther =>
    intro p rest hk ih s h
    rw [negation] at h
    split at h
    · contradiction
    · exact .unnegated (headNot_of_isNot hk) (ih s h)
  case comparison =>
    intro ps ihLeft ihRight s h
    rw [comparison] at h
    obtain ⟨left, hleft, h⟩ := bind_eq_ok.1 h
    have hl := ihLeft left hleft
    split at h
    · rename_i hrest
      cases h
      exact .sum hl (by rw [hrest]; exact headNot_nil _)
    · rename_i p rest hrest
      rw [hrest] at hl
      dsimp only at h
      split at h
      · rename_i hk
        obtain ⟨_, _, h⟩ := bind_eq_ok.1 h
        obtain ⟨type, ht, h⟩ := bind_eq_ok.1 h
        cases h
        obtain ⟨spelling, after, hlt⟩ := type
        obtain ⟨n, rfl, hkn, hclear⟩ := name_eq_ok ht
        exact .isa hl hk hkn hclear
      · simp at h
      · rename_i c hk
        obtain ⟨_, hc, h⟩ := bind_eq_ok.1 h
        obtain ⟨right, hright, h⟩ := bind_eq_ok.1 h
        have hr := ihRight left p rest hrest right hright
        have hclear := (stepTo_eq_ok_iff fault).1 hc
        split at h
        · rename_i hend
          cases h
          exact .compare hl hk hclear hr (by rw [hend]; exact headNot_nil _)
        · rename_i q tail hend
          split at h
          · simp at h
          · rename_i hq
            cases h
            refine .compare hl hk hclear hr ?_
            rw [hend, headNot_cons, isComparator]
            exact hq
      · rename_i hisa hnav hcmp
        cases h
        rw [hrest]
        refine .sum hl ?_
        rw [headNot_cons, continuesComparison]
        · exact hisa
        · exact hnav
        · exact hcmp
  case parenthesis =>
    intro ps ihFirst ihItems s h hclear p hp
    rw [parenthesis] at h
    obtain ⟨closing, hclosing, h⟩ := bind_eq_ok.1 h
    cases closing with
    | some step =>
      cases h
      obtain ⟨_, after, hlt⟩ := step
      obtain ⟨c, rfl, hc, hclear'⟩ := close?_eq_some hclosing
      exact .emptyList hp hc hclear'
    | none =>
      obtain ⟨negative, hnegative, h⟩ := bind_eq_ok.1 h
      cases negative with
      | some step =>
        cases h
        obtain ⟨negated, after, hlt⟩ := step
        obtain ⟨m, n, c, v, rfl, hm, hn, hv, hc, hclear'⟩ := negativeLiteral?_eq_some hnegative
        exact .negative hp hm hn hv hc hclear'
      | none =>
        obtain ⟨first, hfirst, h⟩ := bind_eq_ok.1 h
        have hf := ihFirst first hfirst
        split at h
        · simp at h
        · rename_i c mid hrest
          split at h
          · rename_i hc
            split at h
            · simp at h
            · rename_i v hv
              obtain ⟨all, hall, h⟩ := bind_eq_ok.1 h
              cases h
              have hi := ihItems first v all hall
              dsimp only at hi
              rw [hrest] at hf hi
              exact .list hp hclear (close?_eq_none hclosing) hnegative hf hc hv hi
          · obtain ⟨closing, hclose, h⟩ := bind_eq_ok.1 h
            cases h
            obtain ⟨c', hrest', hc', hclear'⟩ := close_eq_ok hclose
            rw [hrest'] at hf
            exact .group hp hclear (close?_eq_none hclosing) hnegative hf hc' hclear'
  case itemsMore =>
    intro ps before p rest hrest hk ihItem ihItems s h
    rw [items] at h
    split at h
    · rename_i p' rest' hr
      have heq := hr
      rw [hrest] at heq
      cases heq
      split at h
      · obtain ⟨_, hc, h⟩ := bind_eq_ok.1 h
        obtain ⟨item, hitem, h⟩ := bind_eq_ok.1 h
        split at h
        · simp at h
        · rename_i v hv
          rw [hrest]
          exact .item hk ((stepTo_eq_ok_iff fault).1 hc) (ihItem item hitem) hv
            (ihItems item v s h)
      · contradiction
    · rename_i hr
      rw [hrest] at hr
      cases hr
  case itemsClose =>
    intro ps before p rest hrest hk s h
    rw [items] at h
    split at h
    · rename_i p' rest' hr
      have heq := hr
      rw [hrest] at heq
      cases heq
      split at h
      · contradiction
      · obtain ⟨closing, hclose, h⟩ := bind_eq_ok.1 h
        cases h
        obtain ⟨_, after, hlt⟩ := closing
        obtain ⟨c, hc, hck, hclear⟩ := close_eq_ok hclose
        cases hc
        have hd : Derives fault (.items before.value) (p :: rest)
            (.literal (.array before.value)) rest := .close hck hclear
        rwa [← hrest] at hd
    · rename_i hr
      rw [hrest] at hr
      cases hr
  case itemsEnd =>
    intro ps before hrest s h
    rw [items] at h
    split at h
    · rename_i p' rest' hr
      rw [hrest] at hr
      cases hr
    · simp at h
  case signedEnd =>
    intro ih s h
    rw [signed] at h
    exact .unsigned (headNot_nil _) (ih s h)
  case signedMinus =>
    intro p rest hk ih s h
    simp only [signed, hk] at h
    obtain ⟨_, hc, h⟩ := bind_eq_ok.1 h
    obtain ⟨inner, hi, h⟩ := bind_eq_ok.1 h
    cases h
    exact .minus hk ((stepTo_eq_ok_iff fault).1 hc) (ih inner hi)
  case signedOther =>
    intro p rest hk ih s h
    rw [signed] at h
    split at h
    · contradiction
    · exact .unsigned (headNot_of_isMinus hk) (ih s h)

/-- **What the grammar reads as an expression has a derivation.** -/
theorem derives_sound {level : Chain} {ps : List Piece} {s : Step Expr ps}
    (h : chain fault level ps = .ok s) : Derives fault (.chain level) ps s.value s.rest :=
  derives_sound_all.1 level ps s h

/-! ## What has a derivation is read -/

/-- A result of a function of the grammar: what was read and the tokens that are left. -/
def Reaches {α : Type} {ps : List Piece} (result : Except ParseError (Step α ps)) (v : α)
    (rest : List Piece) : Prop :=
  ∃ h, result = .ok ⟨v, rest, h⟩

theorem Reaches.unique {α : Type} {ps : List Piece} {result : Except ParseError (Step α ps)}
    {v v' : α} {rest rest' : List Piece} (h : Reaches result v rest)
    (h' : Reaches result v' rest') : v = v' ∧ rest = rest' := by
  obtain ⟨_, hv⟩ := h
  obtain ⟨_, hv'⟩ := h'
  rw [hv] at hv'
  cases hv'
  exact ⟨rfl, rfl⟩

/-- What each phrase of a derivation says about its function.  The beginning of a chain or list
may be a step of any length. -/
def Runs (fault : Option LexError) : Phrase → List Piece → Expr → List Piece → Prop
  | .chain level, ps, e, rest => Reaches (chain fault level ps) e rest
  | .extend level left, mid, e, rest =>
    ∀ ps h, Reaches (extend fault level ps ⟨left, mid, h⟩) e rest
  | .operand level, ps, e, rest => Reaches (operand fault level ps) e rest
  | .negation, ps, e, rest => Reaches (negation fault ps) e rest
  | .comparison, ps, e, rest => Reaches (comparison fault ps) e rest
  | .signed, ps, e, rest => Reaches (signed fault ps) e rest
  | .primary, ps, e, rest => Reaches (primary fault ps) e rest
  | .items before, mid, e, rest =>
    ∃ vs, e = .literal (.array vs) ∧ ∀ ps h, Reaches (items fault ps ⟨before, mid, h⟩) vs rest

/-- **What has a derivation is read** by the function for its phrase. -/
theorem Derives.runs {phrase : Phrase} {ps : List Piece} {e : Expr} {rest : List Piece}
    (d : Derives fault phrase ps e rest) : Runs fault phrase ps e rest := by
  induction d with
  | chain _ _ ihFirst ihRest =>
    obtain ⟨h, hf⟩ := ihFirst
    obtain ⟨h', hr⟩ := ihRest _ h
    exact ⟨h', by rw [Grammar.chain, hf]; exact hr⟩
  | stop hn =>
    intro ps h
    refine ⟨h, ?_⟩
    rw [extend]
    split
    · rfl
    · rename_i p rest hr
      dsimp only at hr
      subst hr
      rw [headNot_cons, joins, Option.isSome_eq_false_iff, Option.isNone_iff_eq_none] at hn
      rw [hn]
  | more hj hc _ _ ihRight ihRest =>
    intro ps h
    obtain ⟨h₁, hright⟩ := ihRight
    obtain ⟨h₂, hrest⟩ := ihRest ps (by simp only [List.length_cons] at h; omega)
    refine ⟨h₂, ?_⟩
    rw [extend]
    dsimp only
    rw [hj]
    dsimp only
    rw [(stepTo_eq_ok_iff fault).2 hc, hright]
    exact hrest
  | orOperand _ ih | andOperand _ ih | sumOperand _ ih | productOperand _ ih =>
    obtain ⟨h, hf⟩ := ih
    exact ⟨h, by rw [operand]; exact hf⟩
  | not hk hc _ ih =>
    obtain ⟨h, hf⟩ := ih
    refine ⟨Nat.lt_succ_of_lt h, ?_⟩
    simp only [negation, hk, (stepTo_eq_ok_iff fault).2 hc, hf]
    rfl
  | @unnegated ps e rest hn _ ih =>
    obtain ⟨h, hf⟩ := ih
    refine ⟨h, ?_⟩
    cases ps with
    | nil => rw [negation]; exact hf
    | cons p ps =>
      rw [headNot_cons] at hn
      rw [negation]
      split
      · rename_i hk
        simp [isNot, hk] at hn
      · exact hf
  | sum _ hn ih =>
    obtain ⟨h, hf⟩ := ih
    refine ⟨h, ?_⟩
    rw [comparison, hf]
    dsimp only [bind, Except.bind]
    split
    · rfl
    · rw [headNot_cons] at hn
      split
      · rename_i hk
        simp [continuesComparison, hk] at hn
      · rename_i hk
        simp [continuesComparison, hk] at hn
      · rename_i hk
        simp [continuesComparison, hk] at hn
      · rfl
  | isa _ hk hn hc ih =>
    obtain ⟨h, hf⟩ := ih
    refine ⟨by simp only [List.length_cons] at h; omega, ?_⟩
    rw [comparison, hf]
    dsimp only [bind, Except.bind]
    rw [hk]
    simp only [stepTo, name_of_identifier hn hc]
  | compare _ hk hc _ hn ihLeft ihRight =>
    obtain ⟨h, hf⟩ := ihLeft
    obtain ⟨h', hf'⟩ := ihRight
    refine ⟨by simp only [List.length_cons] at h; omega, ?_⟩
    rw [comparison, hf]
    dsimp only [bind, Except.bind]
    rw [hk]
    simp only [(stepTo_eq_ok_iff fault).2 hc, hf']
    split
    · rfl
    · rw [headNot_cons] at hn
      split
      · rename_i hq
        simp [isComparator, hq] at hn
      · rfl
  | minus hk hc _ ih =>
    obtain ⟨h, hf⟩ := ih
    refine ⟨Nat.lt_succ_of_lt h, ?_⟩
    simp only [signed, hk, (stepTo_eq_ok_iff fault).2 hc, hf]
    rfl
  | @unsigned ps e rest hn _ ih =>
    obtain ⟨h, hf⟩ := ih
    refine ⟨h, ?_⟩
    cases ps with
    | nil => rw [signed]; exact hf
    | cons p ps =>
      rw [headNot_cons] at hn
      rw [signed]
      split
      · rename_i hk
        simp [isMinus, hk] at hn
      · exact hf
  | literal hk hc =>
    refine ⟨Nat.lt_succ_self _, ?_⟩
    simp only [primary, hk, (stepTo_eq_ok_iff fault).2 hc]
    rfl
  | filled hk hv hc =>
    refine ⟨Nat.lt_succ_self _, ?_⟩
    simp only [primary, hk, hv, (stepTo_eq_ok_iff fault).2 hc]
    rfl
  | field hk hc hn =>
    refine ⟨Nat.lt_succ_self _, ?_⟩
    simp only [primary, hk, (stepTo_eq_ok_iff fault).2 hc, navigation?_of_headNot hn]
    rfl
  | within hk ho hc _ ih =>
    obtain ⟨h, hf⟩ := ih
    refine ⟨by simp only [List.length_cons]; omega, ?_⟩
    simp only [primary, hk, (stepTo_eq_ok_iff fault).2 (clear_cons fault _ _),
      navigation?_of_navigator ho hc]
    dsimp only [bind, Except.bind]
    rw [hf]
    rfl
  | @quantified p c o body quantifier spelling n e last hk hc ho hclear _ ih =>
    obtain ⟨h, hf⟩ := ih
    refine ⟨by simp only [List.length_cons]; omega, ?_⟩
    have hcondition : Reaches (condition fault quantifier (quantifierWord quantifier)
        (c :: o :: body)) (.quantified quantifier (.field (Path.ofText spelling)) e) last := by
      refine ⟨by simp only [List.length_cons]; omega, ?_⟩
      rw [condition, name_of_identifier hc (clear_cons fault _ _)]
      dsimp only [bind, Except.bind]
      rw [navigation?_of_navigator ho hclear]
      dsimp only
      rw [hf]
      rfl
    obtain ⟨h', hf'⟩ := hcondition
    cases quantifier <;>
    · simp only [quantifierWord] at hk hf'
      simp only [primary, hk, stepTo, hf']
      rfl
  | component hk hc hn hclear =>
    obtain ⟨h, hf⟩ := componentName_of_name hc hn hclear
    refine ⟨Nat.lt_succ_of_lt h, ?_⟩
    simp only [primary, hk, stepTo, hf]
    rfl
  | isaCurrent hk hn hc =>
    refine ⟨by simp only [List.length_cons]; omega, ?_⟩
    simp only [primary, hk, stepTo, name_of_identifier hn hc]
    rfl
  | minusPrimary hk hc _ ih =>
    obtain ⟨h, hf⟩ := ih
    refine ⟨Nat.lt_succ_of_lt h, ?_⟩
    simp only [primary, hk, (stepTo_eq_ok_iff fault).2 hc, hf]
    rfl
  | emptyList hk hc hclear =>
    refine ⟨by simp only [List.length_cons]; omega, ?_⟩
    simp only [primary, hk, stepTo]
    rw [parenthesis, close?_of_close hc hclear]
    rfl
  | negative hk hm hn hv hc hclear =>
    obtain ⟨h, hf⟩ := negativeLiteral?_of_negative hm hn hv hc hclear
    refine ⟨Nat.lt_succ_of_lt h, ?_⟩
    simp only [primary, hk, stepTo]
    rw [parenthesis, close?_of_headNot (by simp [isClose, hm]), hf]
    rfl
  | group hk hc hopen hneg _ hclose hlast ih =>
    obtain ⟨h, hf⟩ := ih
    refine ⟨by simp only [List.length_cons] at h ⊢; omega, ?_⟩
    simp only [primary, hk, (stepTo_eq_ok_iff fault).2 hc]
    rw [parenthesis, close?_of_headNot hopen, hneg, hf]
    dsimp only [bind, Except.bind]
    rw [hclose]
    dsimp only
    rw [close_of_close hclose hlast]
    rfl
  | list hk hc hopen hneg _ hcomma hv _ ihFirst ihItems =>
    obtain ⟨h, hf⟩ := ihFirst
    obtain ⟨vs, rfl, hi⟩ := ihItems
    obtain ⟨h', hf'⟩ := hi _ h
    refine ⟨Nat.lt_succ_of_lt h', ?_⟩
    simp only [primary, hk, (stepTo_eq_ok_iff fault).2 hc]
    rw [parenthesis, close?_of_headNot hopen, hneg, hf]
    dsimp only [bind, Except.bind]
    rw [hcomma]
    dsimp only
    rw [hv]
    dsimp only
    rw [hf']
    rfl
  | item hk hc _ hv _ ihItem ihItems =>
    obtain ⟨h, hf⟩ := ihItem
    obtain ⟨vs, rfl, hi⟩ := ihItems
    refine ⟨vs, rfl, fun ps hps => ?_⟩
    obtain ⟨h', hf'⟩ := hi ps (by simp only [List.length_cons] at hps; omega)
    refine ⟨h', ?_⟩
    rw [items]
    dsimp only
    rw [hk]
    dsimp only
    rw [(stepTo_eq_ok_iff fault).2 hc, hf]
    dsimp only [bind, Except.bind]
    rw [hv]
    exact hf'
  | close hk hc =>
    refine ⟨_, rfl, fun ps hps => ?_⟩
    refine ⟨by simp only [List.length_cons] at hps; omega, ?_⟩
    rw [items]
    dsimp only
    rw [hk]
    dsimp only
    rw [close_of_close hk hc]
    rfl

/-- **All tokens are read as a query** exactly when they derive a disjunction and nothing is
left. -/
theorem query_eq_ok_iff {ps : List Piece} {e : Expr} :
    query fault ps = .ok e ↔ Clear fault ps ∧ Derives fault (.chain .or) ps e [] := by
  constructor
  · intro h
    obtain ⟨_, hc, h⟩ := bind_eq_ok.1 h
    obtain ⟨whole, hw, h⟩ := bind_eq_ok.1 h
    have hd := derives_sound hw
    refine ⟨(stepTo_eq_ok_iff fault).1 hc, ?_⟩
    split at h
    · rename_i hend
      cases h
      rwa [List.isEmpty_iff.1 hend] at hd
    · simp at h
  · rintro ⟨hc, hd⟩
    obtain ⟨h, hf⟩ := hd.runs
    rw [query, (stepTo_eq_ok_iff fault).2 hc]
    dsimp only [bind, Except.bind]
    rw [hf]
    rfl

end

end Grammar

end FieldQuery
