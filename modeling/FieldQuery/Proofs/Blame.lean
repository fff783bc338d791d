import FieldQuery.Proofs.Derivation
import FieldQuery.Token.Cursor

/-!
# What a refused text is blamed for

The tokenizer and the grammar agree on where a text is bad.  A malformed text is refused for the
fault that the tokenizer meets, or else for a token in front of it; and only where there is no
fault can the end of the text be to blame.

* `ParseError.Blames` — an error blames what is there: the fault behind the tokens, one of the
  tokens, or the end of a text without a fault.
* `Grammar.Accounts` — a result has a property, or the error blames what is there.
* `Grammar.accounts_chain` — every function of the grammar accounts for what it refuses.
* `Cursor.Yields` — a cursor comes to a token, step by step.
* `Query.parse_accounts` — so does reading a whole text.
-/

namespace FieldQuery

/-! ## Blame -/

/-- Does the error blame the fault behind the tokens, one of the tokens, or the end of a text that
has no fault? -/
def ParseError.Blames (fault : Option LexError) (tokens : List Token) : ParseError → Prop
  | .lex e => fault = some e
  | .grammar (some t) _ => t ∈ tokens
  | .grammar none _ => fault = none

theorem ParseError.Blames.mono {fault : Option LexError} {tokens more : List Token}
    {e : ParseError} (h : e.Blames fault tokens) (hsub : tokens ⊆ more) : e.Blames fault more := by
  match e with
  | .lex _ => exact h
  | .grammar (some _) _ => exact hsub h
  | .grammar none _ => exact h

namespace Grammar

variable {α β : Type} {fault : Option LexError} {ps mid rest : List Piece} {p : Piece}

/-- The result has the property, or the error blames what is there. -/
def Accounts (fault : Option LexError) (ps : List Piece) (Q : α → Prop) :
    Except ParseError α → Prop
  | .ok a => Q a
  | .error e => e.Blames fault (ps.map Piece.token)

/-- Tokens that are left of others, and that do not end where the text is malformed. -/
def Ends (fault : Option LexError) (ps rest : List Piece) : Prop :=
  rest <:+ ps ∧ Clear fault rest

theorem Ends.cons (h : Ends fault ps rest) : Ends fault (p :: ps) rest :=
  ⟨h.1.trans (List.suffix_cons p ps), h.2⟩

theorem Ends.trans (h : Ends fault ps mid) (h' : Ends fault mid rest) : Ends fault ps rest :=
  ⟨h'.1.trans h.1, h'.2⟩

theorem ends_tail (hc : Clear fault rest) : Ends fault (p :: rest) rest :=
  ⟨List.suffix_cons p rest, hc⟩

section

variable {Q : α → Prop} {R : β → Prop}

theorem Accounts.bind {x : Except ParseError α} {f : α → Except ParseError β}
    (hx : Accounts fault ps Q x) (hf : ∀ a, Q a → Accounts fault ps R (f a)) :
    Accounts fault ps R (x >>= f) := by
  cases x with
  | ok a => exact hf a hx
  | error e => exact hx

/-- What accounts for some tokens does so for all of which they are left. -/
theorem Accounts.suffix {x : Except ParseError α} (h : Accounts fault rest Q x)
    (hsuffix : rest <:+ ps) : Accounts fault ps Q x := by
  cases x with
  | ok a => exact h
  | error e => exact ParseError.Blames.mono h (List.map_subset _ hsuffix.subset)

/-- A complaint about the first of some tokens is one about a token that is there, or about the
end of the text. -/
theorem accounts_stuck {qs : List Piece} {cause : SyntaxCause} (hqs : qs ⊆ ps)
    (hc : Clear fault qs) : Accounts fault ps Q (.error (stuck qs cause)) := by
  cases qs with
  | nil => exact hc rfl
  | cons q qs => exact List.mem_map_of_mem (hqs (List.mem_cons_self ..))

theorem accounts_stuck_here {cause : SyntaxCause} :
    Accounts fault (p :: ps) Q (.error (stuck [p] cause)) :=
  accounts_stuck (by simp) (clear_cons fault p [])

/-- A step behind a token leads to tokens that do not end where the text is malformed. -/
theorem accounts_stepTo (rest : List Piece) :
    Accounts fault ps (fun _ => Clear fault rest) (stepTo fault rest) := by
  cases rest with
  | nil =>
    cases fault with
    | none => exact fun _ => rfl
    | some e => exact rfl
  | cons p rest => exact clear_cons fault p rest

end

/-! ## Single tokens -/

/-- A step leaves tokens that do not end where the text is malformed. -/
def Leaves (fault : Option LexError) {ps : List Piece} (s : Step α ps) : Prop :=
  Ends fault ps s.rest

theorem accounts_name (role : NameRole) (hc : Clear fault ps) :
    Accounts fault ps (Leaves fault) (name fault role ps) := by
  cases ps with
  | nil => exact accounts_stuck (by simp) hc
  | cons p rest =>
    rw [name]
    split
    · exact (accounts_stepTo rest).bind fun _ hrest => ends_tail hrest
    · exact accounts_stuck_here
    · exact accounts_stuck_here

/-- There may be nothing to read. -/
theorem accounts_none :
    Accounts fault ps (fun found : Option (Step α ps) => ∀ s ∈ found, Leaves fault s)
      (.ok none) := by
  rintro s ⟨⟩

theorem accounts_navigation? (ps : List Piece) :
    Accounts fault ps (fun found => ∀ s ∈ found, Leaves fault s) (navigation? fault ps) := by
  cases ps with
  | nil => exact accounts_none
  | cons p rest =>
    rw [navigation?]
    split
    · refine (accounts_stepTo rest).bind fun _ hrest => ?_
      rintro _ ⟨⟩
      exact ends_tail hrest
    · exact accounts_none

theorem accounts_close? (ps : List Piece) :
    Accounts fault ps (fun found => ∀ s ∈ found, Leaves fault s) (close? fault ps) := by
  cases ps with
  | nil => exact accounts_none
  | cons p rest =>
    rw [close?]
    split
    · refine (accounts_stepTo rest).bind fun _ hrest => ?_
      rintro _ ⟨⟩
      exact ends_tail hrest
    · exact accounts_none

theorem accounts_close {cause : SyntaxCause} (hc : Clear fault ps) :
    Accounts fault ps (Leaves fault) (close fault cause ps) := by
  refine (accounts_close? ps).bind fun found hfound => ?_
  cases found with
  | none => exact accounts_stuck (List.Subset.refl ps) hc
  | some step => exact hfound step rfl

theorem accounts_negatedNumber? (ps : List Piece) :
    Accounts fault ps (fun found => ∀ s ∈ found, Leaves fault s) (negatedNumber? fault ps) := by
  cases ps with
  | nil => exact accounts_none
  | cons p rest =>
    rw [negatedNumber?]
    split
    · split
      · exact accounts_none
      · refine (accounts_stepTo rest).bind fun _ _ => ?_
        refine ((accounts_close? rest).suffix (List.suffix_cons p rest)).bind ?_
        rintro found hfound s hs
        obtain ⟨step, hstep, rfl⟩ := Option.map_eq_some_iff.1 hs
        exact (hfound step hstep).cons
    · exact accounts_none

theorem accounts_negativeLiteral? (ps : List Piece) :
    Accounts fault ps (fun found => ∀ s ∈ found, Leaves fault s) (negativeLiteral? fault ps) := by
  cases ps with
  | nil => exact accounts_none
  | cons p rest =>
    rw [negativeLiteral?]
    split
    · refine (accounts_stepTo rest).bind fun _ _ => ?_
      refine ((accounts_negatedNumber? rest).suffix (List.suffix_cons p rest)).bind ?_
      rintro found hfound s hs
      obtain ⟨step, hstep, rfl⟩ := Option.map_eq_some_iff.1 hs
      exact (hfound step hstep).cons
    · exact accounts_none

theorem accounts_componentName (hc : Clear fault ps) :
    Accounts fault ps (Leaves fault) (componentName fault ps) := by
  cases ps with
  | nil => exact accounts_stuck (by simp) hc
  | cons p rest =>
    rw [componentName]
    split
    · refine (accounts_stepTo rest).bind fun _ hrest => ?_
      refine ((accounts_name .component hrest).suffix (List.suffix_cons p rest)).bind ?_
      exact fun step hstep => hstep.cons
    · exact accounts_stuck_here

/-! ## Expressions -/

/-- What is read behind a first token, with the step to it. -/
theorem accounts_behind {f : Step α rest → Except ParseError (Step β (p :: rest))}
    {x : Except ParseError (Step α rest)}
    (hx : Clear fault rest → Accounts fault rest (Leaves fault) x)
    (hf : ∀ s, Leaves fault s → Accounts fault (p :: rest) (Leaves fault) (f s)) :
    Accounts fault (p :: rest) (Leaves fault) (do stepTo fault rest; let s ← x; f s) := by
  refine (accounts_stepTo rest).bind fun _ hrest => ?_
  exact ((hx hrest).suffix (List.suffix_cons p rest)).bind hf

variable (fault) in
/-- **Every function of the grammar accounts for what it refuses.**  What it reads leaves tokens
that do not end where the text is malformed. -/
theorem accounts_all :
    (∀ level ps, Clear fault ps → Accounts fault ps (Leaves fault) (chain fault level ps)) ∧
    (∀ level ps (left : Step Expr ps), Leaves fault left →
      Accounts fault ps (Leaves fault) (extend fault level ps left)) ∧
    (∀ level ps, Clear fault ps → Accounts fault ps (Leaves fault) (operand fault level ps)) ∧
    (∀ ps, Clear fault ps → Accounts fault ps (Leaves fault) (primary fault ps)) ∧
    (∀ quantifier word ps, Clear fault ps →
      Accounts fault ps (Leaves fault) (condition fault quantifier word ps)) ∧
    (∀ ps, Clear fault ps → Accounts fault ps (Leaves fault) (negation fault ps)) ∧
    (∀ ps, Clear fault ps → Accounts fault ps (Leaves fault) (comparison fault ps)) ∧
    (∀ ps, Clear fault ps → Accounts fault ps (Leaves fault) (parenthesis fault ps)) ∧
    (∀ ps (before : Step (List Value) ps), Leaves fault before →
      Accounts fault ps (Leaves fault) (items fault ps before)) ∧
    (∀ ps, Clear fault ps → Accounts fault ps (Leaves fault) (signed fault ps)) := by
  refine chain.mutual_induct
    (fun level ps => Clear fault ps → Accounts fault ps (Leaves fault) (chain fault level ps))
    (fun level ps left => Leaves fault left →
      Accounts fault ps (Leaves fault) (extend fault level ps left))
    (fun level ps => Clear fault ps → Accounts fault ps (Leaves fault) (operand fault level ps))
    (fun ps => Clear fault ps → Accounts fault ps (Leaves fault) (primary fault ps))
    (fun quantifier word ps => Clear fault ps →
      Accounts fault ps (Leaves fault) (condition fault quantifier word ps))
    (fun ps => Clear fault ps → Accounts fault ps (Leaves fault) (negation fault ps))
    (fun ps => Clear fault ps → Accounts fault ps (Leaves fault) (comparison fault ps))
    (fun ps => Clear fault ps → Accounts fault ps (Leaves fault) (parenthesis fault ps))
    (fun ps before => Leaves fault before →
      Accounts fault ps (Leaves fault) (items fault ps before))
    (fun ps => Clear fault ps → Accounts fault ps (Leaves fault) (signed fault ps))
    ?chain ?extendEnd ?extendStop ?extendMore ?operandOr ?operandAnd ?operandSum ?operandProduct
    ?primaryEnd ?primaryLiteral ?primaryUnfilled ?primaryFilled ?primaryField ?primaryOpen
    ?primaryAny ?primaryEach ?primaryHas ?primaryIsa ?primaryMinus ?primaryOther ?condition
    ?negationEnd ?negationNot ?negationOther ?comparison ?parenthesis ?itemsMore ?itemsClose
    ?itemsEnd ?signedEnd ?signedMinus ?signedOther
  case chain =>
    intro level ps ihOperand ihExtend hc
    rw [chain]
    exact (ihOperand hc).bind fun first hfirst => ihExtend first hfirst
  case extendEnd =>
    intro level ps left hrest hleft
    rw [extend]
    split
    · exact hleft
    · rename_i hr
      rw [hrest] at hr
      cases hr
  case extendStop =>
    intro level ps left p rest hrest hjoin hleft
    rw [extend]
    split
    · exact hleft
    · rename_i hr
      rw [hrest] at hr
      cases hr
      rw [hjoin]
      exact hleft
  case extendMore =>
    intro level ps left p rest hrest join hjoin ihOperand ihExtend hleft
    have hends : p :: rest <:+ ps := hrest ▸ hleft.1
    rw [extend]
    split
    · exact hleft
    · rename_i hr
      have heq := hr
      rw [hrest] at heq
      cases heq
      split
      · exact hleft
      · rename_i join' hjoin'
        rw [hjoin] at hjoin'
        cases hjoin'
        have hsuffix := (List.suffix_cons p rest).trans hends
        refine (accounts_stepTo rest).bind fun _ hclear => ?_
        refine ((ihOperand hclear).suffix hsuffix).bind fun right hright => ihExtend right ?_
        exact ⟨hright.1.trans hsuffix, hright.2⟩
  case operandOr | operandAnd | operandSum | operandProduct =>
    intro ps ih hc
    rw [operand]
    exact ih hc
  case primaryEnd =>
    intro hc
    rw [primary]
    exact accounts_stuck (by simp) hc
  case primaryLiteral =>
    intro p rest v hk _
    simp only [primary, hk]
    exact (accounts_stepTo rest).bind fun _ hrest => ends_tail hrest
  case primaryUnfilled =>
    intro p rest name hk e he _
    simp only [primary, hk, he]
    exact accounts_stuck_here
  case primaryFilled =>
    intro p rest name hk v hv _
    simp only [primary, hk, hv]
    exact (accounts_stepTo rest).bind fun _ hrest => ends_tail hrest
  case primaryField =>
    intro p rest spelling hk ih _
    simp only [primary, hk]
    refine (accounts_stepTo rest).bind fun _ hrest => ?_
    refine ((accounts_navigation? rest).suffix (List.suffix_cons p rest)).bind ?_
    intro found hfound
    cases found with
    | none => exact ends_tail hrest
    | some operator =>
      have hoperator := hfound operator rfl
      refine ((ih operator hoperator.2).suffix (hoperator.cons.1)).bind ?_
      exact fun body hbody => (hoperator.trans hbody).cons
  case primaryOpen | primaryAny | primaryEach =>
    intro p rest hk ih _
    simp only [primary, hk]
    exact accounts_behind ih fun _ hinner => hinner.cons
  case primaryHas =>
    intro p rest hk _
    simp only [primary, hk]
    exact accounts_behind accounts_componentName fun _ hinner => hinner.cons
  case primaryIsa =>
    intro p rest hk _
    simp only [primary, hk]
    exact accounts_behind (accounts_name .typeName) fun _ hinner => hinner.cons
  case primaryMinus =>
    intro p rest hk ih _
    simp only [primary, hk]
    exact accounts_behind ih fun _ hinner => hinner.cons
  case primaryOther =>
    intro p rest _ _ _ _ _ _ _ _ _ _
    rw [primary]
    split
    case h_10 => exact accounts_stuck_here
    all_goals simp_all
  case condition =>
    intro quantifier word ps ih hc
    rw [condition]
    refine (accounts_name (.context word) hc).bind fun context hcontext => ?_
    refine ((accounts_navigation? context.rest).suffix hcontext.1).bind fun found hfound => ?_
    cases found with
    | none => exact accounts_stuck hcontext.1.subset hcontext.2
    | some operator =>
      have hoperator := hcontext.trans (hfound operator rfl)
      refine ((ih context operator hoperator.2).suffix hoperator.1).bind ?_
      exact fun body hbody => hoperator.trans hbody
  case negationEnd =>
    intro ih hc
    rw [negation]
    exact ih hc
  case negationNot =>
    intro p rest hk ih _
    simp only [negation, hk]
    exact accounts_behind ih fun _ hinner => hinner.cons
  case negationOther =>
    intro p rest hk ih hc
    rw [negation]
    split
    · contradiction
    · exact ih hc
  case comparison =>
    intro ps ihLeft ihRight hc
    rw [comparison]
    refine (ihLeft hc).bind fun left hleft => ?_
    split
    · exact hleft
    · rename_i p rest hrest
      have hends : p :: rest <:+ ps := hrest ▸ hleft.1
      have hsuffix := (List.suffix_cons p rest).trans hends
      have hp : [p] ⊆ ps := by simpa using hends.subset (List.mem_cons_self ..)
      dsimp only
      split
      · refine (accounts_stepTo rest).bind fun _ hclear => ?_
        refine ((accounts_name .typeName hclear).suffix hsuffix).bind fun type htype => ?_
        exact ⟨htype.1.trans hsuffix, htype.2⟩
      · exact accounts_stuck hp (clear_cons fault p [])
      · refine (accounts_stepTo rest).bind fun _ hclear => ?_
        refine ((ihRight left p rest hrest hclear).suffix hsuffix).bind fun right hright => ?_
        have hwhole : Ends fault ps right.rest := ⟨hright.1.trans hsuffix, hright.2⟩
        split
        · exact hwhole
        · rename_i q tail hq
          split
          · have hqs : [q] ⊆ ps := by
              simpa using hwhole.1.subset (hq ▸ List.mem_cons_self ..)
            exact accounts_stuck hqs (clear_cons fault q [])
          · exact hwhole
      · exact hleft
  case parenthesis =>
    intro ps ihFirst ihItems hc
    rw [parenthesis]
    refine (accounts_close? ps).bind fun closing hclosing => ?_
    cases closing with
    | some step => exact hclosing step rfl
    | none =>
      refine (accounts_negativeLiteral? ps).bind fun negative hnegative => ?_
      cases negative with
      | some step => exact hnegative step rfl
      | none =>
        refine (ihFirst hc).bind fun first hfirst => ?_
        split
        · rename_i hrest
          exact accounts_stuck (by simp) (hrest ▸ hfirst.2)
        · split
          · split
            · exact accounts_stuck (List.Subset.refl ps) hc
            · rename_i v hv
              exact (ihItems first v hfirst).bind fun _ hall => hall
          · refine ((accounts_close hfirst.2).suffix hfirst.1).bind ?_
            exact fun _ hclosing => hfirst.trans hclosing
  case itemsMore =>
    intro ps before p rest hrest hk ihItem ihItems hbefore
    have hsuffix : rest <:+ ps := (List.suffix_cons p rest).trans (hrest ▸ hbefore.1)
    rw [items]
    split
    · rename_i hr
      have heq := hr
      rw [hrest] at heq
      cases heq
      split
      · refine (accounts_stepTo rest).bind fun _ hclear => ?_
        refine ((ihItem hclear).suffix hsuffix).bind fun item hitem => ?_
        split
        · exact accounts_stuck hsuffix.subset hclear
        · rename_i v hv
          exact ihItems item v ⟨hitem.1.trans hsuffix, hitem.2⟩
      · contradiction
    · rename_i hr
      rw [hrest] at hr
      cases hr
  case itemsClose =>
    intro ps before p rest hrest hk hbefore
    have hends : p :: rest <:+ ps := hrest ▸ hbefore.1
    rw [items]
    split
    · rename_i hr
      have heq := hr
      rw [hrest] at heq
      cases heq
      split
      · contradiction
      · refine ((accounts_close (clear_cons fault p rest)).suffix hends).bind ?_
        exact fun closing hclosing => ⟨hclosing.1.trans hends, hclosing.2⟩
    · rename_i hr
      rw [hrest] at hr
      cases hr
  case itemsEnd =>
    intro ps before hrest hbefore
    rw [items]
    split
    · rename_i hr
      rw [hrest] at hr
      cases hr
    · exact accounts_stuck (by simp) (hrest ▸ hbefore.2)
  case signedEnd =>
    intro ih hc
    rw [signed]
    exact ih hc
  case signedMinus =>
    intro p rest hk ih _
    simp only [signed, hk]
    exact accounts_behind ih fun _ hinner => hinner.cons
  case signedOther =>
    intro p rest hk ih hc
    rw [signed]
    split
    · contradiction
    · exact ih hc

/-- Reading one expression from all tokens accounts for what is refused, and what it reads has no
fault behind it. -/
theorem accounts_query (ps : List Piece) :
    Accounts fault ps (fun _ => fault = none) (query fault ps) := by
  refine (accounts_stepTo ps).bind fun _ hclear => ?_
  refine ((accounts_all fault).1 .or ps hclear).bind fun whole hwhole => ?_
  split
  · rename_i hend
    exact hwhole.2 (List.isEmpty_iff.1 hend)
  · exact accounts_stuck hwhole.1.subset hwhole.2

end Grammar

/-! ## Cursors -/

namespace Cursor

/-- Moving from token to token, the cursor comes to this one before the end of the text and before
any fault. -/
inductive Yields : Cursor → Token → Prop where
  /-- The next token is the one. -/
  | here {cursor moved : Cursor} {t : Token} : cursor.next = (.ok (some t), moved) → Yields cursor t
  /-- A later token is the one. -/
  | later {cursor moved : Cursor} {t u : Token} :
      cursor.next = (.ok (some t), moved) → Yields moved u → Yields cursor u

/-- A cursor that has looked at nothing moves as far as there are tokens in its text. -/
theorem yields_of_mem {input : Input} {t : Token} (h : t ∈ input.tokens.1)
    (current : Option Token) : Yields ⟨input, [], current⟩ t := by
  induction input using Input.tokens.induct generalizing current with
  | case1 input u after hnext _ _ _ _ ih =>
    have hstep : next ⟨input, [], current⟩ = (.ok (some u), ⟨after, [], some u⟩) := by
      simp [next, hnext]
    rw [Input.tokens_of_some hnext] at h
    rcases List.mem_cons.1 h with rfl | h
    · exact .here hstep
    · exact .later hstep (ih h _)
  | case2 input after hnext =>
    rw [Input.tokens_of_none hnext] at h
    cases h
  | case3 input e after hnext =>
    rw [Input.tokens_of_error hnext] at h
    cases h

end Cursor

/-! ## Whole texts -/

theorem tokenize_eq_ok_iff {source : String} :
    (∃ tokens, tokenize source = .ok tokens) ↔ (Input.ofText source).tokens.2 = none := by
  rw [tokenize]
  split <;> simp_all

theorem tokenize_eq_error_iff {source : String} {e : LexError} :
    tokenize source = .error e ↔ (Input.ofText source).tokens.2 = some e := by
  rw [tokenize]
  split <;> simp_all

/-- The pieces for tokens hold these tokens. -/
theorem Params.map_token_fill (params : Option Params) (used : Nat) (tokens : List Token) :
    (fill params used tokens).map Piece.token = tokens := by
  induction tokens generalizing used with
  | nil => rfl
  | cons t ts ih =>
    rw [fill]
    split <;> rw [List.map_cons, ih]

namespace Query

/-- Reading a query accounts for what is refused. -/
theorem ofTokens_accounts (tokens : List Token) (fault : Option LexError)
    (params : Option Params) :
    match ofTokens tokens fault params with
    | .ok _ => fault = none
    | .error e => e.Blames fault tokens := by
  have hquery : Grammar.Accounts fault (Params.fill params 0 tokens) (fun _ => fault = none)
      (Grammar.query fault (Params.fill params 0 tokens)) := Grammar.accounts_query _
  rw [ofTokens]
  cases hroot : Grammar.query fault (Params.fill params 0 tokens) with
  | error e =>
    rw [hroot] at hquery
    exact Params.map_token_fill params 0 tokens ▸ hquery
  | ok root =>
    rw [hroot] at hquery
    dsimp only [bind, Except.bind]
    cases Params.leftOver params tokens with
    | none => exact hquery
    | some cause => exact hquery

/-- **The tokenizer and the grammar agree on where a text is bad.**  A text that is read has
tokens up to its end.  One that is refused for a malformed token is malformed there for the
tokenizer as well; one that is refused at a token has this token, and a cursor comes to it before
any fault; and one that is refused at its end has tokens up to its end. -/
theorem parse_accounts (source : String) (params : Option Params) :
    match parse source params with
    | .ok _ => ∃ tokens, tokenize source = .ok tokens
    | .error (.lex e) => tokenize source = .error e
    | .error (.grammar (some t) _) => (Cursor.ofText source).Yields t
    | .error (.grammar none _) => ∃ tokens, tokenize source = .ok tokens := by
  have h := ofTokens_accounts (Input.ofText source).tokens.1 (Input.ofText source).tokens.2 params
  rw [show parse source params = ofTokens (Input.ofText source).tokens.1
    (Input.ofText source).tokens.2 params from rfl]
  match hresult : ofTokens (Input.ofText source).tokens.1 (Input.ofText source).tokens.2 params with
  | .ok _ =>
    rw [hresult] at h
    exact tokenize_eq_ok_iff.2 h
  | .error (.lex e) =>
    rw [hresult] at h
    exact tokenize_eq_error_iff.2 h
  | .error (.grammar (some t) _) =>
    rw [hresult] at h
    exact Cursor.yields_of_mem h none
  | .error (.grammar none _) =>
    rw [hresult] at h
    exact tokenize_eq_ok_iff.2 h

-- the lexer fault is behind the token that the grammar is stuck at, and is never met
example : parse "a b ' c" none =
      .error (.grammar (some ⟨.identifier "b", 2⟩) .trailing) ∧
    tokenize "a b ' c" = .error ⟨.unterminatedString, 4⟩ :=
  ⟨by with_unfolding_all rfl, by with_unfolding_all rfl⟩

end Query

end FieldQuery
