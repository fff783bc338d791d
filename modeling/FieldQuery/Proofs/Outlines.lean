import FieldQuery.Proofs.Spans
import FieldQuery.Proofs.Substitution

/-!
# The outline of a template

What a template reads as is settled by its text, but for the constants in it.  No parameter can
turn into anything else, whatever its value: the text decides where the operators and the
parentheses are.  Only a list looks at the values of its elements, for they have to be constants
of a certain form, and so a text without placeholders in lists is also read or refused whatever
the values are.

* `Expr.outline` — an expression without its constants.
* `Params.SameStyle` — parameters that could stand for each other.
* `Grammar.HasListedPlaceholder` — some list has a placeholder in it.
* `Grammar.outline_all` — tokens of the same kinds are read as expressions of one outline.
* `Grammar.composes_balanced` — in what is read, every parenthesis is closed.
* `Grammar.Derives.retold` — what derives from some tokens derives in outline from their twins.
* `Query.parse_sameStyle` — parameters of one style are read alike.
-/

namespace FieldQuery

/-! ## Outlines -/

namespace Expr

/-- The expression with all its constants left out. -/
def outline : Expr → Expr
  | .literal _ => .literal .null
  | .field p => .field p
  | .component name => .component name
  | .within context body => .within context.outline body.outline
  | .quantified quantifier context body => .quantified quantifier context.outline body.outline
  | .not operand => .not operand.outline
  | .and left right => .and left.outline right.outline
  | .or left right => .or left.outline right.outline
  | .compare relation left right => .compare relation left.outline right.outline
  | .isInstance subject typeName => .isInstance subject.outline typeName
  | .arithmetic operation left right => .arithmetic operation left.outline right.outline

theorem outline_negation {e e' : Expr} (h : e.outline = e'.outline) :
    (negation e).outline = (negation e').outline := by
  simp [negation, outline, h]

end Expr

/-- Are the parameters as many, or of the same names? -/
def Params.SameStyle : Params → Params → Prop
  | .positional values, .positional values' => values.length = values'.length
  | .named values, .named values' => ∀ name, name ∈ values.map (·.1) ↔ name ∈ values'.map (·.1)
  | _, _ => False

theorem Params.SameStyle.symm {given given' : Params} (h : given.SameStyle given') :
    given'.SameStyle given := by
  cases given <;> cases given' <;> first | exact h.elim | skip
  case positional => exact Eq.symm h
  case named => exact fun name => (h name).symm

namespace Grammar

open FieldQuery.Expr

theorem outline_join {level : Chain} {kind : TokenKind} {join : Expr → Expr → Expr}
    (h : join? level kind = some join) {l l' r r' : Expr} (hl : l.outline = l'.outline)
    (hr : r.outline = r'.outline) : (join l r).outline = (join l' r').outline := by
  unfold join? at h
  split at h <;> cases h <;> simp [outline, hl, hr]

theorem outline_compare (c : Comparator) {l l' r r' : Expr} (hl : l.outline = l'.outline)
    (hr : r.outline = r'.outline) : (compare c l r).outline = (compare c l' r').outline := by
  cases c <;> simp [compare, outline, hl, hr]

/-! ## What a chain and a list go on with -/

section

variable {fault : Option LexError} {level : Chain} {ps rest : List Piece} {p : Piece}

/-- A step from the tokens that another one left leaves fewer than that one was given. -/
theorem shorter_after {α β : Type} {s : Step α ps} (h : s.rest = rest) (t : Step β rest) :
    t.rest.length < ps.length :=
  Nat.lt_trans t.shorter (h ▸ s.shorter)

theorem extend_of_nil {left : Step Expr ps} (h : left.rest = []) :
    extend fault level ps left = .ok left := by
  rw [extend]
  split
  · rfl
  · rename_i hr
    rw [h] at hr
    cases hr

theorem extend_of_join?_none {left : Step Expr ps} (h : left.rest = p :: rest)
    (hj : join? level p.token.kind = none) : extend fault level ps left = .ok left := by
  rw [extend]
  split
  · rfl
  · rename_i hr
    rw [h] at hr
    cases hr
    rw [hj]

theorem extend_of_join? {left : Step Expr ps} {join : Expr → Expr → Expr}
    (h : left.rest = p :: rest) (hj : join? level p.token.kind = some join) :
    extend fault level ps left = (do
      stepTo fault rest
      let right ← operand fault level rest
      extend fault level ps
        ⟨join left.value right.value, right.rest, shorter_after h right.behind⟩) := by
  rw [extend]
  split
  · rename_i hr
    rw [h] at hr
    cases hr
  · rename_i hr
    have heq := hr
    rw [h] at heq
    cases heq
    rw [hj]

theorem items_of_nil {before : Step (List Value) ps} (h : before.rest = []) :
    items fault ps before = .error (stuck [] .unclosedList) := by
  rw [items]
  split
  · rename_i hr
    rw [h] at hr
    cases hr
  · rfl

theorem items_of_comma {before : Step (List Value) ps} (h : before.rest = p :: rest)
    (hk : p.token.kind = .comma) :
    items fault ps before = (do
      stepTo fault rest
      let item ← chain fault .or rest
      match constant? item.value with
      | none => .error (stuck rest .noConstant)
      | some v =>
        items fault ps ⟨before.value ++ [v], item.rest, shorter_after h item.behind⟩) := by
  rw [items]
  split
  · rename_i hr
    have heq := hr
    rw [h] at heq
    cases heq
    split
    · rfl
    · contradiction
  · rename_i hr
    rw [h] at hr
    cases hr

theorem items_of_other {before : Step (List Value) ps} (h : before.rest = p :: rest)
    (hk : p.token.kind = .comma → False) :
    items fault ps before = (do
      let closing ← close fault .unclosedList (p :: rest)
      .ok ⟨before.value, closing.rest, shorter_after h closing⟩) := by
  rw [items]
  split
  · rename_i hr
    have heq := hr
    rw [h] at heq
    cases heq
    split
    · contradiction
    · rfl
  · rename_i hr
    rw [h] at hr
    cases hr

end

/-! ## Reading tokens of the same kinds -/

section

variable {α β γ δ ε : Type} {fault : Option LexError} {ps qs : List Piece}

/-- If there are two results, they are related. -/
def Parallel (R : α → β → Prop) : Except ε α → Except ε β → Prop
  | .ok a, .ok b => R a b
  | _, _ => True

theorem Parallel.bind {R : α → β → Prop} {S : γ → δ → Prop} {x : Except ε α} {y : Except ε β}
    {f : α → Except ε γ} {g : β → Except ε δ} (h : Parallel R x y)
    (hf : ∀ a b, R a b → Parallel S (f a) (g b)) : Parallel S (x >>= f) (y >>= g) := by
  cases x with
  | error _ => trivial
  | ok a =>
    cases y with
    | ok b => exact hf a b h
    | error _ =>
      show Parallel S (f a) (.error _)
      cases f a <;> trivial

theorem parallel_error_left {R : α → β → Prop} (e : ε) (y : Except ε β) :
    Parallel R (.error e) y := trivial

theorem parallel_error_right {R : α → β → Prop} (x : Except ε α) (e : ε) :
    Parallel R x (.error e) := by
  cases x <;> trivial

/-- Any two computations may come first where nothing is asked of their results. -/
theorem parallel_after {S : γ → δ → Prop} {x : Except ε α} {y : Except ε β} {f : α → Except ε γ}
    {g : β → Except ε δ} (hf : ∀ a b, Parallel S (f a) (g b)) :
    Parallel S (x >>= f) (y >>= g) := by
  refine Parallel.bind (R := fun _ _ => True) ?_ fun a b _ => hf a b
  cases x <;> cases y <;> trivial

/-- Two steps leave tokens of the same kinds. -/
def LeavesAlike {ps qs : List Piece} (s : Step α ps) (t : Step β qs) : Prop :=
  kinds s.rest = kinds t.rest

/-- Two steps read expressions of one outline and leave tokens of the same kinds. -/
def SameOutline {ps qs : List Piece} (s : Step Expr ps) (t : Step Expr qs) : Prop :=
  s.value.outline = t.value.outline ∧ LeavesAlike s t

theorem kinds_cons_eq {p : Piece} {ps qs : List Piece} (h : kinds (p :: ps) = kinds qs) :
    ∃ q rest, qs = q :: rest ∧ q.token.kind = p.token.kind ∧ kinds ps = kinds rest := by
  obtain ⟨q, rest, rfl, hq, hrest⟩ := kinds_eq_cons h.symm
  exact ⟨q, rest, rfl, hq, hrest.symm⟩

theorem kinds_nil_eq {qs : List Piece} (h : kinds [] = kinds qs) : qs = [] :=
  kinds_eq_nil h.symm

theorem LeavesAlike.nil {s : Step α ps} {t : Step β qs} (h : LeavesAlike s t) (hs : s.rest = []) :
    t.rest = [] :=
  kinds_nil_eq ((congrArg kinds hs).symm.trans h)

theorem LeavesAlike.cons {s : Step α ps} {t : Step β qs} {p : Piece} {rest : List Piece}
    (h : LeavesAlike s t) (hs : s.rest = p :: rest) :
    ∃ q rest', t.rest = q :: rest' ∧ q.token.kind = p.token.kind ∧ kinds rest = kinds rest' :=
  kinds_cons_eq ((congrArg kinds hs).symm.trans h)

theorem parallel_name {role : NameRole} (h : kinds ps = kinds qs) :
    Parallel (fun s t => s.value = t.value ∧ LeavesAlike s t) (name fault role ps)
      (name fault role qs) := by
  cases ps with
  | nil =>
    cases kinds_nil_eq h
    trivial
  | cons p rest =>
    obtain ⟨q, rest', rfl, hq, hrest⟩ := kinds_cons_eq h
    rw [name, name, hq]
    split
    · exact parallel_after fun _ _ => ⟨rfl, hrest⟩
    · trivial
    · trivial

theorem parallel_navigation? (h : kinds ps = kinds qs) :
    Parallel (Option.Rel LeavesAlike) (navigation? fault ps) (navigation? fault qs) := by
  cases ps with
  | nil =>
    cases kinds_nil_eq h
    exact .none
  | cons p rest =>
    obtain ⟨q, rest', rfl, hq, hrest⟩ := kinds_cons_eq h
    rw [navigation?, navigation?, hq]
    split
    · exact parallel_after fun _ _ => .some hrest
    · exact .none

theorem parallel_close? (h : kinds ps = kinds qs) :
    Parallel (Option.Rel LeavesAlike) (close? fault ps) (close? fault qs) := by
  cases ps with
  | nil =>
    cases kinds_nil_eq h
    exact .none
  | cons p rest =>
    obtain ⟨q, rest', rfl, hq, hrest⟩ := kinds_cons_eq h
    rw [close?, close?, hq]
    split
    · exact parallel_after fun _ _ => .some hrest
    · exact .none

theorem parallel_close {cause : SyntaxCause} (h : kinds ps = kinds qs) :
    Parallel LeavesAlike (close fault cause ps) (close fault cause qs) := by
  refine (parallel_close? h).bind ?_
  rintro _ _ (hsteps | _)
  · exact hsteps
  · trivial

theorem parallel_negatedNumber? (h : kinds ps = kinds qs) :
    Parallel (Option.Rel LeavesAlike) (negatedNumber? fault ps) (negatedNumber? fault qs) := by
  cases ps with
  | nil =>
    cases kinds_nil_eq h
    exact .none
  | cons p rest =>
    obtain ⟨q, rest', rfl, hq, hrest⟩ := kinds_cons_eq h
    rw [negatedNumber?, negatedNumber?, hq]
    split
    · split
      · exact .none
      · refine parallel_after fun _ _ => (parallel_close? hrest).bind ?_
        rintro _ _ (hsteps | _)
        · exact .some hsteps
        · exact .none
    · exact .none

theorem parallel_negativeLiteral? (h : kinds ps = kinds qs) :
    Parallel (Option.Rel LeavesAlike) (negativeLiteral? fault ps) (negativeLiteral? fault qs) := by
  cases ps with
  | nil =>
    cases kinds_nil_eq h
    exact .none
  | cons p rest =>
    obtain ⟨q, rest', rfl, hq, hrest⟩ := kinds_cons_eq h
    rw [negativeLiteral?, negativeLiteral?, hq]
    split
    · refine parallel_after fun _ _ => (parallel_negatedNumber? hrest).bind ?_
      rintro _ _ (hsteps | _)
      · exact .some hsteps
      · exact .none
    · exact .none

theorem parallel_componentName (h : kinds ps = kinds qs) :
    Parallel (fun s t => s.value = t.value ∧ LeavesAlike s t) (componentName fault ps)
      (componentName fault qs) := by
  cases ps with
  | nil =>
    cases kinds_nil_eq h
    trivial
  | cons p rest =>
    obtain ⟨q, rest', rfl, hq, hrest⟩ := kinds_cons_eq h
    rw [componentName, componentName, hq]
    split
    · exact parallel_after fun _ _ => (parallel_name hrest).bind fun _ _ hsteps => hsteps
    · trivial

variable (fault) in
/-- **Tokens of the same kinds are read as expressions of one outline**, by every function of the
grammar, if both are read. -/
theorem outline_all :
    (∀ level ps qs, kinds ps = kinds qs →
      Parallel SameOutline (chain fault level ps) (chain fault level qs)) ∧
    (∀ level ps (left : Step Expr ps) qs (left' : Step Expr qs), SameOutline left left' →
      Parallel SameOutline (extend fault level ps left) (extend fault level qs left')) ∧
    (∀ level ps qs, kinds ps = kinds qs →
      Parallel SameOutline (operand fault level ps) (operand fault level qs)) ∧
    (∀ ps qs, kinds ps = kinds qs →
      Parallel SameOutline (primary fault ps) (primary fault qs)) ∧
    (∀ quantifier word ps qs, kinds ps = kinds qs →
      Parallel SameOutline (condition fault quantifier word ps)
        (condition fault quantifier word qs)) ∧
    (∀ ps qs, kinds ps = kinds qs →
      Parallel SameOutline (negation fault ps) (negation fault qs)) ∧
    (∀ ps qs, kinds ps = kinds qs →
      Parallel SameOutline (comparison fault ps) (comparison fault qs)) ∧
    (∀ ps qs, kinds ps = kinds qs →
      Parallel SameOutline (parenthesis fault ps) (parenthesis fault qs)) ∧
    (∀ ps (before : Step (List Value) ps) qs (before' : Step (List Value) qs),
      LeavesAlike before before' →
      Parallel LeavesAlike (items fault ps before) (items fault qs before')) ∧
    (∀ ps qs, kinds ps = kinds qs →
      Parallel SameOutline (signed fault ps) (signed fault qs)) := by
  refine chain.mutual_induct
    (fun level ps => ∀ qs, kinds ps = kinds qs →
      Parallel SameOutline (chain fault level ps) (chain fault level qs))
    (fun level ps left => ∀ qs (left' : Step Expr qs), SameOutline left left' →
      Parallel SameOutline (extend fault level ps left) (extend fault level qs left'))
    (fun level ps => ∀ qs, kinds ps = kinds qs →
      Parallel SameOutline (operand fault level ps) (operand fault level qs))
    (fun ps => ∀ qs, kinds ps = kinds qs →
      Parallel SameOutline (primary fault ps) (primary fault qs))
    (fun quantifier word ps => ∀ qs, kinds ps = kinds qs →
      Parallel SameOutline (condition fault quantifier word ps)
        (condition fault quantifier word qs))
    (fun ps => ∀ qs, kinds ps = kinds qs →
      Parallel SameOutline (negation fault ps) (negation fault qs))
    (fun ps => ∀ qs, kinds ps = kinds qs →
      Parallel SameOutline (comparison fault ps) (comparison fault qs))
    (fun ps => ∀ qs, kinds ps = kinds qs →
      Parallel SameOutline (parenthesis fault ps) (parenthesis fault qs))
    (fun ps before => ∀ qs (before' : Step (List Value) qs), LeavesAlike before before' →
      Parallel LeavesAlike (items fault ps before) (items fault qs before'))
    (fun ps => ∀ qs, kinds ps = kinds qs →
      Parallel SameOutline (signed fault ps) (signed fault qs))
    ?chain ?extendEnd ?extendStop ?extendMore ?operandOr ?operandAnd ?operandSum ?operandProduct
    ?primaryEnd ?primaryLiteral ?primaryUnfilled ?primaryFilled ?primaryField ?primaryOpen
    ?primaryAny ?primaryEach ?primaryHas ?primaryIsa ?primaryMinus ?primaryOther ?condition
    ?negationEnd ?negationNot ?negationOther ?comparison ?parenthesis ?itemsMore ?itemsClose
    ?itemsEnd ?signedEnd ?signedMinus ?signedOther
  case chain =>
    intro level ps ihOperand ihExtend qs h
    rw [chain, chain]
    exact (ihOperand qs h).bind fun first first' hfirst => ihExtend first qs first' hfirst
  case extendEnd =>
    intro level ps left hrest qs left' hleft
    have hrest' := hleft.2.nil hrest
    rw [extend_of_nil hrest, extend_of_nil hrest']
    exact hleft
  case extendStop =>
    intro level ps left p rest hrest hjoin qs left' hleft
    obtain ⟨q, rest', hrest', hq, -⟩ := hleft.2.cons hrest
    rw [extend_of_join?_none hrest hjoin, extend_of_join?_none hrest' (hq ▸ hjoin)]
    exact hleft
  case extendMore =>
    intro level ps left p rest hrest join hjoin ihOperand ihExtend qs left' hleft
    obtain ⟨q, rest', hrest', hq, hkinds⟩ := hleft.2.cons hrest
    rw [extend_of_join? hrest hjoin, extend_of_join? hrest' (hq ▸ hjoin)]
    refine parallel_after fun _ _ => (ihOperand rest' hkinds).bind fun right right' hright => ?_
    exact ihExtend right qs _ ⟨outline_join hjoin hleft.1 hright.1, hright.2⟩
  case operandOr | operandAnd | operandSum | operandProduct =>
    intro ps ih qs h
    rw [operand, operand]
    exact ih qs h
  case primaryEnd =>
    intro qs h
    rw [primary]
    exact parallel_error_left _ _
  case primaryLiteral =>
    intro p rest v hk qs h
    obtain ⟨q, rest', rfl, hq, hrest⟩ := kinds_cons_eq h
    simp only [primary, hk, hq]
    exact parallel_after fun _ _ => ⟨rfl, hrest⟩
  case primaryUnfilled =>
    intro p rest name hk e he qs h
    simp only [primary, hk, he]
    exact parallel_error_left _ _
  case primaryFilled =>
    intro p rest name hk v hv qs h
    obtain ⟨q, rest', rfl, hq, hrest⟩ := kinds_cons_eq h
    simp only [primary, hk, hq, hv]
    split
    · exact parallel_error_right _ _
    · exact parallel_after fun _ _ => ⟨rfl, hrest⟩
  case primaryField =>
    intro p rest spelling hk ih qs h
    obtain ⟨q, rest', rfl, hq, hrest⟩ := kinds_cons_eq h
    simp only [primary, hk, hq]
    refine parallel_after fun _ _ => (parallel_navigation? hrest).bind ?_
    rintro _ _ (hoperator | _)
    · refine (ih _ _ hoperator).bind fun body body' hbody => ?_
      exact ⟨by simp [Step.map, Step.after, Step.behind, outline, hbody.1], hbody.2⟩
    · exact ⟨rfl, hrest⟩
  case primaryOpen | primaryAny | primaryEach =>
    intro p rest hk ih qs h
    obtain ⟨q, rest', rfl, hq, hrest⟩ := kinds_cons_eq h
    simp only [primary, hk, hq]
    exact parallel_after fun _ _ => (ih rest' hrest).bind fun _ _ hinner => hinner
  case primaryHas =>
    intro p rest hk qs h
    obtain ⟨q, rest', rfl, hq, hrest⟩ := kinds_cons_eq h
    simp only [primary, hk, hq]
    refine parallel_after fun _ _ => (parallel_componentName hrest).bind fun _ _ hname => ?_
    exact ⟨by simp [Step.map, Step.behind, hname.1], hname.2⟩
  case primaryIsa =>
    intro p rest hk qs h
    obtain ⟨q, rest', rfl, hq, hrest⟩ := kinds_cons_eq h
    simp only [primary, hk, hq]
    refine parallel_after fun _ _ => (parallel_name hrest).bind fun _ _ hname => ?_
    exact ⟨by simp [Step.map, Step.behind, hname.1], hname.2⟩
  case primaryMinus =>
    intro p rest hk ih qs h
    obtain ⟨q, rest', rfl, hq, hrest⟩ := kinds_cons_eq h
    simp only [primary, hk, hq]
    refine parallel_after fun _ _ => (ih rest' hrest).bind fun _ _ hinner => ?_
    exact ⟨outline_negation hinner.1, hinner.2⟩
  case primaryOther =>
    intro p rest _ _ _ _ _ _ _ _ _ qs h
    rw [primary]
    split
    case h_10 => exact parallel_error_left _ _
    all_goals simp_all
  case condition =>
    intro quantifier word ps ih qs h
    rw [condition, condition]
    refine (parallel_name h).bind fun context context' hcontext => ?_
    refine (parallel_navigation? hcontext.2).bind ?_
    rintro _ _ (hoperator | _)
    · refine (ih context _ _ hoperator).bind fun body body' hbody => ?_
      exact ⟨by simp [Step.map, Step.after, outline, hcontext.1, hbody.1], hbody.2⟩
    · exact parallel_error_left _ _
  case negationEnd =>
    intro ih qs h
    cases kinds_nil_eq h
    rw [negation]
    exact ih [] rfl
  case negationNot =>
    intro p rest hk ih qs h
    obtain ⟨q, rest', rfl, hq, hrest⟩ := kinds_cons_eq h
    simp only [negation, hk, hq]
    refine parallel_after fun _ _ => (ih rest' hrest).bind fun _ _ hinner => ?_
    exact ⟨by simp [Step.map, Step.behind, outline, hinner.1], hinner.2⟩
  case negationOther =>
    intro p rest hk ih qs h
    obtain ⟨q, rest', rfl, hq, hrest⟩ := kinds_cons_eq h
    rw [negation, negation, hq]
    split
    · contradiction
    · exact ih _ h
  case comparison =>
    intro ps ihLeft ihRight qs h
    rw [comparison, comparison]
    refine (ihLeft qs h).bind fun left left' hleft => ?_
    obtain ⟨l, ls, hlt⟩ := left
    obtain ⟨l', ls', hlt'⟩ := left'
    cases ls with
    | nil =>
      obtain rfl : ls' = [] := hleft.2.nil rfl
      exact hleft
    | cons p rest =>
      obtain ⟨q, rest', rfl, hq, hkinds⟩ : ∃ q rest', ls' = q :: rest' ∧ _ := hleft.2.cons rfl
      dsimp only
      rw [hq]
      split
      · refine parallel_after fun _ _ => (parallel_name hkinds).bind fun _ _ hname => ?_
        exact ⟨by simp [outline, hleft.1, hname.1], hname.2⟩
      · exact parallel_error_left _ _
      · rename_i c hc
        refine parallel_after fun _ _ => ?_
        refine (ihRight ⟨l, p :: rest, hlt⟩ p rest rfl rest' hkinds).bind fun right right' hright => ?_
        obtain ⟨r, rs, hlt⟩ := right
        obtain ⟨r', rs', hlt'⟩ := right'
        have hwhole : (compare c l r).outline = (compare c l' r').outline :=
          outline_compare c hleft.1 hright.1
        cases rs with
        | nil =>
          obtain rfl : rs' = [] := hright.2.nil rfl
          exact ⟨hwhole, hright.2⟩
        | cons o tail =>
          obtain ⟨o', tail', rfl, ho, -⟩ : ∃ o' tail', rs' = o' :: tail' ∧ _ := hright.2.cons rfl
          dsimp only
          rw [ho]
          split
          · exact parallel_error_left _ _
          · exact ⟨hwhole, hright.2⟩
      · exact hleft
  case parenthesis =>
    intro ps ihFirst ihItems qs h
    rw [parenthesis, parenthesis]
    refine (parallel_close? h).bind ?_
    rintro _ _ (hclosing | _)
    · exact ⟨rfl, hclosing⟩
    · refine (parallel_negativeLiteral? h).bind ?_
      rintro _ _ (hnegative | _)
      · exact ⟨rfl, hnegative⟩
      · refine (ihFirst qs h).bind fun first first' hfirst => ?_
        obtain ⟨e, es, hlt⟩ := first
        obtain ⟨e', es', hlt'⟩ := first'
        cases es with
        | nil => exact parallel_error_left _ _
        | cons p tail =>
          obtain ⟨q, tail', rfl, hq, hkinds⟩ : ∃ q tail', es' = q :: tail' ∧ _ :=
            hfirst.2.cons rfl
          dsimp only
          rw [hq]
          split
          · split
            · exact parallel_error_left _ _
            · rename_i v hv
              split
              · exact parallel_error_right _ _
              · rename_i v' hv'
                refine (ihItems ⟨e, p :: tail, hlt⟩ v qs ⟨[v'], q :: tail', hlt'⟩ hfirst.2).bind ?_
                exact fun _ _ hall => ⟨rfl, hall⟩
          · exact (parallel_close hfirst.2).bind fun _ _ hclosing => ⟨hfirst.1, hclosing⟩
  case itemsMore =>
    intro ps before p rest hrest hk ihItem ihItems qs before' hbefore
    obtain ⟨q, rest', hrest', hq, hkinds⟩ := hbefore.cons hrest
    rw [items_of_comma hrest hk, items_of_comma hrest' (hq.trans hk)]
    refine parallel_after fun _ _ => (ihItem rest' hkinds).bind fun item item' hitem => ?_
    split
    · exact parallel_error_left _ _
    · rename_i v hv
      split
      · exact parallel_error_right _ _
      · exact ihItems item v qs _ hitem.2
  case itemsClose =>
    intro ps before p rest hrest hk qs before' hbefore
    obtain ⟨q, rest', hrest', hq, hkinds⟩ := hbefore.cons hrest
    rw [items_of_other hrest hk, items_of_other hrest' (hq ▸ hk)]
    refine (parallel_close ?_).bind fun _ _ hclosing => hclosing
    rw [← hrest, ← hrest']
    exact hbefore
  case itemsEnd =>
    intro ps before hrest qs before' hbefore
    rw [items_of_nil hrest]
    exact parallel_error_left _ _
  case signedEnd =>
    intro ih qs h
    cases kinds_nil_eq h
    rw [signed]
    exact ih [] rfl
  case signedMinus =>
    intro p rest hk ih qs h
    obtain ⟨q, rest', rfl, hq, hrest⟩ := kinds_cons_eq h
    simp only [signed, hk, hq]
    refine parallel_after fun _ _ => (ih rest' hrest).bind fun _ _ hinner => ?_
    exact ⟨outline_negation hinner.1, hinner.2⟩
  case signedOther =>
    intro p rest hk ih qs h
    obtain ⟨q, rest', rfl, hq, hrest⟩ := kinds_cons_eq h
    rw [signed, signed, hq]
    split
    · contradiction
    · exact ih _ h

end

/-! ## Lists -/

/-- Tokens whose parentheses are all closed. -/
inductive Balanced : List TokenKind → Prop where
  /-- No tokens. -/
  | nil : Balanced []
  /-- A token that is no parenthesis. -/
  | cons {k ks} : k ≠ .openParen → k ≠ .closeParen → Balanced ks → Balanced (k :: ks)
  /-- Tokens in parentheses. -/
  | group {inner ks} : Balanced inner → Balanced ks →
      Balanced (.openParen :: (inner ++ .closeParen :: ks))

theorem Balanced.append {ks ls : List TokenKind} (hk : Balanced ks) (hl : Balanced ls) :
    Balanced (ks ++ ls) := by
  induction hk with
  | nil => exact hl
  | cons hopen hclose _ ih => exact .cons hopen hclose ih
  | group hinner _ _ ih =>
    rw [List.cons_append, List.append_assoc, List.cons_append]
    exact .group hinner ih

/-- Does a list have a placeholder somewhere in it?  A list is what stands in parentheses with a
comma that is in no further parentheses. -/
def HasListedPlaceholder (ks : List TokenKind) : Prop :=
  ∃ inner inner' name, Balanced inner ∧ Balanced inner' ∧
    .placeholder name ∈ inner ++ inner' ∧
    .openParen :: (inner ++ .comma :: (inner' ++ [.closeParen])) <:+: ks

theorem HasListedPlaceholder.of_suffix {ps rest : List Piece} (hsuffix : rest <:+ ps)
    (h : HasListedPlaceholder (kinds rest)) : HasListedPlaceholder (kinds ps) := by
  obtain ⟨inner, inner', name, hinner, hinner', hname, hrun⟩ := h
  exact ⟨inner, inner', name, hinner, hinner', hname,
    hrun.trans (hsuffix.map _).isInfix⟩

/-- A placeholder in a list stands somewhere between parentheses. -/
theorem HasListedPlaceholder.sublist {ks : List TokenKind} (h : HasListedPlaceholder ks) :
    ∃ name, List.Sublist [.openParen, .placeholder name, .closeParen] ks := by
  obtain ⟨inner, inner', name, -, -, hname, hrun⟩ := h
  have hinner : List.Sublist [.placeholder name] (inner ++ .comma :: inner') :=
    (List.singleton_sublist.2 hname).trans ((List.sublist_cons_self .comma inner').append_left inner)
  have hclose := hinner.append (List.Sublist.refl [.closeParen])
  rw [List.append_assoc, List.cons_append] at hclose
  exact ⟨name, (hclose.cons_cons .openParen).trans hrun.sublist⟩

/-- **In what is read, every parenthesis is closed.** -/
theorem composes_balanced : Composes Balanced where
  nil := .nil
  append := .append
  single hopen hclose _ := .cons hopen hclose .nil
  notMember _ h := .cons nofun nofun h
  group h := .group h .nil

/-- The tokens behind a comma, up to a closing parenthesis. -/
theorem Takes.behind_comma {p c : Piece} {ps rest : List Piece}
    (h : Takes Balanced (p :: ps) (c :: rest)) (hp : p.token.kind = .comma)
    (hc : c.token.kind = .closeParen) : Takes Balanced ps (c :: rest) := by
  obtain ⟨front, heq, hfront⟩ := h
  cases front with
  | nil =>
    cases heq
    rw [hp] at hc
    cases hc
  | cons q front =>
    cases heq
    rw [kinds, List.map_cons, hp] at hfront
    cases hfront with
    | cons _ _ hrest => exact ⟨front, rfl, hrest⟩

/-! ## Counting placeholders -/

/-- Is the token a placeholder? -/
def isPlaceholder : TokenKind → Bool
  | .placeholder _ => true
  | _ => false

/-- The number of placeholders among some tokens. -/
def holes (ps : List Piece) : Nat :=
  (kinds ps).countP isPlaceholder

theorem holes_append (front rest : List Piece) : holes (front ++ rest) = holes front + holes rest := by
  rw [holes, kinds, List.map_append, List.countP_append, holes, holes, kinds, kinds]

theorem holes_cons_placeholder {p : Piece} {ps : List Piece} {name : Option String}
    (hk : p.token.kind = .placeholder name) : holes (p :: ps) = holes ps + 1 := by
  rw [holes, kinds, List.map_cons, List.countP_cons_of_pos (by rw [hk]; rfl), holes, kinds]

theorem holes_cons_other {p : Piece} {ps : List Piece} {k : TokenKind} (hk : p.token.kind = k)
    (h : isPlaceholder k = false) : holes (p :: ps) = holes ps := by
  subst hk
  rw [holes, kinds, List.map_cons, List.countP_cons_of_neg (by simp [h]), holes, kinds]

theorem holes_le_of_suffix {ps rest : List Piece} (h : rest <:+ ps) : holes rest ≤ holes ps :=
  (h.map _).sublist.countP_le

/-- What lies between tokens with as many placeholders has as many. -/
theorem holes_between {ps mid rest : List Piece} (hmid : mid <:+ ps) (hrest : rest <:+ mid)
    (h : holes ps = holes rest) : holes ps = holes mid ∧ holes mid = holes rest := by
  have := holes_le_of_suffix hmid
  have := holes_le_of_suffix hrest
  omega

/-- Without placeholders in lists, there is none in a list that is read. -/
theorem holes_of_list {p c d : Piece} {ps mid rest : List Piece} (hp : p.token.kind = .openParen)
    (hfirst : Takes Balanced ps (c :: mid)) (hc : c.token.kind = .comma)
    (hitems : Takes Balanced mid (d :: rest)) (hd : d.token.kind = .closeParen)
    (h : ¬ HasListedPlaceholder (kinds (p :: ps))) : holes ps = holes rest := by
  obtain ⟨inner, rfl, hinner⟩ := hfirst
  obtain ⟨inner', rfl, hinner'⟩ := hitems
  have hnone : holes (inner ++ inner') = 0 := by
    refine List.countP_eq_zero.2 fun k hk hplaceholder => ?_
    cases k with
    | placeholder name =>
      refine h ⟨_, _, name, hinner, hinner', by simpa [kinds] using hk, [], kinds rest, ?_⟩
      simp [kinds, hp, hc, hd]
    | _ => cases hplaceholder
  rw [holes_append] at hnone
  rw [holes_append, holes_cons_other hc rfl, holes_append, holes_cons_other hd rfl]
  omega

/-! ## Reading twins -/

/-- The same token, filled or not in both. -/
structure Twin (p q : Piece) : Prop where
  /-- The token is the same. -/
  token : p.token = q.token
  /-- Both have a value or neither has. -/
  filled : (∃ v, p.filling = .ok v) ↔ ∃ w, q.filling = .ok w

/-- The same tokens, filled or not alike. -/
abbrev Twins : List Piece → List Piece → Prop :=
  List.Forall₂ Twin

namespace Twins

variable {ps qs : List Piece} {p : Piece} {k : TokenKind}

theorem kinds_eq (h : Twins ps qs) : kinds ps = kinds qs := by
  induction h with
  | nil => rfl
  | cons hpq _ ih => exact congrArg₂ List.cons (congrArg Token.kind hpq.token) ih

theorem cons_inv (h : Twins (p :: ps) qs) : ∃ q rest, qs = q :: rest ∧ Twin p q ∧ Twins ps rest := by
  cases h with
  | cons hpq hrest => exact ⟨_, _, rfl, hpq, hrest⟩

theorem cons_kind (h : Twins (p :: ps) qs) (hk : p.token.kind = k) :
    ∃ q rest, qs = q :: rest ∧ q.token.kind = k ∧ Twins ps rest := by
  obtain ⟨q, rest, rfl, hpq, hrest⟩ := h.cons_inv
  exact ⟨q, rest, rfl, hpq.token ▸ hk, hrest⟩

theorem headNot (h : Twins ps qs) {test : TokenKind → Bool} (hn : HeadNot test ps) :
    HeadNot test qs := by
  cases h with
  | nil => exact hn
  | cons hpq _ =>
    rw [headNot_cons] at hn ⊢
    rwa [← hpq.token]

theorem negativeLiteral?_eq_none (h : Twins ps qs)
    (hnone : negativeLiteral? none ps = .ok none) : negativeLiteral? none qs = .ok none := by
  obtain ⟨found, hfound⟩ := negativeLiteral?_ok qs
  have hsame : Parallel (Option.Rel LeavesAlike) (negativeLiteral? none ps)
      (negativeLiteral? none qs) := parallel_negativeLiteral? h.kinds_eq
  rw [hnone, hfound] at hsame
  cases hsame
  exact hfound

end Twins

/-- A derivation from some tokens tells that their twins are read too, as the same expression if
no placeholder is read.  The rest of a chain is read behind any beginning, and the elements of a
list are read only without placeholders. -/
def Retells : Phrase → List Piece → Expr → List Piece → Prop
  | .extend level left, ps, e, rest => ∀ left' qs, Twins ps qs →
    ∃ e' last, Derives none (.extend level left') qs e' last ∧ Twins rest last ∧
      (holes ps = holes rest → left' = left → e' = e)
  | .items before, ps, e, rest => ∀ qs, Twins ps qs → holes ps = holes rest →
    ∃ last, Derives none (.items before) qs e last ∧ Twins rest last
  | phrase, ps, e, rest => ∀ qs, Twins ps qs →
    ∃ e' last, Derives none phrase qs e' last ∧ Twins rest last ∧
      (holes ps = holes rest → e' = e)

theorem unlisted_tail {p : Piece} {ps : List Piece} (h : ¬ HasListedPlaceholder (kinds (p :: ps))) :
    ¬ HasListedPlaceholder (kinds ps) :=
  mt (.of_suffix (List.suffix_cons p ps)) h

/-- **What derives from some tokens derives in outline from their twins**, if no list has a
placeholder in it. -/
theorem Derives.retold {phrase : Phrase} {ps rest : List Piece} {e : Expr}
    (d : Derives none phrase ps e rest) (h : ¬ HasListedPlaceholder (kinds ps)) :
    Retells phrase ps e rest := by
  induction d with
  | chain hd hd' ihFirst ihRest =>
    intro qs hqs
    obtain ⟨first', mid', hfirst, hmid, hsame⟩ := ihFirst h qs hqs
    obtain ⟨e', last, hrest, hlast, hsame'⟩ := ihRest (mt (.of_suffix hd.suffix) h) first' mid' hmid
    refine ⟨e', last, .chain hfirst hrest, hlast, fun hholes => ?_⟩
    obtain ⟨hleft, hright⟩ := holes_between hd.suffix hd'.suffix hholes
    exact hsame' hright (hsame hleft)
  | stop hn =>
    intro left' qs hqs
    exact ⟨left', qs, .stop (hqs.headNot hn), hqs, fun _ hleft => hleft⟩
  | @more level _ join p _ _ _ _ _ hj _ hd hd' ihRight ihRest =>
    intro left' qs hqs
    obtain ⟨q, after, rfl, hq, hafter⟩ := hqs.cons_kind rfl
    have htail := unlisted_tail h
    obtain ⟨right', mid', hright, hmid, hsame⟩ := ihRight htail after hafter
    obtain ⟨e', last, hrest, hlast, hsame'⟩ :=
      ihRest (mt (.of_suffix hd.suffix) htail) (join left' right') mid' hmid
    refine ⟨e', last, .more (hq ▸ hj) (clear_none _) hright hrest, hlast, fun hholes hleft => ?_⟩
    obtain ⟨-, hholes⟩ :=
      holes_between (List.suffix_cons p _) (hd'.suffix.trans hd.suffix) hholes
    obtain ⟨hoperand, hholes⟩ := holes_between hd.suffix hd'.suffix hholes
    exact hsame' hholes (by rw [hleft, hsame hoperand])
  | orOperand _ ih =>
    intro qs hqs
    obtain ⟨e', last, hd, hlast, hsame⟩ := ih h qs hqs
    exact ⟨e', last, .orOperand hd, hlast, hsame⟩
  | andOperand _ ih =>
    intro qs hqs
    obtain ⟨e', last, hd, hlast, hsame⟩ := ih h qs hqs
    exact ⟨e', last, .andOperand hd, hlast, hsame⟩
  | sumOperand _ ih =>
    intro qs hqs
    obtain ⟨e', last, hd, hlast, hsame⟩ := ih h qs hqs
    exact ⟨e', last, .sumOperand hd, hlast, hsame⟩
  | productOperand _ ih =>
    intro qs hqs
    obtain ⟨e', last, hd, hlast, hsame⟩ := ih h qs hqs
    exact ⟨e', last, .productOperand hd, hlast, hsame⟩
  | not hk _ _ ih =>
    intro qs hqs
    obtain ⟨q, after, rfl, hq, hafter⟩ := hqs.cons_kind hk
    obtain ⟨e', last, hd, hlast, hsame⟩ := ih (unlisted_tail h) after hafter
    refine ⟨_, last, .not hq (clear_none _) hd, hlast, fun hholes => ?_⟩
    rw [holes_cons_other hk rfl] at hholes
    rw [hsame hholes]
  | unnegated hn _ ih =>
    intro qs hqs
    obtain ⟨e', last, hd, hlast, hsame⟩ := ih h qs hqs
    exact ⟨e', last, .unnegated (hqs.headNot hn) hd, hlast, hsame⟩
  | sum _ hn ih =>
    intro qs hqs
    obtain ⟨e', last, hd, hlast, hsame⟩ := ih h qs hqs
    exact ⟨e', last, .sum hd (hlast.headNot hn), hlast, hsame⟩
  | isa _ hk hn _ ih =>
    intro qs hqs
    obtain ⟨e', mid, hd, hmid, hsame⟩ := ih h qs hqs
    obtain ⟨q, after, rfl, hq, hafter⟩ := hmid.cons_kind hk
    obtain ⟨m, last, rfl, hm, hlast⟩ := hafter.cons_kind hn
    refine ⟨_, last, .isa hd hq hm (clear_none _), hlast, fun hholes => ?_⟩
    rw [hsame (by rw [holes_cons_other hk rfl, holes_cons_other hn rfl, hholes])]
  | @compare _ _ p mid _ _ _ hd hk _ hd' hn ihLeft ihRight =>
    intro qs hqs
    obtain ⟨l', mid', hleft, hmid, hsame⟩ := ihLeft h qs hqs
    obtain ⟨q, after, rfl, hq, hafter⟩ := hmid.cons_kind hk
    obtain ⟨r', last, hright, hlast, hsame'⟩ :=
      ihRight (unlisted_tail (mt (.of_suffix hd.suffix) h)) after hafter
    refine ⟨_, last, .compare hleft hq (clear_none _) hright (hlast.headNot hn), hlast,
      fun hholes => ?_⟩
    obtain ⟨hholes, hholes'⟩ :=
      holes_between hd.suffix (hd'.suffix.trans (List.suffix_cons p mid)) hholes
    rw [holes_cons_other hk rfl] at hholes'
    rw [hsame hholes, hsame' hholes']
  | minus hk _ _ ih =>
    intro qs hqs
    obtain ⟨q, after, rfl, hq, hafter⟩ := hqs.cons_kind hk
    obtain ⟨e', last, hd, hlast, hsame⟩ := ih (unlisted_tail h) after hafter
    refine ⟨_, last, .minus hq (clear_none _) hd, hlast, fun hholes => ?_⟩
    rw [holes_cons_other hk rfl] at hholes
    rw [hsame hholes]
  | unsigned hn _ ih =>
    intro qs hqs
    obtain ⟨e', last, hd, hlast, hsame⟩ := ih h qs hqs
    exact ⟨e', last, .unsigned (hqs.headNot hn) hd, hlast, hsame⟩
  | literal hk _ =>
    intro qs hqs
    obtain ⟨q, last, rfl, hq, hlast⟩ := hqs.cons_kind hk
    exact ⟨_, last, .literal hq (clear_none _), hlast, fun _ => rfl⟩
  | filled hk hv _ =>
    intro qs hqs
    obtain ⟨q, last, rfl, hpq, hlast⟩ := hqs.cons_inv
    obtain ⟨w, hw⟩ := hpq.filled.1 ⟨_, hv⟩
    refine ⟨_, last, .filled (hpq.token ▸ hk) hw (clear_none _), hlast, fun hholes => ?_⟩
    rw [holes_cons_placeholder hk] at hholes
    omega
  | field hk _ hn =>
    intro qs hqs
    obtain ⟨q, last, rfl, hq, hlast⟩ := hqs.cons_kind hk
    exact ⟨_, last, .field hq (clear_none _) (hlast.headNot hn), hlast, fun _ => rfl⟩
  | within hk ho _ _ ih =>
    intro qs hqs
    obtain ⟨q, after, rfl, hq, hafter⟩ := hqs.cons_kind hk
    obtain ⟨o, body, rfl, ho', hbody⟩ := hafter.cons_kind ho
    obtain ⟨e', last, hd, hlast, hsame⟩ := ih (unlisted_tail (unlisted_tail h)) body hbody
    refine ⟨_, last, .within hq ho' (clear_none _) hd, hlast, fun hholes => ?_⟩
    rw [holes_cons_other hk rfl, holes_cons_other ho rfl] at hholes
    rw [hsame hholes]
  | @quantified _ _ _ _ quantifier _ _ _ _ hk hc ho _ _ ih =>
    intro qs hqs
    obtain ⟨q, after, rfl, hq, hafter⟩ := hqs.cons_kind hk
    obtain ⟨c, behind, rfl, hc', hbehind⟩ := hafter.cons_kind hc
    obtain ⟨o, body, rfl, ho', hbody⟩ := hbehind.cons_kind ho
    obtain ⟨e', last, hd, hlast, hsame⟩ :=
      ih (unlisted_tail (unlisted_tail (unlisted_tail h))) body hbody
    refine ⟨_, last, .quantified hq hc' ho' (clear_none _) hd, hlast, fun hholes => ?_⟩
    rw [holes_cons_other hk rfl, holes_cons_other hc rfl, holes_cons_other ho rfl] at hholes
    rw [hsame hholes]
  | component hk hc hn _ =>
    intro qs hqs
    obtain ⟨q, after, rfl, hq, hafter⟩ := hqs.cons_kind hk
    obtain ⟨c, behind, rfl, hc', hbehind⟩ := hafter.cons_kind hc
    obtain ⟨n, last, rfl, hn', hlast⟩ := hbehind.cons_kind hn
    exact ⟨_, last, .component hq hc' hn' (clear_none _), hlast, fun _ => rfl⟩
  | isaCurrent hk hn _ =>
    intro qs hqs
    obtain ⟨q, after, rfl, hq, hafter⟩ := hqs.cons_kind hk
    obtain ⟨n, last, rfl, hn', hlast⟩ := hafter.cons_kind hn
    exact ⟨_, last, .isaCurrent hq hn' (clear_none _), hlast, fun _ => rfl⟩
  | minusPrimary hk _ _ ih =>
    intro qs hqs
    obtain ⟨q, after, rfl, hq, hafter⟩ := hqs.cons_kind hk
    obtain ⟨e', last, hd, hlast, hsame⟩ := ih (unlisted_tail h) after hafter
    refine ⟨_, last, .minusPrimary hq (clear_none _) hd, hlast, fun hholes => ?_⟩
    rw [holes_cons_other hk rfl] at hholes
    rw [hsame hholes]
  | emptyList hk hc _ =>
    intro qs hqs
    obtain ⟨q, after, rfl, hq, hafter⟩ := hqs.cons_kind hk
    obtain ⟨c, last, rfl, hc', hlast⟩ := hafter.cons_kind hc
    exact ⟨_, last, .emptyList hq hc' (clear_none _), hlast, fun _ => rfl⟩
  | negative hk hm hn hv hc _ =>
    intro qs hqs
    obtain ⟨q, after, rfl, hq, hafter⟩ := hqs.cons_kind hk
    obtain ⟨m, behind, rfl, hm', hbehind⟩ := hafter.cons_kind hm
    obtain ⟨n, closing, rfl, hn', hclosing⟩ := hbehind.cons_kind hn
    obtain ⟨c, last, rfl, hc', hlast⟩ := hclosing.cons_kind hc
    exact ⟨_, last, .negative hq hm' hn' hv hc' (clear_none _), hlast, fun _ => rfl⟩
  | group hk _ hopen hneg _ hc _ ih =>
    intro qs hqs
    obtain ⟨q, after, rfl, hq, hafter⟩ := hqs.cons_kind hk
    obtain ⟨e', mid, hd, hmid, hsame⟩ := ih (unlisted_tail h) after hafter
    obtain ⟨c, last, rfl, hc', hlast⟩ := hmid.cons_kind hc
    refine ⟨e', last, .group hq (clear_none _) (hafter.headNot hopen)
      (hafter.negativeLiteral?_eq_none hneg) hd hc' (clear_none _), hlast, fun hholes => ?_⟩
    rw [holes_cons_other hk rfl] at hholes
    exact hsame (by rw [hholes, holes_cons_other hc rfl])
  | list hk _ hopen hneg hd hcomma hv hd' ihFirst ihItems =>
    intro qs hqs
    obtain ⟨q, after, rfl, hq, hafter⟩ := hqs.cons_kind hk
    have htail := unlisted_tail h
    obtain ⟨first', mid, hfirst, hmid, hsame⟩ := ihFirst htail after hafter
    -- there is no placeholder in this list, and so its first element is the same
    have hbalanced : Takes Balanced _ _ := hd.takes composes_balanced
    obtain ⟨close, hclose, hitems⟩ := hd'.takes composes_balanced
    obtain ⟨hholes, hholes'⟩ := holes_between hd.suffix hd'.suffix
      (holes_of_list hk hbalanced hcomma (hitems.behind_comma hcomma hclose) hclose h)
    obtain rfl := hsame hholes
    obtain ⟨last, hread, hlast⟩ := ihItems (mt (.of_suffix hd.suffix) htail) mid hmid hholes'
    obtain ⟨c, behind, rfl, hc', -⟩ := hmid.cons_kind hcomma
    exact ⟨_, last, .list hq (clear_none _) (hafter.headNot hopen)
      (hafter.negativeLiteral?_eq_none hneg) hfirst hc' hv hread, hlast, fun _ => rfl⟩
  | item hk _ hd hv hd' ihItem ihItems =>
    intro qs hqs hholes
    obtain ⟨q, after, rfl, hq, hafter⟩ := hqs.cons_kind hk
    have htail := unlisted_tail h
    obtain ⟨item', mid, hitem, hmid, hsame⟩ := ihItem htail after hafter
    rw [holes_cons_other hk rfl] at hholes
    obtain ⟨hholes, hholes'⟩ := holes_between hd.suffix hd'.suffix hholes
    obtain rfl := hsame hholes
    obtain ⟨last, hread, hlast⟩ := ihItems (mt (.of_suffix hd.suffix) htail) mid hmid hholes'
    exact ⟨last, .item hq (clear_none _) hitem hv hread, hlast⟩
  | close hk _ =>
    intro qs hqs hholes
    obtain ⟨q, last, rfl, hq, hlast⟩ := hqs.cons_kind hk
    exact ⟨last, .close hq (clear_none _), hlast⟩

end Grammar

open Grammar

/-! ## Parameters of one style -/

namespace Params

variable {given given' : Params}

/-- Parameters of one style have values for the same placeholders. -/
theorem SameStyle.filling (h : given.SameStyle given') (used : Nat) (name : Option String) :
    (∃ v, filling (some given) used name = .ok v) ↔
      ∃ v, filling (some given') used name = .ok v := by
  cases given with
  | positional values =>
    cases given' with
    | positional values' =>
      have hlength : values.length = values'.length := h
      simp [filling_positional, List.getElem?_eq_some_iff, hlength]
    | named _ => exact h.elim
  | named values =>
    cases given' with
    | positional _ => exact h.elim
    | named values' =>
      have hfilled (values : List (String × Value)) :
          (∃ v, Params.filling (some (.named values)) used name = .ok v) ↔
            ∃ spelling, name = some spelling ∧ spelling ∈ values.map (·.1) := by
        simp only [filling_named, ← exists_lookup_iff]
        exact ⟨fun ⟨v, spelling, hname, hv⟩ => ⟨spelling, hname, v, hv⟩,
          fun ⟨spelling, hname, v, hv⟩ => ⟨v, spelling, hname, hv⟩⟩
      rw [hfilled, hfilled]
      exact exists_congr fun spelling => and_congr_right fun _ => h spelling

/-- Parameters of one style fill the same placeholders. -/
theorem SameStyle.twins (h : given.SameStyle given') (tokens : List Token) :
    ∀ used, Twins (fill (some given) used tokens) (fill (some given') used tokens) := by
  induction tokens with
  | nil => exact fun _ => .nil
  | cons t ts ih =>
    intro used
    by_cases ht : ∃ name, t.kind = .placeholder name
    · obtain ⟨name, ht⟩ := ht
      rw [fill_of_placeholder ht, fill_of_placeholder ht]
      exact .cons ⟨rfl, h.filling used name⟩ (ih _)
    · rw [not_exists] at ht
      rw [fill_of_other ht, fill_of_other ht]
      exact .cons ⟨rfl, Iff.rfl⟩ (ih _)

/-- Parameters of one style fit the same tokens. -/
theorem SameStyle.fits {tokens : List Token} (h : given.SameStyle given') (hfits : given.Fits tokens) :
    given'.Fits tokens := by
  cases given with
  | positional values =>
    cases given' with
    | positional values' => exact ⟨hfits.1, hfits.2.trans h⟩
    | named _ => exact h.elim
  | named values =>
    cases given' with
    | positional _ => exact h.elim
    | named values' =>
      refine ⟨fun placeholder hmem => ?_, fun name hname => hfits.2 name ((h name).2 hname)⟩
      obtain ⟨name, rfl, hname⟩ := hfits.1 placeholder hmem
      exact ⟨name, rfl, (h name).1 hname⟩

end Params

namespace Query

variable {given given' : Params}

theorem ofTokens_sameStyle {tokens : List Token} {fault : Option LexError}
    (h : given.SameStyle given') (hlisted : ¬ HasListedPlaceholder (tokens.map Token.kind)) {q : Query}
    (hq : ofTokens tokens fault (some given) = .ok q) :
    ∃ q', ofTokens tokens fault (some given') = .ok q' := by
  obtain ⟨hclear, hd, hleft⟩ := ofTokens_eq_ok_iff.1 hq
  obtain rfl := hd.clear hclear rfl
  have hfits : given.Fits tokens := Params.fits_iff.2 ⟨hd.isFilled (by simp), hleft⟩
  obtain ⟨-, hleft'⟩ := Params.fits_iff.1 (h.fits hfits)
  rw [← kinds_fill (some given) tokens 0] at hlisted
  obtain ⟨e', last, hd', hlast, -⟩ := hd.retold hlisted _ (h.twins tokens 0)
  obtain rfl := List.forall₂_nil_left_iff.1 hlast
  exact ⟨⟨e'⟩, ofTokens_eq_ok_iff.2 ⟨clear_none _, hd', hleft'⟩⟩

/-- **Parameters of one style are read alike.**  With either of them, what a text is read as has
the same outline: no parameter is ever read as anything but a constant.  If no list of the text
has a placeholder in it, the text is read with both of them or with none. -/
theorem parse_sameStyle (h : given.SameStyle given') (source : String) :
    (∀ q q', parse source (some given) = .ok q → parse source (some given') = .ok q' →
      q.root.outline = q'.root.outline) ∧
    (¬ HasListedPlaceholder ((Input.ofText source).tokens.1.map Token.kind) →
      ((∃ q, parse source (some given) = .ok q) ↔ ∃ q', parse source (some given') = .ok q')) := by
  refine ⟨fun q q' hq hq' => ?outline, fun hlisted => ⟨?forward, ?backward⟩⟩
  case outline =>
    obtain ⟨_, hd, -⟩ := ofTokens_eq_ok_iff.1 hq
    obtain ⟨_, hd', -⟩ := ofTokens_eq_ok_iff.1 hq'
    obtain ⟨_, hread⟩ := hd.runs
    obtain ⟨_, hread'⟩ := hd'.runs
    have hkinds : kinds (Params.fill (some given) 0 (Input.ofText source).tokens.1) =
        kinds (Params.fill (some given') 0 (Input.ofText source).tokens.1) :=
      (h.twins _ 0).kinds_eq
    have hsame := (outline_all (Input.ofText source).tokens.2).1 .or _ _ hkinds
    rw [hread, hread'] at hsame
    exact hsame.1
  case forward =>
    rintro ⟨q, hq⟩
    exact ofTokens_sameStyle h hlisted hq
  case backward =>
    rintro ⟨q, hq⟩
    exact ofTokens_sameStyle h.symm hlisted hq

/-- A value that looks like a condition is a string like any other. -/
theorem parse_sameStyle_condition :
    ∃ q', parse "pid in (1, 2) and name == {}" (some (.positional [.string "x' or 1 == 1"])) =
        .ok q' ∧
      q'.root.outline = (Expr.and
        (.compare .member (.field ⟨["pid"]⟩) (.literal (.array [.integer 1, .integer 2])))
        (.compare .equal (.field ⟨["name"]⟩) (.literal (.string "init")))).outline := by
  have hread : parse "pid in (1, 2) and name == {}" (some (.positional [.string "init"])) =
      .ok ⟨.and
        (.compare .member (.field ⟨["pid"]⟩) (.literal (.array [.integer 1, .integer 2])))
        (.compare .equal (.field ⟨["name"]⟩) (.literal (.string "init")))⟩ := by
    with_unfolding_all rfl
  have hkinds : (Input.ofText "pid in (1, 2) and name == {}").tokens.1.map Token.kind =
      [.identifier "pid", .operator (.comparison .member), .openParen, .literal (.integer 1), .comma,
        .literal (.integer 2), .closeParen, .operator .and, .identifier "name",
        .operator (.comparison .equal), .placeholder none] := by
    with_unfolding_all rfl
  have hstyle : (Params.positional [.string "init"]).SameStyle
      (.positional [.string "x' or 1 == 1"]) := rfl
  have h := parse_sameStyle hstyle "pid in (1, 2) and name == {}"
  have hlisted : ¬ HasListedPlaceholder
      ((Input.ofText "pid in (1, 2) and name == {}").tokens.1.map Token.kind) := by
    intro hlisted
    obtain ⟨name, hsublist⟩ := hlisted.sublist
    rw [hkinds] at hsublist
    simp [List.cons_sublist_cons'] at hsublist
  obtain ⟨q', hq'⟩ := (h.2 hlisted).1 ⟨_, hread⟩
  exact ⟨q', hq', (h.1 _ _ hread hq').symm⟩

end Query

end FieldQuery
