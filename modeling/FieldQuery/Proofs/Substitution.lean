import FieldQuery.Proofs.Precedence
import Mathlib.Data.List.Forall2

/-!
# Templates

A query with placeholders is read as the query in which each of them is the literal that its
parameter makes of it.  So a parameter can only ever be a literal, wherever its placeholder
stands, and what a template reads as depends on its parameters in no other way.

The one exception is a placeholder behind a minus sign and alone with it in parentheses: a number
there is read together with its sign, and a placeholder is not.

* `Params.Fits` — every placeholder has a parameter and every parameter a placeholder.
* `Params.substitute` — the tokens with literals for the placeholders.
* `Params.fits_iff` — parameters fit exactly when they fill every placeholder and none is left
  over.
* `Grammar.Matching` — tokens that are the same once placeholders are literals.
* `Grammar.Derives.transfer` — what derives from some tokens derives from matching ones.
* `Query.parse_template` — a template is read as the tokens with literals in it.
-/

namespace FieldQuery

/-! ## Substitution -/

/-- The token with a literal in its place. -/
def Token.withLiteral (t : Token) (v : Value) : Token :=
  { t with kind := .literal v }

namespace Params

/-- Values for the placeholders without a name, first to last. -/
def substituteInOrder : List Value → List Token → List Token
  | _, [] => []
  | values, t :: ts =>
    match t.kind, values with
    | .placeholder none, v :: vs => t.withLiteral v :: substituteInOrder vs ts
    | _, _ => t :: substituteInOrder values ts

/-- The value of its name for a placeholder with a name. -/
def substituteByName (values : List (String × Value)) (t : Token) : Token :=
  match t.kind with
  | .placeholder (some name) => ((Value.lookup name values).map t.withLiteral).getD t
  | _ => t

/-- The tokens with literals for the placeholders. -/
def substitute : Params → List Token → List Token
  | .positional values, tokens => substituteInOrder values tokens
  | .named values, tokens => tokens.map (substituteByName values)

/-- Every placeholder has a parameter and every parameter has a placeholder. -/
def Fits : Params → List Token → Prop
  | .positional values, tokens =>
    (∀ placeholder ∈ placeholders tokens, placeholder = none) ∧
      (placeholders tokens).length = values.length
  | .named values, tokens =>
    (∀ placeholder ∈ placeholders tokens,
      ∃ name, placeholder = some name ∧ name ∈ values.map (·.1)) ∧
      ∀ name ∈ values.map (·.1), some name ∈ placeholders tokens

end Params

/-! ## Filling -/

/-- Does the token stand for a value? -/
def TokenKind.isValue : TokenKind → Bool
  | .literal _ | .placeholder _ => true
  | _ => false

/-- What the token is once its placeholder is filled. -/
def Piece.content (p : Piece) : TokenKind :=
  match p.token.kind, p.filling with
  | .placeholder _, .ok v => .literal v
  | kind, _ => kind

/-- The token is no placeholder, or it is one that is filled. -/
def Piece.IsFilled (p : Piece) : Prop :=
  ∀ name, p.content ≠ .placeholder name

section

variable {t : Token} {ts tokens : List Token} {name : Option String} {params : Option Params}
  {used : Nat}

theorem placeholders_of_placeholder (h : t.kind = .placeholder name) :
    placeholders (t :: ts) = name :: placeholders ts := by
  simp [placeholders, h]

theorem placeholders_of_other (h : ∀ name, t.kind ≠ .placeholder name) :
    placeholders (t :: ts) = placeholders ts := by
  unfold placeholders
  rw [List.filterMap_cons_none]
  split
  · exact absurd ‹_› (h _)
  · rfl

theorem Params.fill_of_placeholder (h : t.kind = .placeholder name) :
    fill params used (t :: ts) =
      ⟨t, filling params used name⟩ :: fill params (used + 1) ts := by
  simp [fill, h]

theorem Params.fill_of_other (h : ∀ name, t.kind ≠ .placeholder name) :
    fill params used (t :: ts) = ⟨t, .error .noParams⟩ :: fill params used ts := by
  rw [fill]
  split
  · exact absurd ‹_› (h _)
  · rfl

theorem content_of_other {filling : Except PlaceholderFault Value}
    (h : ∀ name, t.kind ≠ .placeholder name) : (⟨t, filling⟩ : Piece).content = t.kind := by
  unfold Piece.content
  split
  · exact absurd ‹_› (h _)
  · rfl

theorem content_of_placeholder {v : Value} (h : t.kind = .placeholder name) :
    (⟨t, .ok v⟩ : Piece).content = .literal v := by
  simp [Piece.content, h]

theorem isFilled_placeholder {filling : Except PlaceholderFault Value}
    (h : t.kind = .placeholder name) :
    (⟨t, filling⟩ : Piece).IsFilled ↔ ∃ v, filling = .ok v := by
  cases filling with
  | error e => simp [Piece.IsFilled, Piece.content, h]
  | ok v => simp [Piece.IsFilled, Piece.content, h]

theorem isFilled_other {filling : Except PlaceholderFault Value}
    (h : ∀ name, t.kind ≠ .placeholder name) : (⟨t, filling⟩ : Piece).IsFilled := by
  rw [Piece.IsFilled, content_of_other h]
  exact h

end

namespace Params

/-- Are all placeholders among the tokens filled? -/
def Fills (params : Params) (used : Nat) (tokens : List Token) : Prop :=
  ∀ p ∈ fill (some params) used tokens, p.IsFilled

section

variable {params : Params} {used : Nat} {t : Token} {ts : List Token}

theorem fills_cons_of_placeholder {name : Option String} (h : t.kind = .placeholder name) :
    params.Fills used (t :: ts) ↔
      (∃ v, filling (some params) used name = .ok v) ∧ params.Fills (used + 1) ts := by
  rw [Fills, fill_of_placeholder h, List.forall_mem_cons, isFilled_placeholder h, Fills]

theorem fills_cons_of_other (h : ∀ name, t.kind ≠ .placeholder name) :
    params.Fills used (t :: ts) ↔ params.Fills used ts := by
  rw [Fills, fill_of_other h, List.forall_mem_cons, Fills]
  exact and_iff_right (isFilled_other h)

end

theorem filling_positional {values : List Value} {used : Nat} {name : Option String} {v : Value} :
    filling (some (.positional values)) used name = .ok v ↔
      name = none ∧ values[used]? = some v := by
  cases name with
  | some name => simp [filling]
  | none => cases h : values[used]? <;> simp [filling, h]

theorem filling_named {values : List (String × Value)} {used : Nat} {name : Option String}
    {v : Value} : filling (some (.named values)) used name = .ok v ↔
      ∃ spelling, name = some spelling ∧ Value.lookup spelling values = some v := by
  cases name with
  | none => simp [filling]
  | some name => cases h : Value.lookup name values <;> simp [filling, h]

/-- A name has a value exactly if it is one of the names. -/
theorem exists_lookup_iff {values : List (String × Value)} {name : String} :
    (∃ v, Value.lookup name values = some v) ↔ name ∈ values.map (·.1) := by
  induction values with
  | nil => simp [Value.lookup]
  | cons pair rest ih =>
    obtain ⟨key, v⟩ := pair
    rw [Value.lookup, List.map_cons, List.mem_cons, ← ih]
    by_cases h : key = name
    · simp [h]
    · simp [h, Ne.symm h]

/-- Positional parameters fill as many placeholders without a name as there are parameters. -/
theorem fills_positional {values : List Value} {used : Nat} {tokens : List Token} :
    (Params.positional values).Fills used tokens ↔
      (∀ placeholder ∈ placeholders tokens, placeholder = none) ∧
        (placeholders tokens).length ≤ values.length - used := by
  induction tokens generalizing used with
  | nil => simp [Fills, fill, placeholders]
  | cons t ts ih =>
    by_cases h : ∃ name, t.kind = .placeholder name
    · obtain ⟨name, h⟩ := h
      have hfilling : (∃ v, filling (some (.positional values)) used name = .ok v) ↔
          name = none ∧ used < values.length := by
        simp [filling_positional, List.getElem?_eq_some_iff]
      rw [fills_cons_of_placeholder h, ih, placeholders_of_placeholder h, hfilling,
        List.forall_mem_cons, List.length_cons]
      constructor
      · rintro ⟨⟨hname, hused⟩, hnames, hlength⟩
        exact ⟨⟨hname, hnames⟩, by omega⟩
      · rintro ⟨⟨hname, hnames⟩, hlength⟩
        exact ⟨⟨hname, by omega⟩, hnames, by omega⟩
    · rw [not_exists] at h
      rw [fills_cons_of_other h, ih, placeholders_of_other h]

/-- Named parameters fill the placeholders with their names. -/
theorem fills_named {values : List (String × Value)} {used : Nat} {tokens : List Token} :
    (Params.named values).Fills used tokens ↔ ∀ placeholder ∈ placeholders tokens,
      ∃ name, placeholder = some name ∧ name ∈ values.map (·.1) := by
  induction tokens generalizing used with
  | nil => simp [Fills, fill, placeholders]
  | cons t ts ih =>
    by_cases h : ∃ name, t.kind = .placeholder name
    · obtain ⟨name, h⟩ := h
      have hfilling : (∃ v, filling (some (.named values)) used name = .ok v) ↔
          ∃ spelling, name = some spelling ∧ spelling ∈ values.map (·.1) := by
        simp only [filling_named, ← exists_lookup_iff]
        constructor
        · rintro ⟨v, spelling, hname, hv⟩
          exact ⟨spelling, hname, v, hv⟩
        · rintro ⟨spelling, hname, v, hv⟩
          exact ⟨v, spelling, hname, hv⟩
      rw [fills_cons_of_placeholder h, ih, placeholders_of_placeholder h, hfilling,
        List.forall_mem_cons]
    · rw [not_exists] at h
      rw [fills_cons_of_other h, ih, placeholders_of_other h]

/-- **Parameters fit exactly when they fill every placeholder and none is left over.** -/
theorem fits_iff {params : Params} {tokens : List Token} :
    params.Fits tokens ↔ params.Fills 0 tokens ∧ leftOver (some params) tokens = none := by
  cases params with
  | positional values =>
    have hleft : leftOver (some (.positional values)) tokens = none ↔
        values.length ≤ (placeholders tokens).length := by
      simp [leftOver]
    rw [fills_positional, hleft, Fits]
    constructor
    · rintro ⟨hnames, hlength⟩
      exact ⟨⟨hnames, by omega⟩, by omega⟩
    · rintro ⟨⟨hnames, hlength⟩, hused⟩
      exact ⟨hnames, by omega⟩
  | named values =>
    have hleft : leftOver (some (.named values)) tokens = none ↔
        ∀ name ∈ values.map (·.1), some name ∈ placeholders tokens := by
      simp [leftOver, List.filter_eq_nil_iff]
    rw [fills_named, hleft, Fits]

/-! ### Literals for placeholders -/

/-- The second token is what the first one is once it is filled, and is no placeholder. -/
def Settles (p p' : Piece) : Prop :=
  p'.token.kind = p.content ∧ p.IsFilled

theorem Settles.ne_placeholder {p p' : Piece} (h : Settles p p') :
    ∀ name, p'.token.kind ≠ .placeholder name := by
  rw [h.1]
  exact h.2

theorem Settles.content_eq {p p' : Piece} (h : Settles p p') : p.content = p'.content :=
  h.1.symm.trans (content_of_other h.ne_placeholder).symm

theorem settles_literal {t : Token} {name : Option String} (h : t.kind = .placeholder name)
    (v : Value) (filling : Except PlaceholderFault Value) :
    Settles ⟨t, .ok v⟩ ⟨t.withLiteral v, filling⟩ :=
  ⟨(content_of_placeholder h).symm, (isFilled_placeholder h).2 ⟨v, rfl⟩⟩

theorem settles_other {t : Token} (h : ∀ name, t.kind ≠ .placeholder name)
    (filling filling' : Except PlaceholderFault Value) : Settles ⟨t, filling⟩ ⟨t, filling'⟩ :=
  ⟨(content_of_other h).symm, isFilled_other h⟩

theorem withLiteral_ne_placeholder (t : Token) (v : Value) :
    ∀ name, (t.withLiteral v).kind ≠ .placeholder name := by
  rintro name ⟨⟩

theorem settles_positional {values : List Value} {used used' : Nat} {tokens : List Token}
    (h : (Params.positional values).Fills used tokens) :
    List.Forall₂ Settles (fill (some (.positional values)) used tokens)
      (fill none used' (substituteInOrder (values.drop used) tokens)) := by
  induction tokens generalizing used used' with
  | nil => simp [fill, substituteInOrder]
  | cons t ts ih =>
    by_cases ht : ∃ name, t.kind = .placeholder name
    · obtain ⟨name, ht⟩ := ht
      obtain ⟨⟨v, hv⟩, hrest⟩ := (fills_cons_of_placeholder ht).1 h
      obtain ⟨rfl, hvalue⟩ := filling_positional.1 hv
      obtain ⟨hused, hvalue⟩ := List.getElem?_eq_some_iff.1 hvalue
      have hsubstitute : substituteInOrder (values.drop used) (t :: ts) =
          t.withLiteral v :: substituteInOrder (values.drop (used + 1)) ts := by
        rw [List.drop_eq_getElem_cons hused, hvalue]
        simp [substituteInOrder, ht]
      rw [fill_of_placeholder ht, hv, hsubstitute,
        fill_of_other (withLiteral_ne_placeholder t v)]
      exact .cons (settles_literal ht v _) (ih hrest)
    · rw [not_exists] at ht
      have hsubstitute : substituteInOrder (values.drop used) (t :: ts) =
          t :: substituteInOrder (values.drop used) ts := by
        rw [substituteInOrder]
        exact fun _ _ hplaceholder _ => ht _ hplaceholder
      rw [hsubstitute, fill_of_other ht, fill_of_other ht]
      exact .cons (settles_other ht _ _) (ih ((fills_cons_of_other ht).1 h))

theorem settles_named {values : List (String × Value)} {used used' : Nat} {tokens : List Token}
    (h : (Params.named values).Fills used tokens) :
    List.Forall₂ Settles (fill (some (.named values)) used tokens)
      (fill none used' (tokens.map (substituteByName values))) := by
  induction tokens generalizing used used' with
  | nil => simp [fill]
  | cons t ts ih =>
    rw [List.map_cons]
    by_cases ht : ∃ name, t.kind = .placeholder name
    · obtain ⟨name, ht⟩ := ht
      obtain ⟨⟨v, hv⟩, hrest⟩ := (fills_cons_of_placeholder ht).1 h
      obtain ⟨spelling, rfl, hvalue⟩ := filling_named.1 hv
      have hsubstitute : substituteByName values t = t.withLiteral v := by
        simp [substituteByName, ht, hvalue]
      rw [fill_of_placeholder ht, hv, hsubstitute,
        fill_of_other (withLiteral_ne_placeholder t v)]
      exact .cons (settles_literal ht v _) (ih hrest)
    · rw [not_exists] at ht
      have hsubstitute : substituteByName values t = t := by
        unfold substituteByName
        split
        · exact absurd ‹_› (ht _)
        · rfl
      rw [hsubstitute, fill_of_other ht, fill_of_other ht]
      exact .cons (settles_other ht _ _) (ih ((fills_cons_of_other ht).1 h))

/-- The tokens with literals in them are the filled tokens. -/
theorem settles_substitute {params : Params} {tokens : List Token} (h : params.Fills 0 tokens) :
    List.Forall₂ Settles (fill (some params) 0 tokens)
      (fill none 0 (params.substitute tokens)) := by
  cases params with
  | positional values => exact settles_positional h
  | named values => exact settles_named h

end Params

namespace Piece

variable {p q : Piece} {k : TokenKind} {v : Value}

theorem content_eq_literal : p.content = .literal v ↔ p.token.kind = .literal v ∨
    ∃ name, p.token.kind = .placeholder name ∧ p.filling = .ok v := by
  obtain ⟨t, filling⟩ := p
  cases hk : t.kind <;> cases filling <;> simp [content, hk]

theorem content_of_kind (hk : p.token.kind = k) (hvalue : k.isValue = false) : p.content = k := by
  refine (content_of_other fun name hname => ?_).trans hk
  rw [← hk, hname] at hvalue
  cases hvalue

theorem kind_of_content (h : p.content = k) (hvalue : k.isValue = false) : p.token.kind = k := by
  obtain ⟨t, filling⟩ := p
  unfold content at h
  split at h
  · rw [← h] at hvalue
    cases hvalue
  · exact h

/-- What stands for no value is itself in matching tokens. -/
theorem kind_eq (h : p.content = q.content) (hk : p.token.kind = k) (hvalue : k.isValue = false) :
    q.token.kind = k :=
  kind_of_content (h.symm.trans (content_of_kind hk hvalue)) hvalue

end Piece

/-! ## Matching tokens -/

namespace Grammar

/-- Does a minus sign stand alone in parentheses with a placeholder somewhere? -/
def HasSignedPlaceholder (ks : List TokenKind) : Prop :=
  ∃ name, [.openParen, .operator (.sign .minus), .placeholder name, .closeParen] <:+: ks

theorem HasSignedPlaceholder.cons {k : TokenKind} {ks : List TokenKind}
    (h : HasSignedPlaceholder ks) : HasSignedPlaceholder (k :: ks) := by
  obtain ⟨name, hrun⟩ := h
  exact ⟨name, List.infix_cons hrun⟩

theorem hasSignedPlaceholder_of_kinds {o m n c : Piece} {rest : List Piece}
    {name : Option String} (ho : o.token.kind = .openParen)
    (hm : m.token.kind = .operator (.sign .minus)) (hn : n.token.kind = .placeholder name)
    (hc : c.token.kind = .closeParen) :
    HasSignedPlaceholder (kinds (o :: m :: n :: c :: rest)) := by
  refine ⟨name, [], kinds rest, ?_⟩
  simp [kinds, ho, hm, hn, hc]

/-- Tokens that are the same once placeholders are literals, if no placeholder among them stands
alone behind a minus sign in parentheses. -/
structure Matching (ps qs : List Piece) : Prop where
  /-- The tokens are the same, one by one. -/
  same : List.Forall₂ (fun p q => p.content = q.content) ps qs
  /-- No placeholder on the left stands alone behind a minus sign. -/
  left : ¬ HasSignedPlaceholder (kinds ps)
  /-- No placeholder on the right stands alone behind a minus sign. -/
  right : ¬ HasSignedPlaceholder (kinds qs)

namespace Matching

variable {ps qs : List Piece} {p q : Piece} {k : TokenKind}

theorem symm (h : Matching ps qs) : Matching qs ps :=
  ⟨h.same.flip.imp fun _ _ => Eq.symm, h.right, h.left⟩

theorem cons_inv (h : Matching (p :: ps) qs) :
    ∃ q rest, qs = q :: rest ∧ p.content = q.content ∧ Matching ps rest := by
  obtain ⟨hsame, hleft, hright⟩ := h
  cases hsame with
  | cons hpq hrest =>
    exact ⟨_, _, rfl, hpq, hrest, fun hsigned => hleft hsigned.cons,
      fun hsigned => hright hsigned.cons⟩

/-- A token that stands for no value is matched by one of its kind. -/
theorem cons_kind (h : Matching (p :: ps) qs) (hk : p.token.kind = k) (hvalue : k.isValue = false) :
    ∃ q rest, qs = q :: rest ∧ q.token.kind = k ∧ Matching ps rest := by
  obtain ⟨q, rest, rfl, hpq, hrest⟩ := h.cons_inv
  exact ⟨q, rest, rfl, Piece.kind_eq hpq hk hvalue, hrest⟩

theorem nil_left (h : Matching [] qs) : qs = [] := by
  cases h.same
  rfl

/-- A test that fails for values fails for matching tokens alike. -/
theorem headNot (h : Matching ps qs) {test : TokenKind → Bool}
    (hliteral : ∀ v, test (.literal v) = false)
    (hplaceholder : ∀ name, test (.placeholder name) = false) (hn : HeadNot test ps) : HeadNot test qs := by
  cases ps with
  | nil =>
    rw [h.nil_left]
    exact headNot_nil _
  | cons p ps =>
    obtain ⟨q, rest, rfl, hpq, -⟩ := h.cons_inv
    rw [headNot_cons] at hn ⊢
    cases hq : q.token.kind with
    | literal v => exact hliteral v
    | placeholder name => exact hplaceholder name
    | _ => rwa [Piece.kind_eq hpq.symm hq rfl] at hn

/-- A negative number alone in parentheses is matched by one. -/
theorem negative_right {o m n c : Piece} {rest : List Piece} {v : Value}
    (h : Matching (o :: m :: n :: c :: rest) qs) (ho : o.token.kind = .openParen)
    (hm : m.token.kind = .operator (.sign .minus)) (hn : n.token.kind = .literal v)
    (hc : c.token.kind = .closeParen) :
    ∃ o' m' n' c' rest', qs = o' :: m' :: n' :: c' :: rest' ∧ o'.token.kind = .openParen ∧
      m'.token.kind = .operator (.sign .minus) ∧ n'.token.kind = .literal v ∧
      c'.token.kind = .closeParen ∧ Matching rest rest' := by
  have hsigned := h.right
  obtain ⟨o', _, rfl, ho', hafter⟩ := h.cons_kind ho rfl
  obtain ⟨m', _, rfl, hm', hbehind⟩ := hafter.cons_kind hm rfl
  obtain ⟨n', _, rfl, hnn', hlast⟩ := hbehind.cons_inv
  obtain ⟨c', rest', rfl, hc', hrest⟩ := hlast.cons_kind hc rfl
  refine ⟨o', m', n', c', rest', rfl, ho', hm', ?_, hc', hrest⟩
  obtain hn' | ⟨name, hn', -⟩ :=
    Piece.content_eq_literal.1 (hnn'.symm.trans (Piece.content_eq_literal.2 (.inl hn)))
  · exact hn'
  · exact absurd (hasSignedPlaceholder_of_kinds ho' hm' hn' hc') hsigned

/-- Where no negative number stands alone in parentheses, none is matched. -/
theorem negativeLiteral?_eq_none (h : Matching (p :: ps) (q :: qs))
    (hp : p.token.kind = .openParen) (hnone : negativeLiteral? none ps = .ok none) :
    negativeLiteral? none qs = .ok none := by
  obtain ⟨found, hfound⟩ := negativeLiteral?_ok qs
  cases found with
  | none => exact hfound
  | some step =>
    exfalso
    obtain ⟨negated, rest, hlt⟩ := step
    obtain ⟨m, n, c, v, rfl, hm, hn, hv, hc, hclear⟩ := negativeLiteral?_eq_some hfound
    obtain ⟨q', _, heq, hq, -⟩ := h.cons_kind hp rfl
    cases heq
    obtain ⟨o', m', n', c', rest', heq, -, hm', hn', hc', -⟩ := h.symm.negative_right hq hm hn hc
    cases heq
    obtain ⟨_, hsome⟩ := negativeLiteral?_of_negative hm' hn' hv hc' (clear_none rest')
    rw [hnone] at hsome
    cases hsome

end Matching

/-- A token that is a literal once it is filled is read as that literal. -/
theorem derives_of_content {q : Piece} {rest : List Piece} {v : Value}
    (h : q.content = .literal v) : Derives none .primary (q :: rest) (.literal v) rest := by
  obtain hk | ⟨name, hk, hv⟩ := Piece.content_eq_literal.1 h
  · exact .literal hk (clear_none _)
  · exact .filled hk hv (clear_none _)

/-- **What derives from some tokens derives from matching ones.** -/
theorem Derives.transfer {phrase : Phrase} {ps rest : List Piece} {e : Expr}
    (d : Derives none phrase ps e rest) {qs : List Piece} (h : Matching ps qs) :
    ∃ last, Derives none phrase qs e last ∧ Matching rest last := by
  induction d generalizing qs with
  | chain _ _ ihFirst ihRest =>
    obtain ⟨mid, hfirst, hmid⟩ := ihFirst h
    obtain ⟨last, hrest, hlast⟩ := ihRest hmid
    exact ⟨last, .chain hfirst hrest, hlast⟩
  | @stop level _ _ hn =>
    have hn' : HeadNot (joins level) qs := by
      cases level <;> exact h.headNot (fun _ => rfl) (fun _ => rfl) hn
    exact ⟨qs, .stop hn', h⟩
  | @more level _ _ p _ _ _ _ _ hj _ _ _ ihRight ihRest =>
    have hvalue : p.token.kind.isValue = false := by
      cases hk : p.token.kind with
      | literal v => cases level <;> simp [hk, join?] at hj
      | placeholder name => cases level <;> simp [hk, join?] at hj
      | _ => rfl
    obtain ⟨q, after, rfl, hq, hafter⟩ := h.cons_kind rfl hvalue
    obtain ⟨mid, hright, hmid⟩ := ihRight hafter
    obtain ⟨last, hrest, hlast⟩ := ihRest hmid
    exact ⟨last, .more (hq ▸ hj) (clear_none _) hright hrest, hlast⟩
  | orOperand _ ih =>
    obtain ⟨last, hd, hlast⟩ := ih h
    exact ⟨last, .orOperand hd, hlast⟩
  | andOperand _ ih =>
    obtain ⟨last, hd, hlast⟩ := ih h
    exact ⟨last, .andOperand hd, hlast⟩
  | sumOperand _ ih =>
    obtain ⟨last, hd, hlast⟩ := ih h
    exact ⟨last, .sumOperand hd, hlast⟩
  | productOperand _ ih =>
    obtain ⟨last, hd, hlast⟩ := ih h
    exact ⟨last, .productOperand hd, hlast⟩
  | not hk _ _ ih =>
    obtain ⟨q, after, rfl, hq, hafter⟩ := h.cons_kind hk rfl
    obtain ⟨last, hd, hlast⟩ := ih hafter
    exact ⟨last, .not hq (clear_none _) hd, hlast⟩
  | unnegated hn _ ih =>
    obtain ⟨last, hd, hlast⟩ := ih h
    exact ⟨last, .unnegated (h.headNot (fun _ => rfl) (fun _ => rfl) hn) hd, hlast⟩
  | sum _ hn ih =>
    obtain ⟨last, hd, hlast⟩ := ih h
    exact ⟨last, .sum hd (hlast.headNot (fun _ => rfl) (fun _ => rfl) hn), hlast⟩
  | isa _ hk hn _ ih =>
    obtain ⟨mid, hd, hmid⟩ := ih h
    obtain ⟨q, after, rfl, hq, hafter⟩ := hmid.cons_kind hk rfl
    obtain ⟨m, last, rfl, hm, hlast⟩ := hafter.cons_kind hn rfl
    exact ⟨last, .isa hd hq hm (clear_none _), hlast⟩
  | compare _ hk _ _ hn ihLeft ihRight =>
    obtain ⟨mid, hleft, hmid⟩ := ihLeft h
    obtain ⟨q, after, rfl, hq, hafter⟩ := hmid.cons_kind hk rfl
    obtain ⟨last, hright, hlast⟩ := ihRight hafter
    have hn' := hlast.headNot (fun _ => rfl) (fun _ => rfl) hn
    exact ⟨last, .compare hleft hq (clear_none _) hright hn', hlast⟩
  | minus hk _ _ ih =>
    obtain ⟨q, after, rfl, hq, hafter⟩ := h.cons_kind hk rfl
    obtain ⟨last, hd, hlast⟩ := ih hafter
    exact ⟨last, .minus hq (clear_none _) hd, hlast⟩
  | unsigned hn _ ih =>
    obtain ⟨last, hd, hlast⟩ := ih h
    exact ⟨last, .unsigned (h.headNot (fun _ => rfl) (fun _ => rfl) hn) hd, hlast⟩
  | literal hk _ =>
    obtain ⟨q, last, rfl, hpq, hlast⟩ := h.cons_inv
    exact ⟨last, derives_of_content (hpq ▸ Piece.content_eq_literal.2 (.inl hk)), hlast⟩
  | filled hk hv _ =>
    obtain ⟨q, last, rfl, hpq, hlast⟩ := h.cons_inv
    exact ⟨last, derives_of_content (hpq ▸ Piece.content_eq_literal.2 (.inr ⟨_, hk, hv⟩)), hlast⟩
  | field hk _ hn =>
    obtain ⟨q, last, rfl, hq, hlast⟩ := h.cons_kind hk rfl
    have hn' := hlast.headNot (fun _ => rfl) (fun _ => rfl) hn
    exact ⟨last, .field hq (clear_none _) hn', hlast⟩
  | within hk ho _ _ ih =>
    obtain ⟨q, after, rfl, hq, hafter⟩ := h.cons_kind hk rfl
    obtain ⟨o, body, rfl, ho', hbody⟩ := hafter.cons_kind ho rfl
    obtain ⟨last, hd, hlast⟩ := ih hbody
    exact ⟨last, .within hq ho' (clear_none _) hd, hlast⟩
  | quantified hk hc ho _ _ ih =>
    obtain ⟨q, after, rfl, hq, hafter⟩ := h.cons_kind hk rfl
    obtain ⟨c, behind, rfl, hc', hbehind⟩ := hafter.cons_kind hc rfl
    obtain ⟨o, body, rfl, ho', hbody⟩ := hbehind.cons_kind ho rfl
    obtain ⟨last, hd, hlast⟩ := ih hbody
    exact ⟨last, .quantified hq hc' ho' (clear_none _) hd, hlast⟩
  | component hk hc hn _ =>
    obtain ⟨q, after, rfl, hq, hafter⟩ := h.cons_kind hk rfl
    obtain ⟨c, behind, rfl, hc', hbehind⟩ := hafter.cons_kind hc rfl
    obtain ⟨n, last, rfl, hn', hlast⟩ := hbehind.cons_kind hn rfl
    exact ⟨last, .component hq hc' hn' (clear_none _), hlast⟩
  | isaCurrent hk hn _ =>
    obtain ⟨q, after, rfl, hq, hafter⟩ := h.cons_kind hk rfl
    obtain ⟨n, last, rfl, hn', hlast⟩ := hafter.cons_kind hn rfl
    exact ⟨last, .isaCurrent hq hn' (clear_none _), hlast⟩
  | minusPrimary hk _ _ ih =>
    obtain ⟨q, after, rfl, hq, hafter⟩ := h.cons_kind hk rfl
    obtain ⟨last, hd, hlast⟩ := ih hafter
    exact ⟨last, .minusPrimary hq (clear_none _) hd, hlast⟩
  | emptyList hk hc _ =>
    obtain ⟨q, after, rfl, hq, hafter⟩ := h.cons_kind hk rfl
    obtain ⟨c, last, rfl, hc', hlast⟩ := hafter.cons_kind hc rfl
    exact ⟨last, .emptyList hq hc' (clear_none _), hlast⟩
  | negative hk hm hn hv hc _ =>
    obtain ⟨_, _, _, _, last, rfl, hk', hm', hn', hc', hlast⟩ := h.negative_right hk hm hn hc
    exact ⟨last, .negative hk' hm' hn' hv hc' (clear_none _), hlast⟩
  | group hk _ hopen hneg _ hc _ ih =>
    obtain ⟨q, after, rfl, hq, hafter⟩ := h.cons_kind hk rfl
    obtain ⟨mid, hd, hmid⟩ := ih hafter
    obtain ⟨c, last, rfl, hc', hlast⟩ := hmid.cons_kind hc rfl
    have hopen' := hafter.headNot (fun _ => rfl) (fun _ => rfl) hopen
    have hneg' := h.negativeLiteral?_eq_none hk hneg
    exact ⟨last, .group hq (clear_none _) hopen' hneg' hd hc' (clear_none _), hlast⟩
  | list hk _ hopen hneg _ hcomma hv _ ihFirst ihItems =>
    obtain ⟨q, after, rfl, hq, hafter⟩ := h.cons_kind hk rfl
    obtain ⟨mid, hfirst, hmid⟩ := ihFirst hafter
    obtain ⟨last, hitems, hlast⟩ := ihItems hmid
    obtain ⟨c, behind, rfl, hcomma', -⟩ := hmid.cons_kind hcomma rfl
    have hopen' := hafter.headNot (fun _ => rfl) (fun _ => rfl) hopen
    have hneg' := h.negativeLiteral?_eq_none hk hneg
    exact ⟨last, .list hq (clear_none _) hopen' hneg' hfirst hcomma' hv hitems, hlast⟩
  | item hk _ _ hv _ ihItem ihItems =>
    obtain ⟨q, after, rfl, hq, hafter⟩ := h.cons_kind hk rfl
    obtain ⟨mid, hitem, hmid⟩ := ihItem hafter
    obtain ⟨last, hitems, hlast⟩ := ihItems hmid
    exact ⟨last, .item hq (clear_none _) hitem hv hitems, hlast⟩
  | close hk _ =>
    obtain ⟨q, last, rfl, hq, hlast⟩ := h.cons_kind hk rfl
    exact ⟨last, .close hq (clear_none _), hlast⟩

/-! ## Whole texts -/

section

variable {fault : Option LexError} {phrase : Phrase} {ps rest : List Piece} {e : Expr}

/-- What is read ends where the text is malformed only if it begins there. -/
theorem Derives.clear (d : Derives fault phrase ps e rest) (h : Clear fault ps) :
    Clear fault rest := by
  induction d with
  | chain _ _ ihFirst ihRest => exact ihRest (ihFirst h)
  | stop _ => exact h
  | more _ hc _ _ ihRight ihRest => exact ihRest (ihRight hc)
  | orOperand _ ih | andOperand _ ih | sumOperand _ ih | productOperand _ ih
  | unnegated _ _ ih | sum _ _ ih | unsigned _ _ ih => exact ih h
  | not _ hc _ ih | minus _ hc _ ih | within _ _ hc _ ih | quantified _ _ _ hc _ ih
  | minusPrimary _ hc _ ih => exact ih hc
  | compare _ _ hc _ _ _ ihRight => exact ihRight hc
  | isa _ _ _ hc | literal _ hc | filled _ _ hc | field _ hc | component _ _ _ hc
  | isaCurrent _ _ hc | emptyList _ _ hc | negative _ _ _ _ _ hc | close _ hc => exact hc
  | group _ _ _ _ _ _ hc => exact hc
  | list _ _ _ _ _ _ _ _ _ ihItems => exact ihItems (clear_cons _ _ _)
  | item _ hc _ _ _ ihItem ihItems => exact ihItems (ihItem hc)

theorem isFilled_cons {p : Piece} {k : TokenKind} (hk : p.token.kind = k)
    (hother : ∀ name, k ≠ .placeholder name) (h : ∀ q ∈ rest, q.IsFilled) :
    ∀ q ∈ p :: rest, q.IsFilled := by
  subst hk
  exact List.forall_mem_cons.2 ⟨isFilled_other hother, h⟩

/-- All placeholders that are read are filled. -/
theorem Derives.isFilled (d : Derives fault phrase ps e rest)
    (h : ∀ p ∈ rest, p.IsFilled) : ∀ p ∈ ps, p.IsFilled := by
  induction d with
  | chain _ _ ihFirst ihRest => exact ihFirst (ihRest h)
  | stop _ => exact h
  | @more level _ _ p _ _ _ _ _ hj _ _ _ ihRight ihRest =>
    refine isFilled_cons rfl (fun name hk => ?_) (ihRight (ihRest h))
    cases level <;> simp [hk, join?] at hj
  | orOperand _ ih | andOperand _ ih | sumOperand _ ih | productOperand _ ih
  | unnegated _ _ ih | sum _ _ ih | unsigned _ _ ih => exact ih h
  | not hk _ _ ih | minus hk _ _ ih | minusPrimary hk _ _ ih =>
    exact isFilled_cons hk nofun (ih h)
  | isa _ hk hn _ ih => exact ih (isFilled_cons hk nofun (isFilled_cons hn nofun h))
  | compare _ hk _ _ _ ihLeft ihRight => exact ihLeft (isFilled_cons hk nofun (ihRight h))
  | literal hk _ | field hk _ _ => exact isFilled_cons hk nofun h
  | filled hk hv _ =>
    exact List.forall_mem_cons.2 ⟨(isFilled_placeholder hk).2 ⟨_, hv⟩, h⟩
  | within hk ho _ _ ih => exact isFilled_cons hk nofun (isFilled_cons ho nofun (ih h))
  | quantified hk hc ho _ _ ih =>
    exact isFilled_cons hk nofun (isFilled_cons hc nofun (isFilled_cons ho nofun (ih h)))
  | component hk hc hn _ =>
    exact isFilled_cons hk nofun (isFilled_cons hc nofun (isFilled_cons hn nofun h))
  | isaCurrent hk hn _ => exact isFilled_cons hk nofun (isFilled_cons hn nofun h)
  | emptyList hk hc _ => exact isFilled_cons hk nofun (isFilled_cons hc nofun h)
  | negative hk hm hn _ hc _ =>
    exact isFilled_cons hk nofun (isFilled_cons hm nofun
      (isFilled_cons hn nofun (isFilled_cons hc nofun h)))
  | group hk _ _ _ _ hc _ ih => exact isFilled_cons hk nofun (ih (isFilled_cons hc nofun h))
  | list hk _ _ _ _ _ _ _ ihFirst ihItems => exact isFilled_cons hk nofun (ihFirst (ihItems h))
  | item hk _ _ _ _ ihItem ihItems => exact isFilled_cons hk nofun (ihItem (ihItems h))
  | close hk _ => exact isFilled_cons hk nofun h

end

end Grammar

open Grammar

/-! ## Templates -/

/-- Filled tokens match the tokens with literals in them. -/
theorem Params.matching_substitute {params : Params} {tokens : List Token}
    (h : params.Fills 0 tokens) (hsigned : ¬ HasSignedPlaceholder (tokens.map Token.kind)) :
    Matching (fill (some params) 0 tokens) (fill none 0 (params.substitute tokens)) := by
  have hsettles := settles_substitute h
  refine ⟨hsettles.imp fun _ _ => Settles.content_eq, ?left, ?right⟩
  case left => rwa [kinds_fill]
  case right =>
    rintro ⟨name, hrun⟩
    obtain ⟨q, hq, hk⟩ := List.mem_map.1 (hrun.subset (show .placeholder name ∈ _ by simp))
    -- no placeholder is left among the substituted tokens
    have hsettled : List.Forall₂
        (fun q p => (∀ name, q.token.kind ≠ .placeholder name) ∧ Settles p q)
        (fill none 0 (params.substitute tokens)) (fill (some params) 0 tokens) :=
      hsettles.flip.imp fun _ _ (hpq : Settles _ _) => ⟨hpq.ne_placeholder, hpq⟩
    exact ((List.forall₂_and_left _ _).1 hsettled).1 q hq name hk

namespace Query

theorem ofTokens_eq_ok_iff {tokens : List Token} {fault : Option LexError}
    {params : Option Params} {q : Query} :
    ofTokens tokens fault params = .ok q ↔ Clear fault (Params.fill params 0 tokens) ∧
      Derives fault (.chain .or) (Params.fill params 0 tokens) q.root [] ∧
      Params.leftOver params tokens = none := by
  rw [ofTokens, bind_eq_ok]
  constructor
  · rintro ⟨root, hroot, h⟩
    split at h
    · cases h
    · cases h
      obtain ⟨hclear, hd⟩ := query_eq_ok_iff.1 hroot
      exact ⟨hclear, hd, ‹_›⟩
  · rintro ⟨hclear, hd, hleft⟩
    exact ⟨q.root, query_eq_ok_iff.2 ⟨hclear, hd⟩, by rw [hleft]⟩

/-- Tokens with placeholders are read as the tokens with literals in them. -/
theorem ofTokens_template {tokens : List Token} {fault : Option LexError} {params : Params}
    {q : Query} (hsigned : ¬ HasSignedPlaceholder (tokens.map Token.kind)) :
    ofTokens tokens fault (some params) = .ok q ↔
      params.Fits tokens ∧ ofTokens (params.substitute tokens) fault none = .ok q := by
  rw [ofTokens_eq_ok_iff, ofTokens_eq_ok_iff, Params.fits_iff]
  constructor
  · rintro ⟨hclear, hd, hleft⟩
    obtain rfl := hd.clear hclear rfl
    have hfills : params.Fills 0 tokens := hd.isFilled (by simp)
    obtain ⟨last, hd', hlast⟩ := hd.transfer (Params.matching_substitute hfills hsigned)
    obtain rfl := hlast.nil_left
    exact ⟨⟨hfills, hleft⟩, clear_none _, hd', rfl⟩
  · rintro ⟨⟨hfills, hleft⟩, hclear, hd, -⟩
    obtain rfl := hd.clear hclear rfl
    obtain ⟨last, hd', hlast⟩ := hd.transfer (Params.matching_substitute hfills hsigned).symm
    obtain rfl := hlast.nil_left
    exact ⟨clear_none _, hd', hleft⟩

/-- **A template is read as the tokens with literals in it.**  With parameters, a text is read as
some query exactly if the parameters fit its placeholders and its tokens with the parameters as
literals are read as that query without parameters, unless a placeholder stands in it behind a
minus sign and alone with it in parentheses. -/
theorem parse_template {source : String} {params : Params} {q : Query}
    (hsigned : ¬ HasSignedPlaceholder ((Input.ofText source).tokens.1.map Token.kind)) :
    parse source (some params) = .ok q ↔
      params.Fits (Input.ofText source).tokens.1 ∧
      ofTokens (params.substitute (Input.ofText source).tokens.1) (Input.ofText source).tokens.2
        none = .ok q :=
  ofTokens_template hsigned

-- alone in parentheses, a number is one literal with its sign, and a placeholder is not
example : parse "(-{})" (some (.positional [.integer 5])) =
      .ok ⟨.negation (.literal (.integer 5))⟩ ∧
    parse "(-5)" none = .ok ⟨.literal (.integer (-5))⟩ :=
  ⟨by with_unfolding_all rfl, by with_unfolding_all rfl⟩

/-- A list of a negated and a plain placeholder, for which there are parameters by name. -/
theorem parse_template_range :
    parse "pid in (-{low}, {high})" (some (.named [("high", .integer 9), ("low", .integer 4)])) =
      .ok ⟨.compare .member (.field ⟨["pid"]⟩) (.literal (.array [.integer (-4), .integer 9]))⟩ := by
  have hkinds : (Input.ofText "pid in (-{low}, {high})").tokens.1.map Token.kind =
      [.identifier "pid", .operator (.comparison .member), .openParen, .operator (.sign .minus),
        .placeholder (some "low"), .comma, .placeholder (some "high"), .closeParen] := by
    with_unfolding_all rfl
  have hplaceholders : placeholders (Input.ofText "pid in (-{low}, {high})").tokens.1 =
      [some "low", some "high"] := by
    with_unfolding_all rfl
  refine (parse_template ?signed).2 ⟨?fits, ?read⟩
  case signed =>
    rw [hkinds]
    simp [HasSignedPlaceholder, List.infix_cons_iff]
  case fits => simp [Params.Fits, hplaceholders]
  case read => with_unfolding_all rfl

end Query

end FieldQuery
