import FieldQuery.Proofs.Precedence

/-!
# The tokens of an expression

What is read as an expression are the tokens before those that are left.  A property of these
tokens need only be looked at for single tokens, for tokens in parentheses and for tokens one
after the other.

* `Grammar.Takes` — the tokens before the rest have a property.
* `Grammar.Composes` — a property that goes along with how expressions are put together.
* `Grammar.Derives.takes` — the tokens of what is read have every such property.
* `Grammar.Derives.suffix` — what is left is the end of what there was.
-/

namespace FieldQuery

namespace Grammar

/-- The tokens before the rest have the property. -/
def Takes (P : List TokenKind → Prop) (ps rest : List Piece) : Prop :=
  ∃ front, ps = front ++ rest ∧ P (kinds front)

/-- A property of tokens that goes along with how expressions are put together. -/
structure Composes (P : List TokenKind → Prop) : Prop where
  /-- No tokens have it. -/
  nil : P []
  /-- Tokens have it together if they have it apart. -/
  append {ks ls} : P ks → P ls → P (ks ++ ls)
  /-- A token other than a parenthesis or `not in` has it. -/
  single {k} : k ≠ .openParen → k ≠ .closeParen → k ≠ .operator (.comparison .notMember) → P [k]
  /-- `not in` has it before what an expression can begin with. -/
  notMember {k ks} : begins k = true → P (k :: ks) →
    P (.operator (.comparison .notMember) :: k :: ks)
  /-- Tokens in parentheses have it. -/
  group {ks} : P ks → P (.openParen :: (ks ++ [.closeParen]))

namespace Takes

variable {P : List TokenKind → Prop} {ps mid rest : List Piece} {p c : Piece} {k : TokenKind}

theorem refl (hP : Composes P) (ps : List Piece) : Takes P ps ps :=
  ⟨[], rfl, hP.nil⟩

theorem trans (hP : Composes P) (h : Takes P ps mid) (h' : Takes P mid rest) :
    Takes P ps rest := by
  obtain ⟨front, rfl, hfront⟩ := h
  obtain ⟨front', rfl, hfront'⟩ := h'
  refine ⟨front ++ front', by simp, ?_⟩
  rw [kinds, List.map_append]
  exact hP.append hfront hfront'

theorem cons (hP : Composes P) (hk : p.token.kind = k) (hopen : k ≠ .openParen)
    (hclose : k ≠ .closeParen) (hnot : k ≠ .operator (.comparison .notMember))
    (h : Takes P ps rest) : Takes P (p :: ps) rest := by
  subst hk
  exact trans hP ⟨[p], rfl, hP.single hopen hclose hnot⟩ h

theorem group (hP : Composes P) (hp : p.token.kind = .openParen) (h : Takes P ps (c :: rest))
    (hc : c.token.kind = .closeParen) : Takes P (p :: ps) rest := by
  obtain ⟨front, rfl, hfront⟩ := h
  refine ⟨p :: (front ++ [c]), by simp, ?_⟩
  have hkinds : kinds (p :: (front ++ [c])) = .openParen :: (kinds front ++ [.closeParen]) := by
    simp [kinds, hp, hc]
  rw [hkinds]
  exact hP.group hfront

theorem notMember (hP : Composes P) (hp : p.token.kind = .operator (.comparison .notMember))
    (hc : begins c.token.kind = true) (h : Takes P (c :: ps) rest)
    (hlt : rest.length < (c :: ps).length) : Takes P (p :: c :: ps) rest := by
  obtain ⟨front, heq, hfront⟩ := h
  cases front with
  | nil =>
    rw [heq] at hlt
    exact absurd hlt (Nat.lt_irrefl _)
  | cons q front =>
    cases heq
    refine ⟨p :: c :: front, rfl, ?_⟩
    rw [kinds, List.map_cons, hp]
    exact hP.notMember hc hfront

theorem suffix (h : Takes P ps rest) : rest <:+ ps := by
  obtain ⟨front, rfl, -⟩ := h
  exact List.suffix_append front rest

end Takes

/-- What the tokens that a phrase takes have.  The elements of a list are read with its closing
parenthesis, which no parenthesis among them opens. -/
def Phrase.Spans (P : List TokenKind → Prop) : Phrase → List Piece → List Piece → Prop
  | .items _, ps, rest => ∃ c, c.token.kind = .closeParen ∧ Takes P ps (c :: rest)
  | _, ps, rest => Takes P ps rest

section

variable {P : List TokenKind → Prop} {fault : Option LexError} {phrase : Phrase}
  {ps rest : List Piece} {e : Expr}

/-- An expression has at least one token. -/
theorem Derives.shorter {level : Chain} (d : Derives fault (.chain level) ps e rest) :
    rest.length < ps.length := by
  obtain ⟨h, -⟩ := d.runs
  exact h

/-- **The tokens of what is read have every property that composes.** -/
theorem Derives.takes (hP : Composes P) (d : Derives fault phrase ps e rest) :
    phrase.Spans P ps rest := by
  induction d with
  | chain _ _ ihFirst ihRest => exact .trans hP ihFirst ihRest
  | stop _ => exact .refl hP _
  | @more level _ _ p _ _ _ _ _ hj _ _ _ ihRight ihRest =>
    refine .cons hP rfl ?_ ?_ ?_ (.trans hP ihRight ihRest) <;>
    · intro hk
      cases level <;> simp [hk, join?] at hj
  | orOperand _ ih | andOperand _ ih | sumOperand _ ih | productOperand _ ih
  | unnegated _ _ ih | sum _ _ ih | unsigned _ _ ih => exact ih
  | not hk _ _ ih | minus hk _ _ ih | minusPrimary hk _ _ ih =>
    exact .cons hP hk nofun nofun nofun ih
  | isa _ hk hn _ ih =>
    exact .trans hP ih (.cons hP hk nofun nofun nofun (.cons hP hn nofun nofun nofun (.refl hP _)))
  | @compare _ _ p _ c _ _ _ hk _ hd _ ihLeft ihRight =>
    refine .trans hP ihLeft ?_
    by_cases hc : c = .notMember
    · subst hc
      obtain ⟨q, tail, rfl, hq⟩ := hd.begins trivial
      exact .notMember hP hk hq ihRight hd.shorter
    · exact .cons hP hk nofun nofun (by simpa using hc) ihRight
  | literal hk _ | filled hk _ _ | field hk _ _ =>
    exact .cons hP hk nofun nofun nofun (.refl hP _)
  | within hk ho _ _ ih =>
    exact .cons hP hk nofun nofun nofun (.cons hP ho nofun nofun nofun ih)
  | quantified hk hc ho _ _ ih =>
    exact .cons hP hk nofun nofun nofun
      (.cons hP hc nofun nofun nofun (.cons hP ho nofun nofun nofun ih))
  | component hk hc hn _ =>
    exact .cons hP hk nofun nofun nofun
      (.cons hP hc nofun nofun nofun (.cons hP hn nofun nofun nofun (.refl hP _)))
  | isaCurrent hk hn _ =>
    exact .cons hP hk nofun nofun nofun (.cons hP hn nofun nofun nofun (.refl hP _))
  | emptyList hk hc _ => exact .group hP hk (.refl hP _) hc
  | negative hk hm hn _ hc _ =>
    exact .group hP hk
      (.cons hP hm nofun nofun nofun (.cons hP hn nofun nofun nofun (.refl hP _))) hc
  | group hk _ _ _ _ hc _ ih => exact .group hP hk ih hc
  | list hk _ _ _ _ _ _ _ ihFirst ihItems =>
    obtain ⟨d, hd, hitems⟩ := ihItems
    exact .group hP hk (.trans hP ihFirst hitems) hd
  | item hk _ _ _ _ ihItem ihItems =>
    obtain ⟨d, hd, hitems⟩ := ihItems
    exact ⟨d, hd, .cons hP hk nofun nofun nofun (.trans hP ihItem hitems)⟩
  | close hk _ => exact ⟨_, hk, .refl hP _⟩

/-- What is left is the end of what there was. -/
theorem Derives.suffix (d : Derives fault phrase ps e rest) : rest <:+ ps := by
  have hany : Composes fun _ => True :=
    ⟨trivial, fun _ _ => trivial, fun _ _ _ => trivial, fun _ _ => trivial, fun _ => trivial⟩
  have hspans := d.takes hany
  cases phrase with
  | items before =>
    obtain ⟨c, -, h⟩ := hspans
    exact (List.suffix_cons c rest).trans h.suffix
  | _ => exact Takes.suffix (P := fun _ => True) hspans

end

end Grammar

end FieldQuery
