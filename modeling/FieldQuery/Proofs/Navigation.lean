import FieldQuery.Proofs.FieldTexts
import FieldQuery.Proofs.Operands

/-!
# Navigation and its body

The body of a navigation is an operand of `and`, and what is read behind it is read as if the body
stood alone.  But the navigation itself is something without operands, so that signs, comparisons
and `isa` that the body had to leave are tried again behind it.  A text that such an operator
makes unreadable becomes readable behind a path and an arrow.

* `Query.Opens` — the operand that a text begins with, and what follows it.
* `Query.Overruns` — an operator of the tighter kind follows this operand.
* `Grammar.Derives.navigation`, `Grammar.Derives.of_navigation` — from a body to the navigation,
  and back.
* `Query.opens_bare` — a text overruns only behind an `isa` test, or with `isa` behind a comparison.
* `Query.parse_navigation` — which texts are read behind a path and an arrow, and as what.
-/

namespace FieldQuery

namespace Grammar

/-- Does the token bind the expression before it tighter than `and` does, once it is read? -/
def isTight : TokenKind → Bool
  | .operator (.comparison _) | .operator (.sign _) | .keyword .isa => true
  | _ => false

theorem grip_of_isTight {kind : TokenKind} (h : isTight kind = true) : 2 < grip kind := by
  unfold isTight at h
  split at h
  · simp [grip]
  · rename_i sign
    cases sign <;> simp [grip]
  · simp [grip]
  · cases h

/-- A token follows an operand loosely or tightly, or as navigation. -/
theorem grip_le_or (kind : TokenKind) :
    grip kind ≤ 2 ∨ isNavigator kind = true ∨ isTight kind = true := by
  unfold grip isNavigator isTight
  split <;> simp_all

variable {fault : Option LexError} {ps rest : List Piece} {p o : Piece} {e : Expr}
  {spelling : String} {navigator : Navigator}

/-- A path and a navigation operator are followed by a body. -/
theorem Derives.body_of_primary (d : Derives fault .primary (p :: o :: ps) e rest)
    (hp : p.token.kind = .identifier spelling)
    (ho : o.token.kind = .operator (.navigation navigator)) :
    ∃ body, Derives fault .negation ps body rest ∧
      e = .within (.field (Path.ofText spelling)) body := by
  cases d with
  | field _ _ hn => simp [ho, isNavigator] at hn
  | within hk _ _ hbody =>
    rw [hp] at hk
    cases hk
    exact ⟨_, hbody, rfl⟩
  | @quantified _ _ _ _ quantifier _ _ _ _ hk =>
    rw [hp] at hk
    cases hk
  | literal hk | filled hk | component hk | isaCurrent hk | minusPrimary hk | emptyList hk
  | negative hk | group hk | list hk =>
    rw [hp] at hk
    cases hk

/-- **A body that is read on its own is read behind a path and a navigation operator**, and what
it begins with is the body of the navigation. -/
theorem Derives.navigation (d : Derives fault (.chain .or) ps e [])
    (hp : p.token.kind = .identifier spelling)
    (ho : o.token.kind = .operator (.navigation navigator)) (hc : Clear fault ps) :
    ∃ n mid ands ors, Derives fault .negation ps n mid ∧ Loose 2 mid ∧ e = chained n ands ors ∧
      Derives fault (.chain .or) (p :: o :: ps)
        (chained (.within (.field (Path.ofText spelling)) n) ands ors) [] := by
  obtain ⟨n, mid, ands, ors, hn, hmid, rfl, hchain⟩ := d.operands (loose_nil 0)
  have hwithin := (Derives.within hp ho hc hn).negation_of_primary (by simp [hp, isMinus]) hmid
  exact ⟨n, mid, ands, ors, hn, hmid, rfl, hchain _ _ hwithin⟩

/-- **What is read behind a path and a navigation operator is read on its own**, unless its first
operand has an operator behind it that binds tighter than `and`. -/
theorem Derives.of_navigation (d : Derives fault (.chain .or) (p :: o :: ps) e [])
    (hp : p.token.kind = .identifier spelling)
    (ho : o.token.kind = .operator (.navigation navigator)) :
    (∃ body, Derives fault (.chain .or) ps body []) ∨
      ∃ n k rest, Derives fault .negation ps n (k :: rest) ∧ isTight k.token.kind = true := by
  obtain ⟨n, mid, ands, ors, hnegation, hmid, -, hchain⟩ := d.operands (loose_nil 0)
  obtain ⟨first, behind, hprimary, hnavigator, hlone⟩ :=
    hnegation.primary_of_negation (by simp [hp, isNot]) (by simp [hp, isMinus])
  obtain ⟨body, hbody, -⟩ := hprimary.body_of_primary hp ho
  by_cases hloose : Loose 2 behind
  · obtain ⟨-, rfl⟩ := hlone hloose
    exact .inl ⟨_, hchain ps body hbody⟩
  · cases behind with
    | nil => exact absurd (loose_nil 2) hloose
    | cons k behind =>
      rw [headNot_cons] at hnavigator
      rcases grip_le_or k.token.kind with hgrip | hnav | htight
      · exact absurd (loose_cons hgrip) hloose
      · rw [hnavigator] at hnav
        cases hnav
      · exact .inr ⟨body, k, behind, hbody, htight⟩

end Grammar

/-- The expression behind any number of `not`. -/
def Expr.bare : Expr → Expr
  | .not e => e.bare
  | e => e

namespace Grammar

/-- **An operand has an operator behind it that binds tighter than `and`** only if it is an `isa`
test, or a comparison, and then the operator is `isa`. -/
theorem Derives.bare_of_isTight (d : Derives fault .negation ps e (p :: rest))
    (ht : isTight p.token.kind = true) :
    (∃ inner typeName, e.bare = .isInstance inner typeName) ∨
      p.token.kind = .keyword .isa ∧ ∃ relation l r, e.bare = .compare relation l r := by
  generalize hphrase : Phrase.negation = phrase at d
  generalize hlast : p :: rest = last at d
  induction d with
  | not _ _ _ ih => exact ih hphrase hlast
  | unnegated _ hcomparison _ =>
    clear hphrase
    cases hcomparison with
    | sum hsum hend =>
      subst hlast
      rw [headNot_cons] at hend
      unfold isTight at ht
      split at ht
      · simp_all [continuesComparison]
      · exact absurd ‹_› (hsum.ne_sign _)
      · simp_all [continuesComparison]
      · cases ht
    | isa _ _ _ _ => exact .inl ⟨_, _, rfl⟩
    | @compare _ _ _ _ c _ _ _ _ _ hright hend =>
      subst hlast
      rw [headNot_cons] at hend
      right
      unfold isTight at ht
      split at ht
      · simp_all [isComparator]
      · exact absurd ‹_› (hright.ne_sign _)
      · exact ⟨by assumption, by cases c <;> exact ⟨_, _, _, rfl⟩⟩
      · cases ht
  | _ => cases hphrase

end Grammar

namespace Query

open Grammar

/-- A text begins with this operand of `and`, and tokens of these kinds follow it. -/
def Opens (source : String) (operand : Expr) (after : List TokenKind) : Prop :=
  ∃ rest, Reaches (negation (Input.ofText source).tokens.2
    (Params.fill none 0 (Input.ofText source).tokens.1)) operand rest ∧ kinds rest = after

/-- Behind the operand that a text begins with stands a sign, a comparison operator or `isa`. -/
def Overruns (source : String) : Prop :=
  ∃ operand k after, Opens source operand (k :: after) ∧ isTight k = true

/-- A text overruns behind an `isa` test, or with `isa` behind a comparison. -/
theorem opens_bare {source : String} {operand : Expr} {k : TokenKind} {after : List TokenKind}
    (h : Opens source operand (k :: after)) (ht : isTight k = true) :
    (∃ inner typeName, operand.bare = .isInstance inner typeName) ∨
      k = .keyword .isa ∧ ∃ relation l r, operand.bare = .compare relation l r := by
  obtain ⟨rest, ⟨hlt, hreads⟩, hkinds⟩ := h
  obtain ⟨p, rest, rfl, rfl, -⟩ := kinds_eq_cons hkinds
  have hd := derives_sound_all.2.2.2.2.2.1 _ _ hreads
  exact hd.bare_of_isTight ht

theorem opens_iff {source : String} {ts : List Token} {n : Expr} {after : List TokenKind}
    (htokens : (Input.ofText source).tokens = (ts, none)) : Opens source n after ↔
      ∃ rest, Reaches (negation none (Params.fill none 0 ts)) n rest ∧ kinds rest = after := by
  rw [Opens, htokens]

/-- The tokens of a text behind a path and an arrow. -/
theorem kinds?_navigation {p t s : String} (hp : kinds? p = some [.identifier t]) :
    kinds? (p ++ " -> " ++ s) =
      (kinds? s).map (.identifier t :: .operator (.navigation .arrow) :: ·) := by
  have htext : p ++ " -> " ++ s = p ++ (" " ++ ("->" ++ (" " ++ s))) := by
    rw [← String.toList_inj]
    simp
  have harrow : ("->" ++ (" " ++ s)).toList = '-' :: '>' :: (" " ++ s).toList := by simp
  rw [htext, kinds?_path_space hp, kinds?_of_scan harrow (by decide) rfl rfl, kinds?_space_append,
    Option.map_map]
  rfl

/-- What a text is read as is read behind a path and an arrow, with the navigation in the place of
the first operand; and then the text does not overrun. -/
theorem parse_behind_arrow {p t s : String} {e : Expr} (hp : kinds? p = some [.identifier t])
    (h : parse s none = .ok ⟨e⟩) : ¬ Overruns s ∧
    ∃ n after ands ors, Opens s n after ∧ e = chained n ands ors ∧
      parse (p ++ " -> " ++ s) none =
        .ok ⟨chained (.within (.field (Path.ofText t)) n) ands ors⟩ := by
  obtain ⟨ks, hks, hdenotes⟩ := parse_eq_ok_iff.1 h
  obtain ⟨ts, htokens, hps⟩ := exists_tokens hks
  let path : Piece := ⟨⟨.identifier t, 0⟩, .error .noParams⟩
  let arrow : Piece := ⟨⟨.operator (.navigation .arrow), 0⟩, .error .noParams⟩
  obtain ⟨n, mid, ands, ors, hn, hmid, rfl, hd⟩ :=
    (hdenotes.derives _ hps).navigation (p := path) (o := arrow) rfl rfl (clear_none _)
  have hkinds : kinds (path :: arrow :: Params.fill none 0 ts) =
      .identifier t :: .operator (.navigation .arrow) :: ks := by
    rw [← hps]
    rfl
  refine ⟨?overruns, n, kinds mid, ands, ors, (opens_iff htokens).2 ⟨mid, hn.runs, rfl⟩, rfl, ?read⟩
  case overruns =>
    rintro ⟨operand, k, after, hopens, htight⟩
    obtain ⟨rest, hreads, hrest⟩ := (opens_iff htokens).1 hopens
    -- the operand is the one that the text is read with, and what follows that one is loose
    obtain ⟨-, rfl⟩ := hreads.unique hn.runs
    obtain ⟨q, rest, rfl, rfl, -⟩ := kinds_eq_cons hrest
    exact absurd (hmid q rfl) (Nat.not_le.2 (grip_of_isTight htight))
  case read =>
    refine parse_eq_ok_iff.2 ⟨kinds (path :: arrow :: Params.fill none 0 ts), ?_, hd.denotes ?_⟩
    · rw [hkinds, kinds?_navigation hp, hks]
      rfl
    · rw [hkinds]
      simpa using hdenotes.placeholder_notMem

/-- What is read behind a path and an arrow is read on its own, unless it overruns. -/
theorem parse_of_behind_arrow {p t s : String} {e : Expr} (hp : kinds? p = some [.identifier t])
    (h : parse (p ++ " -> " ++ s) none = .ok ⟨e⟩) :
    (∃ q, parse s none = .ok q) ∨ Overruns s := by
  obtain ⟨ks, hks, hdenotes⟩ := parse_eq_ok_iff.1 h
  rw [kinds?_navigation hp, Option.map_eq_some_iff] at hks
  obtain ⟨ks, hks, rfl⟩ := hks
  obtain ⟨ts, htokens, hps⟩ := exists_tokens hks
  let path : Piece := ⟨⟨.identifier t, 0⟩, .error .noParams⟩
  let arrow : Piece := ⟨⟨.operator (.navigation .arrow), 0⟩, .error .noParams⟩
  have hd := hdenotes.derives (path :: arrow :: Params.fill none 0 ts) (by rw [← hps]; rfl)
  rcases hd.of_navigation (p := path) (o := arrow) rfl rfl with
    ⟨body, hbody⟩ | ⟨n, k, rest, hn, htight⟩
  · left
    refine ⟨⟨body⟩, parse_eq_ok_iff.2 ⟨ks, hks, ?_⟩⟩
    rw [← hps]
    refine hbody.denotes fun name hmem => hdenotes.placeholder_notMem name ?_
    rw [hps] at hmem
    exact List.mem_cons_of_mem _ (List.mem_cons_of_mem _ hmem)
  · exact .inr ⟨n, _, _, (opens_iff htokens).2 ⟨_, hn.runs, rfl⟩, htight⟩

/-- **Navigation and its body.**  A text is read on its own exactly if it is read behind a path and
an arrow and does not overrun.  Then what it begins with is the body of the navigation, and the
rest is read as before. -/
theorem parse_navigation {p t s : String} {i : Nat} (hp : tokenize p = .ok [⟨.identifier t, i⟩]) :
    ((∃ q, parse s none = .ok q) ↔
      (∃ q, parse (p ++ " -> " ++ s) none = .ok q) ∧ ¬ Overruns s) ∧
    ∀ e, parse s none = .ok ⟨e⟩ → ∃ n after ands ors, Opens s n after ∧ e = chained n ands ors ∧
      parse (p ++ " -> " ++ s) none =
        .ok ⟨chained (.within (.field (Path.ofText t)) n) ands ors⟩ := by
  have hkinds : kinds? p = some [.identifier t] := by rw [kinds?, hp]; rfl
  refine ⟨⟨?alone, ?behind⟩, ?tree⟩
  case alone =>
    rintro ⟨q, hq⟩
    obtain ⟨hrun, n, after, ands, ors, -, -, hread⟩ := parse_behind_arrow hkinds hq
    exact ⟨⟨_, hread⟩, hrun⟩
  case behind =>
    rintro ⟨⟨q, hq⟩, hrun⟩
    exact (parse_of_behind_arrow hkinds hq).resolve_right hrun
  case tree =>
    intro e he
    exact (parse_behind_arrow hkinds he).2

/-- A body that ends at `and`, behind a path of two names. -/
theorem parse_navigation_conjunction :
    let whole : Expr := .and (.not (.field ⟨["x"]⟩)) (.field ⟨["y"]⟩)
    tokenize "team/lead" = .ok [⟨.identifier "team/lead", 0⟩] ∧
      parse "not x and y" none = .ok ⟨whole⟩ ∧ ¬ Overruns "not x and y" ∧
      ∃ n after ands ors, Opens "not x and y" n after ∧ whole = chained n ands ors ∧
        parse ("team/lead" ++ " -> " ++ "not x and y") none =
          .ok ⟨chained (.within (.field (Path.ofText "team/lead")) n) ands ors⟩ := by
  intro whole
  have hp : tokenize "team/lead" = .ok [⟨.identifier "team/lead", 0⟩] := by with_unfolding_all rfl
  have hs : parse "not x and y" none = .ok ⟨whole⟩ := by with_unfolding_all rfl
  obtain ⟨hiff, htree⟩ := @parse_navigation "team/lead" "team/lead" "not x and y" 0 hp
  exact ⟨hp, hs, (hiff.1 ⟨_, hs⟩).2, htree whole hs⟩

/-- An `isa` test and a comparison that nothing may follow but `and` or `or`, and that a comparison,
`isa` and a sign follow behind a path and an arrow. -/
theorem parse_behind_arrow_overrun :
    parse "a isa T == b" none =
        .error (.grammar (some ⟨.operator (.comparison .equal), 8⟩) .trailing) ∧
      parse ("p" ++ " -> " ++ "a isa T == b") none = .ok ⟨.compare .equal
        (.within (.field ⟨["p"]⟩) (.isInstance (.field ⟨["a"]⟩) "T")) (.field ⟨["b"]⟩)⟩ ∧
      parse "a == b isa T" none = .error (.grammar (some ⟨.keyword .isa, 7⟩) .trailing) ∧
      parse ("p" ++ " -> " ++ "a == b isa T") none = .ok ⟨.isInstance
        (.within (.field ⟨["p"]⟩) (.compare .equal (.field ⟨["a"]⟩) (.field ⟨["b"]⟩))) "T"⟩ ∧
      parse "x isa T * 2" none =
        .error (.grammar (some ⟨.operator (.sign .times), 8⟩) .trailing) ∧
      parse ("p" ++ " -> " ++ "x isa T * 2") none = .ok ⟨.arithmetic .multiply
        (.within (.field ⟨["p"]⟩) (.isInstance (.field ⟨["x"]⟩) "T")) (.literal (.integer 2))⟩ := by
  with_unfolding_all exact ⟨rfl, rfl, rfl, rfl, rfl, rfl⟩

end Query

end FieldQuery
