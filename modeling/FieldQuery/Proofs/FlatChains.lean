import FieldQuery.Proofs.Spans
import FieldQuery.Proofs.Substitution

/-!
# Chains of operators

Operands without parts, with an operator between any two of them, are grouped by the precedence of
the operators alone: the last of the loosest operators comes to the top, and what is on either side
of it is grouped in the same way.  They are no query where two comparisons stand with neither `and`
nor `or` between them.

* `Flat` — a flat chain: an atom, and any number of operators with an atom behind each.
* `Flat.split?` — the last of the loosest operators, and what is on its sides.
* `Flat.tree` — the expression that is split there, on both sides again and again.
* `NonChaining` — at most one comparison between any two connectives.
* `Flat.groups_tree` — a chain without chained comparisons is read as its tree.
* `Grammar.Derives.holds` — what is read of flat tokens has no chained comparisons.
* `Query.ofTokens_flat` — what the tokens of a flat chain are read as.
-/

namespace FieldQuery

open Grammar

/-! ## Atoms and operators -/

/-- An operand without parts. -/
inductive Atom where
  /-- A number or string. -/
  | literal (value : Value)
  /-- A field path as it is spelled. -/
  | field (spelling : String)

namespace Atom

/-- The token of an atom. -/
def kind : Atom → TokenKind
  | .literal v => .literal v
  | .field spelling => .identifier spelling

/-- The expression for an atom. -/
def expr : Atom → Expr
  | .literal v => .literal v
  | .field spelling => .field (Path.ofText spelling)

end Atom

/-- An operator between two operands. -/
inductive Infix where
  /-- Disjunction. -/
  | or
  /-- Conjunction. -/
  | and
  /-- A comparison. -/
  | comparison (c : Comparator)
  /-- Arithmetic. -/
  | sign (s : Sign)
  deriving DecidableEq, Repr

namespace Infix

/-- The token of an operator. -/
def kind : Infix → TokenKind
  | .or => .operator .or
  | .and => .operator .and
  | .comparison c => .operator (.comparison c)
  | .sign s => .operator (.sign s)

/-- How tightly an operator binds, from `or` to `*` and `/`. -/
def rank : Infix → Nat
  | .or => 0
  | .and => 1
  | .comparison _ => 2
  | .sign .plus | .sign .minus => 3
  | .sign .times | .sign .slash => 4

/-- The expression for an operator and its operands. -/
def node : Infix → Expr → Expr → Expr
  | .or, l, r => .or l r
  | .and, l, r => .and l r
  | .comparison .is, l, r | .comparison .equal, l, r => .compare .equal l r
  | .comparison .isNot, l, r | .comparison .notEqual, l, r => .not (.compare .equal l r)
  | .comparison .member, l, r => .compare .member l r
  | .comparison .notMember, l, r => .not (.compare .member l r)
  | .comparison .greater, l, r => .compare .greater l r
  | .comparison .greaterEqual, l, r => .compare .atLeast l r
  | .comparison .less, l, r => .compare .greater r l
  | .comparison .lessEqual, l, r => .compare .atLeast r l
  | .comparison .search, l, r => .compare .search l r
  | .sign .plus, l, r => .arithmetic .add l r
  | .sign .minus, l, r => .arithmetic .subtract l r
  | .sign .times, l, r => .arithmetic .multiply l r
  | .sign .slash, l, r => .arithmetic .divide l r

/-- Is the operator `and` or `or`? -/
def isConnective : Infix → Bool
  | .or | .and => true
  | _ => false

/-- Is the operator a comparison? -/
def isComparison : Infix → Bool
  | .comparison _ => true
  | _ => false

/-- The operator that a token is. -/
def ofKind? : TokenKind → Option Infix
  | .operator .or => some .or
  | .operator .and => some .and
  | .operator (.comparison c) => some (.comparison c)
  | .operator (.sign s) => some (.sign s)
  | _ => none

@[simp] theorem ofKind?_kind (op : Infix) : ofKind? op.kind = some op := by
  cases op <;> rfl

@[simp] theorem ofKind?_atom (a : Atom) : ofKind? a.kind = none := by
  cases a <;> rfl

theorem rank_le (op : Infix) : op.rank ≤ 4 := by
  cases op with
  | sign s => cases s <;> decide
  | _ => exact Nat.le_of_ble_eq_true rfl

/-- The operators of a chain are those of its rank, with the nodes of these. -/
theorem join?_kind {level : Chain} {op : Infix} (h : op.rank = strength level) :
    join? level op.kind = some op.node := by
  cases op with
  | comparison c => cases level <;> cases h
  | sign s => cases level <;> cases s <;> first | rfl | cases h
  | _ => cases level <;> first | rfl | cases h

/-- An operator that goes on with a chain is one of its rank. -/
theorem ofKind?_of_join? {level : Chain} {k : TokenKind} {join : Expr → Expr → Expr}
    (h : join? level k = some join) : ∃ op, ofKind? k = some op ∧ op.rank = strength level := by
  unfold join? at h
  split at h <;> first | exact ⟨_, rfl, rfl⟩ | cases h

/-- A comparison has the node that the grammar makes for it. -/
theorem node_comparison (c : Comparator) (l r : Expr) : node (.comparison c) l r = compare c l r := by
  cases c <;> rfl

theorem isConnective_iff {op : Infix} : op.isConnective = true ↔ op.rank < 2 := by
  cases op with
  | sign s => cases s <;> decide
  | comparison c => exact ⟨nofun, fun h => absurd h (Nat.lt_irrefl 2)⟩
  | _ => decide

theorem isComparison_iff {op : Infix} : op.isComparison = true ↔ op.rank = 2 := by
  cases op with
  | sign s => cases s <;> decide
  | comparison c => exact ⟨fun _ => rfl, fun _ => rfl⟩
  | _ => decide

end Infix

/-! ## Comparisons that are not chained -/

/-- Does every stretch of operators between two connectives, or a connective and an end, hold at
most one comparison? -/
def NonChaining (ops : List Infix) : Prop :=
  ∀ stretch ∈ ops.splitOnP Infix.isConnective, stretch.countP Infix.isComparison ≤ 1

instance (ops : List Infix) : Decidable (NonChaining ops) :=
  inferInstanceAs (Decidable (∀ stretch ∈ ops.splitOnP Infix.isConnective, _))

/-- Either side of a connective is looked at on its own. -/
theorem nonChaining_append_cons {op : Infix} (h : op.isConnective = true) {xs ys : List Infix} :
    NonChaining (xs ++ op :: ys) ↔ NonChaining xs ∧ NonChaining ys := by
  rw [NonChaining, List.splitOnP_append_cons xs ys h, List.forall_mem_append]
  rfl

/-- Without connectives there is one stretch only. -/
theorem nonChaining_of_calm {ops : List Infix} (h : ∀ op ∈ ops, op.isConnective = false) :
    NonChaining ops ↔ ops.countP Infix.isComparison ≤ 1 := by
  rw [NonChaining, List.splitOnP_eq_singleton h, List.forall_mem_singleton]

/-- No operator is a connective that is no looser than one that is none. -/
theorem Infix.isConnective_of_rank_le {op o : Infix} (hop : op.isConnective = false)
    (h : op.rank ≤ o.rank) : o.isConnective = false := by
  rw [Bool.eq_false_iff, ne_eq, isConnective_iff] at hop ⊢
  omega

namespace NonChaining

variable {op : Infix} {xs ys : List Infix}

/-- Around an operator that is no connective and none of the others is looser than, there is one
stretch only. -/
theorem countP_le (h : NonChaining (xs ++ op :: ys)) (hop : op.isConnective = false)
    (hx : ∀ o ∈ xs, op.rank ≤ o.rank) (hy : ∀ o ∈ ys, op.rank ≤ o.rank) :
    xs.countP Infix.isComparison + (op :: ys).countP Infix.isComparison ≤ 1 := by
  have hcalm : ∀ o ∈ xs ++ op :: ys, o.isConnective = false :=
    List.forall_mem_append.2 ⟨fun o ho => Infix.isConnective_of_rank_le hop (hx o ho),
      List.forall_mem_cons.2 ⟨hop, fun o ho => Infix.isConnective_of_rank_le hop (hy o ho)⟩⟩
  rwa [nonChaining_of_calm hcalm, List.countP_append] at h

/-- The sides of one of the loosest operators are no worse than the whole. -/
theorem sides (h : NonChaining (xs ++ op :: ys)) (hx : ∀ o ∈ xs, op.rank ≤ o.rank)
    (hy : ∀ o ∈ ys, op.rank ≤ o.rank) : NonChaining xs ∧ NonChaining ys := by
  by_cases hop : op.isConnective = true
  · exact (nonChaining_append_cons hop).1 h
  · rw [Bool.not_eq_true] at hop
    have hcount := h.countP_le hop hx hy
    rw [List.countP_cons] at hcount
    rw [nonChaining_of_calm fun o ho => Infix.isConnective_of_rank_le hop (hx o ho),
      nonChaining_of_calm fun o ho => Infix.isConnective_of_rank_le hop (hy o ho)]
    omega

/-- A comparison that is one of the loosest operators is the only one. -/
theorem rank_of_mem (h : NonChaining (xs ++ op :: ys)) (hop : op.rank = 2)
    (hx : ∀ o ∈ xs, op.rank ≤ o.rank) (hy : ∀ o ∈ ys, op.rank ≤ o.rank) :
    ∀ o ∈ xs, 3 ≤ o.rank := by
  have hcalm : op.isConnective = false := by
    rw [Bool.eq_false_iff, ne_eq, Infix.isConnective_iff, hop]
    exact Nat.lt_irrefl 2
  have hcount := h.countP_le hcalm hx hy
  rw [List.countP_cons_of_pos (Infix.isComparison_iff.2 hop)] at hcount
  have hnone : xs.countP Infix.isComparison = 0 := by omega
  intro o ho
  have hne : o.rank ≠ 2 := mt Infix.isComparison_iff.2 (List.countP_eq_zero.1 hnone o ho)
  have hle := hx o ho
  omega

end NonChaining

/-! ## Flat chains -/

/-- A flat chain: an atom, and operators with an atom behind each. -/
structure Flat where
  /-- The first atom. -/
  first : Atom
  /-- The operators and the atoms behind them. -/
  more : List (Infix × Atom)

namespace Flat

/-- The tokens of a flat chain. -/
def kinds (chain : Flat) : List TokenKind :=
  chain.first.kind :: chain.more.flatMap fun (op, a) => [op.kind, a.kind]

/-- The operators of a flat chain. -/
def operators (chain : Flat) : List Infix :=
  chain.more.map Prod.fst

/-- The last of the loosest operators, with what is before it, the atom behind it and what is
behind that. -/
def split? : List (Infix × Atom) →
    Option (List (Infix × Atom) × (Infix × Atom) × List (Infix × Atom))
  | [] => none
  | (op, a) :: more =>
    match split? more with
    | some (front, last, back) =>
      if last.1.rank ≤ op.rank then some ((op, a) :: front, last, back)
      else some ([], (op, a), more)
    | none => some ([], (op, a), more)

/-- There is a loosest operator if there is one at all. -/
theorem split?_eq_none {more : List (Infix × Atom)} (h : split? more = none) : more = [] := by
  cases more with
  | nil => rfl
  | cons p more =>
    rw [split?] at h
    split at h
    · split at h <;> cases h
    · cases h

/-- **The last of the loosest operators**: none before it is looser, and all behind it are
tighter. -/
theorem split?_eq_some {more front back : List (Infix × Atom)} {last : Infix × Atom}
    (h : split? more = some (front, last, back)) : more = front ++ last :: back ∧
      (∀ p ∈ front, last.1.rank ≤ p.1.rank) ∧ ∀ p ∈ back, last.1.rank < p.1.rank := by
  induction more generalizing front last back with
  | nil => cases h
  | cons p more ih =>
    rw [split?] at h
    split at h
    · rename_i front' last' back' hmore
      obtain ⟨rfl, hfront, hback⟩ := ih hmore
      split at h
      · rename_i hle
        cases h
        exact ⟨rfl, List.forall_mem_cons.2 ⟨hle, hfront⟩, hback⟩
      · rename_i hlt
        cases h
        -- what is loosest behind the operator is tighter than it, and so is the rest
        have hlt := Nat.lt_of_not_le hlt
        refine ⟨rfl, nofun, List.forall_mem_append.2 ⟨fun q hq => ?_, ?_⟩⟩
        · exact Nat.lt_of_lt_of_le hlt (hfront q hq)
        · exact List.forall_mem_cons.2 ⟨hlt, fun q hq => Nat.lt_trans hlt (hback q hq)⟩
    · rename_i hmore
      cases h
      rw [split?_eq_none hmore]
      exact ⟨rfl, nofun, nofun⟩

/-- Either side of an operator is shorter than the whole. -/
theorem split?_shorter {more front back : List (Infix × Atom)} {last : Infix × Atom}
    (h : split? more = some (front, last, back)) :
    front.length < more.length ∧ back.length < more.length := by
  obtain ⟨rfl, -⟩ := split?_eq_some h
  rw [List.length_append, List.length_cons]
  omega

/-- The expression for a flat chain, split at the last of its loosest operators. -/
def tree (chain : Flat) : Expr :=
  match h : split? chain.more with
  | none => chain.first.expr
  | some (front, (op, next), back) =>
    have := split?_shorter h
    op.node (tree ⟨chain.first, front⟩) (tree ⟨next, back⟩)
termination_by chain.more.length
decreasing_by
  · exact this.1
  · exact this.2

example : tree ⟨.field "a", [(.or, .field "b"), (.and, .field "c"), (.sign .times, .field "d"),
      (.comparison .less, .field "e"), (.sign .minus, .field "f"), (.sign .minus, .field "g")]⟩ =
    .or (.field ⟨["a"]⟩) (.and (.field ⟨["b"]⟩) (.compare .greater
      (.arithmetic .subtract (.arithmetic .subtract (.field ⟨["e"]⟩) (.field ⟨["f"]⟩))
        (.field ⟨["g"]⟩))
      (.arithmetic .multiply (.field ⟨["c"]⟩) (.field ⟨["d"]⟩)))) := by
  cbv

/-- The operators of a flat chain are those among its tokens. -/
theorem filterMap_kinds (chain : Flat) : chain.kinds.filterMap Infix.ofKind? = chain.operators := by
  rw [kinds, List.filterMap_cons_none (Infix.ofKind?_atom _), operators]
  induction chain.more with
  | nil => rfl
  | cons p more ih =>
    rw [List.flatMap_cons, List.filterMap_append, ih]
    simp

theorem kinds_split (first next : Atom) (op : Infix) (front back : List (Infix × Atom)) :
    kinds ⟨first, front ++ (op, next) :: back⟩ =
      kinds ⟨first, front⟩ ++ op.kind :: kinds ⟨next, back⟩ := by
  simp [kinds]

/-- A flat chain begins with no operator. -/
theorem ready (chain : Flat) : Ready chain.kinds := by
  obtain ⟨first, more⟩ := chain
  refine ⟨first.kind, _, rfl, ?_⟩
  cases first <;> exact ⟨rfl, rfl⟩

end Flat

/-! ## What flat chains are read as -/

namespace Grammar

/-- Tokens that begin a chain: whatever it goes on with, the chain is read with the expression for
them at its beginning. -/
def Leads (level : Chain) (ks : List TokenKind) (left : Expr) : Prop :=
  ∀ front rest e last, kinds front = ks → Loose (strength level + 1) rest →
    Derives none (.extend level left) rest e last →
    Derives none (.chain level) (front ++ rest) e last

section

variable {level : Chain} {ks ls : List TokenKind} {l r : Expr}

/-- An operand begins a chain. -/
theorem Leads.operand (h : Spells (.operand level) (strength level + 1) ks l) : Leads level ks l :=
  fun front rest _ _ hf hl d => .chain (h front rest hf hl) d

/-- A chain that goes on with an operator and an operand. -/
theorem Leads.join {op : TokenKind} {join : Expr → Expr → Expr} (h : Leads level ks l)
    (hj : join? level op = some join) (hr : Spells (.operand level) (strength level + 1) ls r) :
    Leads level (ks ++ op :: ls) (join l r) := by
  intro front rest e last hf hl d
  obtain ⟨left, mid, rfl, hleft, hmid⟩ := kinds_eq_append hf
  obtain ⟨p, right, rfl, hp, hright⟩ := kinds_eq_cons hmid
  rw [List.append_assoc, List.cons_append]
  refine h left _ e last hleft (loose_cons ?_) ?_
  · exact Nat.le_of_eq ((congrArg grip hp).trans (grip_of_join? hj))
  · exact .more (hp ▸ hj) (clear_none _) (hr right rest hright hl) d

/-- A chain that does not go on. -/
theorem Leads.spells (h : Leads level ks l) : Spells (.chain level) (strength level) ks l :=
  fun front rest hf hl => h front rest l rest hf (hl.mono (Nat.le_succ _))
    (.stop (hl.headNot fun _ => grip_of_joins))

end

/-- What tokens with operators of this rank and tighter ones are read as. -/
def Groups : Nat → List TokenKind → Expr → Prop
  | 0, ks, e => Leads .or ks e
  | 1, ks, e => Leads .and ks e
  | 2, ks, e => Spells .comparison 2 ks e
  | 3, ks, e => Leads .sum ks e
  | 4, ks, e => Leads .product ks e
  | _, ks, e => Spells .primary 5 ks e

section

variable {ks ls : List TokenKind} {l r e : Expr}

/-- The operands of a chain have tighter operators. -/
theorem Groups.operand (level : Chain) (h : Groups (strength level + 1) ks e) (hr : Ready ks) :
    Spells (.operand level) (strength level + 1) ks e := by
  cases level with
  | or => exact fun front rest hf hl => .orOperand (Leads.spells h front rest hf hl)
  | and =>
    exact fun front rest hf hl => .andOperand (Spells.unnegated h front rest hf hl)
  | sum =>
    exact fun front rest hf hl => .sumOperand ((Leads.spells h).unsigned hr front rest hf hl)
  | product => exact fun front rest hf hl => .productOperand (h front rest hf hl)

/-- Tokens without operators of a rank are read as with them. -/
theorem Groups.pred {n : Nat} (h : Groups (n + 1) ks e) (hr : Ready ks) : Groups n ks e := by
  match n, h with
  | 0, h => exact Leads.operand (Groups.operand .or h hr)
  | 1, h => exact Leads.operand (Groups.operand .and h hr)
  | 2, h => exact (Leads.spells h).comparison
  | 3, h => exact Leads.operand (Groups.operand .sum h hr)
  | 4, h => exact Leads.operand (Groups.operand .product h hr)
  | _ + 5, h => exact h

theorem Groups.mono {n m : Nat} (h : Groups m ks e) (hr : Ready ks) (hle : n ≤ m) :
    Groups n ks e := by
  induction hle with
  | refl => exact h
  | step _ ih => exact ih (h.pred hr)

/-- **An operator and what is on its sides**, of which only the left one may have operators of the
same rank, and neither if it is a comparison. -/
theorem Groups.node {op : Infix} (hl : Groups op.rank ks l) (hr : Groups (op.rank + 1) ls r)
    (hready : Ready ls) (hc : op.isComparison = true → Groups 3 ks l) :
    Groups op.rank (ks ++ op.kind :: ls) (op.node l r) := by
  have hjoin : ∀ level, op.rank = strength level →
      Leads level ks l → Spells (.operand level) (strength level + 1) ls r →
      Leads level (ks ++ op.kind :: ls) (op.node l r) :=
    fun level h hleft hright => hleft.join (Infix.join?_kind h) hright
  cases op with
  | or => exact hjoin .or rfl hl (Groups.operand .or hr hready)
  | and => exact hjoin .and rfl hl (Groups.operand .and hr hready)
  | comparison c =>
    rw [Infix.node_comparison]
    exact spells_compare c (Leads.spells (hc rfl)) (Leads.spells hr)
  | sign s =>
    cases s with
    | plus | minus => exact hjoin .sum rfl hl (Groups.operand .sum hr hready)
    | times | slash => exact hjoin .product rfl hl (Groups.operand .product hr hready)

end

end Grammar

namespace Flat

theorem groups_atom (a : Atom) : Groups 5 [a.kind] a.expr := by
  cases a with
  | literal v => exact (isOperand_literal v).spells
  | field spelling => exact spells_field spelling

/-- **A chain without chained comparisons is read as its tree.** -/
theorem groups_tree (chain : Flat) (h : NonChaining chain.operators) :
    ∀ n ≤ 5, (∀ op ∈ chain.operators, n ≤ op.rank) → Groups n chain.kinds chain.tree := by
  fun_induction tree chain with
  | case1 chain hsplit =>
    intro n hn _
    obtain ⟨first, more⟩ := chain
    obtain rfl := split?_eq_none hsplit
    exact (groups_atom first).mono (ready ⟨first, []⟩) hn
  | case2 chain front op next back hsplit hshorter ihFront ihBack =>
    intro n _ hranks
    obtain ⟨first, more⟩ := chain
    obtain ⟨rfl, hfront, hback⟩ := split?_eq_some hsplit
    rw [operators, List.map_append, List.map_cons] at h hranks
    have hxs : ∀ o ∈ front.map Prod.fst, op.rank ≤ o.rank := by simpa using hfront
    have hys : ∀ o ∈ back.map Prod.fst, op.rank < o.rank := by simpa using hback
    have hle : op.rank ≤ 4 := op.rank_le
    obtain ⟨hleft, hright⟩ := h.sides hxs fun o ho => Nat.le_of_lt (hys o ho)
    have hgroups := Groups.node (ihFront hleft op.rank (by omega) hxs)
      (ihBack hright (op.rank + 1) (by omega) hys) (ready ⟨next, back⟩) fun hop =>
        ihFront hleft 3 (by decide)
          (h.rank_of_mem (Infix.isComparison_iff.1 hop) hxs fun o ho => Nat.le_of_lt (hys o ho))
    rw [kinds_split]
    exact hgroups.mono (ready ⟨first, front⟩).append (hranks op (by simp))

end Flat

/-! ## What is read -/

theorem NonChaining.nil : NonChaining [] := by
  decide

theorem NonChaining.of_calm {ops : List Infix} (h : (∀ op ∈ ops, op.isConnective = false) ∧
    ops.countP Infix.isComparison ≤ 1) : NonChaining ops :=
  (nonChaining_of_calm h.1).2 h.2

/-- What a chain goes on with is looked at on its own. -/
theorem NonChaining.append_extend {xs ys : List Infix} (hx : NonChaining xs)
    (hy : ys = [] ∨ ∃ op more, ys = op :: more ∧ op.isConnective = true ∧ NonChaining more) :
    NonChaining (xs ++ ys) := by
  rcases hy with rfl | ⟨op, more, rfl, hop, hmore⟩
  · rwa [List.append_nil]
  · exact (nonChaining_append_cons hop).2 ⟨hx, hmore⟩

/-- Signs are no connectives and no comparisons. -/
theorem calm_of_signs {ops : List Infix} (h : ∀ op ∈ ops, 3 ≤ op.rank) :
    (∀ op ∈ ops, op.isConnective = false) ∧ ops.countP Infix.isComparison = 0 := by
  refine ⟨fun op hop => ?_, List.countP_eq_zero.2 fun op hop => ?_⟩
  · rw [Bool.eq_false_iff, ne_eq, Infix.isConnective_iff]
    have := h op hop
    omega
  · rw [Infix.isComparison_iff]
    have := h op hop
    omega

namespace Grammar

/-- The operators among some tokens. -/
def operators (ks : List TokenKind) : List Infix :=
  ks.filterMap Infix.ofKind?

/-- Can the token stand in a flat chain? -/
def isFlat : TokenKind → Bool
  | .literal _ | .identifier _ | .operator .or | .operator .and | .operator (.comparison _)
  | .operator (.sign _) => true
  | _ => false

/-- What the operators are that a phrase takes where all tokens are flat. -/
def Phrase.Holds : Phrase → List Infix → Prop
  | .chain .or, ops | .operand .or, ops | .chain .and, ops => NonChaining ops
  | .extend .or _, ops | .extend .and _, ops =>
    ops = [] ∨ ∃ op more, ops = op :: more ∧ op.isConnective = true ∧ NonChaining more
  | .operand .and, ops | .negation, ops | .comparison, ops =>
    (∀ op ∈ ops, op.isConnective = false) ∧ ops.countP Infix.isComparison ≤ 1
  | _, ops => ∀ op ∈ ops, 3 ≤ op.rank

/-- An operand and what its chain goes on with. -/
theorem Phrase.Holds.chain {level : Chain} {left : Expr} {xs ys : List Infix}
    (hx : (Phrase.operand level).Holds xs) (hy : (Phrase.extend level left).Holds ys) :
    (Phrase.chain level).Holds (xs ++ ys) := by
  cases level with
  | or => exact NonChaining.append_extend hx hy
  | and => exact NonChaining.append_extend (.of_calm hx) hy
  | sum | product => exact List.forall_mem_append.2 ⟨hx, hy⟩

/-- A chain that goes on with an operator, an operand and more. -/
theorem Phrase.Holds.more {level : Chain} {left left' : Expr} {op : Infix} {xs ys : List Infix}
    (hop : op.rank = strength level) (hx : (Phrase.operand level).Holds xs)
    (hy : (Phrase.extend level left').Holds ys) :
    (Phrase.extend level left).Holds (op :: (xs ++ ys)) := by
  cases level with
  | or =>
    exact .inr ⟨op, _, rfl, Infix.isConnective_iff.2 (by rw [hop]; decide), hx.append_extend hy⟩
  | and =>
    exact .inr ⟨op, _, rfl, Infix.isConnective_iff.2 (by rw [hop]; decide),
      (NonChaining.of_calm hx).append_extend hy⟩
  | sum | product =>
    exact List.forall_mem_cons.2 ⟨by rw [hop]; decide, List.forall_mem_append.2 ⟨hx, hy⟩⟩

/-- Signs around a comparison. -/
theorem Phrase.Holds.compare {c : Comparator} {xs ys : List Infix}
    (hx : (Phrase.chain .sum).Holds xs) (hy : (Phrase.chain .sum).Holds ys) :
    Phrase.comparison.Holds (xs ++ .comparison c :: ys) := by
  obtain ⟨hcalmX, hcountX⟩ := calm_of_signs hx
  obtain ⟨hcalmY, hcountY⟩ := calm_of_signs hy
  refine ⟨List.forall_mem_append.2 ⟨hcalmX, List.forall_mem_cons.2 ⟨rfl, hcalmY⟩⟩, ?_⟩
  refine Nat.le_of_eq ?_
  rw [List.countP_append, List.countP_cons_of_pos rfl, hcountX, hcountY]

/-- **What is read of flat tokens has no chained comparisons.** -/
theorem Derives.holds {phrase : Phrase} {ps rest : List Piece} {e : Expr}
    (d : Derives none phrase ps e rest) (hflat : ∀ p ∈ ps, isFlat p.token.kind = true) :
    ∃ front, ps = front ++ rest ∧ phrase.Holds (operators (kinds front)) := by
  have append (front back : List Piece) : operators (kinds (front ++ back)) =
      operators (kinds front) ++ operators (kinds back) := by
    simp [operators, kinds]
  have cons {p : Piece} {op : Infix} (hp : Infix.ofKind? p.token.kind = some op)
      (front : List Piece) : operators (kinds (p :: front)) = op :: operators (kinds front) :=
    List.filterMap_cons_some hp
  have other {ps : List Piece} {p : Piece} {k : TokenKind}
      (h : ∀ p ∈ ps, isFlat p.token.kind = true) (hp : p ∈ ps) (hk : p.token.kind = k) :
      isFlat k ≠ false := by
    rw [← hk, h p hp]
    decide
  induction d with
  | chain _ _ ihFirst ihRest =>
    obtain ⟨front, rfl, hfront⟩ := ihFirst hflat
    obtain ⟨back, rfl, hback⟩ := ihRest fun p hp => hflat p (List.mem_append_right _ hp)
    exact ⟨front ++ back, (List.append_assoc ..).symm, by rw [append]; exact hfront.chain hback⟩
  | @stop level =>
    refine ⟨[], rfl, ?_⟩
    cases level with
    | or | and => exact .inl rfl
    | sum | product => exact List.forall_mem_nil _
  | @more level _ _ p _ _ _ _ _ hj _ _ _ ihRight ihRest =>
    obtain ⟨op, hop, hrank⟩ := Infix.ofKind?_of_join? hj
    obtain ⟨front, rfl, hfront⟩ := ihRight fun p hp => hflat p (List.mem_cons_of_mem _ hp)
    obtain ⟨back, rfl, hback⟩ := ihRest fun p hp =>
      hflat p (List.mem_cons_of_mem _ (List.mem_append_right _ hp))
    refine ⟨p :: (front ++ back), by simp, ?_⟩
    rw [cons hop, append]
    exact hfront.more hrank hback
  | orOperand _ ih | andOperand _ ih | sumOperand _ ih | productOperand _ ih
  | unnegated _ _ ih | unsigned _ _ ih => exact ih hflat
  | sum _ _ ih =>
    obtain ⟨front, rfl, hfront⟩ := ih hflat
    obtain ⟨hcalm, hcount⟩ := calm_of_signs hfront
    exact ⟨front, rfl, hcalm, hcount ▸ Nat.zero_le 1⟩
  | @compare _ _ p _ c _ _ _ hk _ _ _ ihLeft ihRight =>
    obtain ⟨front, rfl, hfront⟩ := ihLeft hflat
    obtain ⟨back, rfl, hback⟩ := ihRight fun p hp =>
      hflat p (List.mem_append_right _ (List.mem_cons_of_mem _ hp))
    refine ⟨front ++ p :: back, by simp, ?_⟩
    have hop : Infix.ofKind? p.token.kind = some (.comparison c) := hk ▸ rfl
    rw [append, cons hop]
    exact hfront.compare hback
  | @minus p _ _ _ hk _ _ ih =>
    obtain ⟨front, rfl, hfront⟩ := ih fun p hp => hflat p (List.mem_cons_of_mem _ hp)
    refine ⟨p :: front, rfl, ?_⟩
    have hop : Infix.ofKind? p.token.kind = some (.sign .minus) := hk ▸ rfl
    rw [cons hop]
    exact List.forall_mem_cons.2 ⟨by decide, hfront⟩
  | @minusPrimary p _ _ _ hk _ _ ih =>
    obtain ⟨front, rfl, hfront⟩ := ih fun p hp => hflat p (List.mem_cons_of_mem _ hp)
    refine ⟨p :: front, rfl, ?_⟩
    have hop : Infix.ofKind? p.token.kind = some (.sign .minus) := hk ▸ rfl
    rw [cons hop]
    exact List.forall_mem_cons.2 ⟨by decide, hfront⟩
  | @literal p _ _ hk _ | @field p _ _ hk _ _ =>
    refine ⟨[p], rfl, ?_⟩
    simp [operators, kinds, hk, Infix.ofKind?, Phrase.Holds]
  | isa d hk _ _ _ => exact absurd rfl (other hflat (d.suffix.subset (List.mem_cons_self ..)) hk)
  | within _ hk _ _ _ =>
    exact absurd rfl (other hflat (List.mem_cons_of_mem _ (List.mem_cons_self ..)) hk)
  | not hk | filled hk | quantified hk | component hk | isaCurrent hk | emptyList hk
  | negative hk | group hk | list hk | item hk | close hk =>
    exact absurd rfl (other hflat (List.mem_cons_self ..) hk)

/-- All tokens of a flat chain are flat. -/
theorem isFlat_of_mem {chain : Flat} : ∀ k ∈ chain.kinds, isFlat k = true := by
  have hatom : ∀ a : Atom, isFlat a.kind = true := fun a => by cases a <;> rfl
  have hop : ∀ op : Infix, isFlat op.kind = true := fun op => by cases op <;> rfl
  rw [Flat.kinds, List.forall_mem_cons, List.forall_mem_flatMap]
  exact ⟨hatom _, fun p _ => by simp [hop, hatom]⟩

/-- **What a flat chain is read as.** -/
theorem derives_flat_iff {chain : Flat} {ps : List Piece} (h : kinds ps = chain.kinds) {e : Expr} :
    Derives none (.chain .or) ps e [] ↔ NonChaining chain.operators ∧ e = chain.tree := by
  have hreads (hn : NonChaining chain.operators) :
      Derives none (.chain .or) ps chain.tree [] := by
    have hleads : Leads .or chain.kinds chain.tree :=
      chain.groups_tree hn 0 (Nat.zero_le 5) fun op _ => Nat.zero_le op.rank
    have hd := hleads.spells ps [] h (loose_nil 0)
    rwa [List.append_nil] at hd
  constructor
  · intro d
    have hflat : ∀ p ∈ ps, isFlat p.token.kind = true := fun p hp =>
      isFlat_of_mem _ (by rw [← h]; exact List.mem_map_of_mem hp)
    obtain ⟨front, rfl, hholds⟩ := d.holds hflat
    rw [List.append_nil] at h
    rw [h, operators, Flat.filterMap_kinds] at hholds
    exact ⟨hholds, (d.unique (hreads hholds)).1⟩
  · rintro ⟨hn, rfl⟩
    exact hreads hn

end Grammar

namespace Query

/-- **Flat chains are grouped by precedence.**  Atoms with operators between them are a query
exactly if no two comparisons stand with no connective between them, and then it is the tree that
is split at the last of the loosest operators again and again; so for all such tokens, and for
every text that has them. -/
theorem ofTokens_flat {chain : Flat} {tokens : List Token}
    (h : tokens.map Token.kind = chain.kinds) (q : Query) :
    (ofTokens tokens none none = .ok q ↔ NonChaining chain.operators ∧ q = ⟨chain.tree⟩) ∧
    ∀ source, tokenize source = .ok tokens →
      (parse source none = .ok q ↔ NonChaining chain.operators ∧ q = ⟨chain.tree⟩) := by
  have htokens : ofTokens tokens none none = .ok q ↔
      NonChaining chain.operators ∧ q = ⟨chain.tree⟩ := by
    obtain ⟨root⟩ := q
    rw [ofTokens_eq_ok_iff, derives_flat_iff ((kinds_fill none tokens 0).trans h), Query.mk.injEq]
    exact ⟨fun hq => hq.2.1, fun hq => ⟨clear_none _, hq, rfl⟩⟩
  refine ⟨htokens, fun source hsource => ?_⟩
  have hinput : (Input.ofText source).tokens = (tokens, none) := by
    rw [tokenize] at hsource
    split at hsource
    · cases hsource
      assumption
    · cases hsource
  rw [parse, hinput]
  exact htokens

/-- Two comparisons with `and` between them, and two without. -/
theorem parse_flat_comparisons :
    parse "a < b + 1 and c == 'd'" none = .ok ⟨.and
      (.compare .greater (.arithmetic .add (.field ⟨["b"]⟩) (.literal (.integer 1)))
        (.field ⟨["a"]⟩))
      (.compare .equal (.field ⟨["c"]⟩) (.literal (.string "d")))⟩ ∧
    ∀ q, parse "a < b < c" none ≠ .ok q := by
  constructor
  · have hkinds : [⟨.identifier "a", 0⟩, ⟨.operator (.comparison .less), 2⟩, ⟨.identifier "b", 4⟩,
        ⟨.operator (.sign .plus), 6⟩, ⟨.literal (.integer 1), 8⟩, ⟨.operator .and, 10⟩,
        ⟨.identifier "c", 14⟩, ⟨.operator (.comparison .equal), 16⟩,
        ⟨.literal (.string "d"), 19⟩].map Token.kind =
        Flat.kinds ⟨.field "a", [(.comparison .less, .field "b"),
          (.sign .plus, .literal (.integer 1)), (.and, .field "c"),
          (.comparison .equal, .literal (.string "d"))]⟩ := rfl
    refine ((ofTokens_flat hkinds _).2 _ (by with_unfolding_all rfl)).2 ⟨by decide, ?_⟩
    cbv
  · intro q hq
    have hkinds : [⟨.identifier "a", 0⟩, ⟨.operator (.comparison .less), 2⟩, ⟨.identifier "b", 4⟩,
        ⟨.operator (.comparison .less), 6⟩, ⟨.identifier "c", 8⟩].map Token.kind =
        Flat.kinds ⟨.field "a", [(.comparison .less, .field "b"),
          (.comparison .less, .field "c")]⟩ := rfl
    have hchains := ((ofTokens_flat hkinds q).2 _ (by with_unfolding_all rfl)).1 hq
    exact absurd hchains.1 (by decide)

end Query

end FieldQuery
