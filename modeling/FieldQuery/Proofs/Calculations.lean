import FieldQuery.Proofs.Failures
import Mathlib.Algebra.Field.Rat
import Mathlib.Tactic.NormNum

/-!
# Calculating with integers

Arithmetic over integers is exact.  A calculation is a tree of the four operations over integer
literals and fields; its exact value is a rational number, and so is that of each of its nodes.
As long as these are integers of 64 bits, the calculation goes on with them.  It ends at the first
node, in the order in which nodes are solved, that divides by zero or has no room for its value.

* `Arithmetic.ofIntegers_eq` — one operation, where its exact result is an integer.
* `Calculation.postOrder` — the nodes, in the order in which they are solved.
* `Calculation.run_of_sound` — sound nodes up to the root make a run with the exact result.
* `Calculation.fails_at_first` — the first node that cannot go on is the node of the error.
* `Calculation.solve_exact` — what a calculation comes to, from its exact values.
-/

namespace FieldQuery

open Reading Judging

/-! ## One operation -/

/-- Does the integer fit into 64 bits? -/
def Fits (k : ℤ) : Prop :=
  -2 ^ 63 ≤ k ∧ k < 2 ^ 63

instance (k : ℤ) : Decidable (Fits k) :=
  inferInstanceAs (Decidable (_ ∧ _))

theorem fits_toInt (n : Int64) : Fits n.toInt :=
  ⟨n.le_toInt, n.toInt_lt⟩

namespace Arithmetic

/-- The operation on rational numbers. -/
def onRationals : Arithmetic → ℚ → ℚ → ℚ
  | .add, a, b => a + b
  | .subtract, a, b => a - b
  | .multiply, a, b => a * b
  | .divide, a, b => a / b

theorem integer_of_fits {k : ℤ} (h : Fits k) :
    ∃ v : Int64, v.toInt = k ∧ integer k = .ok (.integer v) := by
  refine ⟨Int64.ofInt k, Int64.toInt_ofInt_of_le h.1 h.2, ?_⟩
  have hroom : Int64.minValue.toInt ≤ k ∧ k ≤ Int64.maxValue.toInt :=
    ⟨h.1, Int.le_of_lt_add_one h.2⟩
  rw [integer, Value.ofInt?, if_pos hroom]

theorem integer_of_not_fits {k : ℤ} (h : ¬ Fits k) : integer k = .error .overflow := by
  have hroom : ¬ (Int64.minValue.toInt ≤ k ∧ k ≤ Int64.maxValue.toInt) :=
    fun hk => h ⟨hk.1, Int.lt_add_one_of_le hk.2⟩
  rw [integer, Value.ofInt?, if_neg hroom]

/-- **Where the exact result of an operation is an integer**, the operation has this result, or
there is no room for it. -/
theorem ofIntegers_eq {operation : Arithmetic} {a b : Int64} {k : ℤ}
    (hdivisor : operation = .divide → b ≠ 0)
    (h : operation.onRationals a.toInt b.toInt = k) : operation.ofIntegers a b = integer k := by
  cases operation with
  | add =>
    have hk : (a.toInt : ℚ) + b.toInt = k := h
    rw [ofIntegers, (mod_cast hk : a.toInt + b.toInt = k)]
  | subtract =>
    have hk : (a.toInt : ℚ) - b.toInt = k := h
    rw [ofIntegers, (mod_cast hk : a.toInt - b.toInt = k)]
  | multiply =>
    have hk : (a.toInt : ℚ) * b.toInt = k := h
    rw [ofIntegers, (mod_cast hk : a.toInt * b.toInt = k)]
  | divide =>
    have hb : b ≠ 0 := hdivisor rfl
    have hb' : b.toInt ≠ 0 := fun hzero => hb (Int64.toInt_inj.1 hzero)
    have hq : (b.toInt : ℚ) ≠ 0 := by exact_mod_cast hb'
    have hk : a.toInt = k * b.toInt := by
      have hdiv : (a.toInt : ℚ) / b.toInt = k := h
      exact_mod_cast (div_eq_iff hq).1 hdiv
    rw [ofIntegers, if_neg hb, hk, if_pos (Int.mul_emod_left k b.toInt),
      Int.mul_ediv_cancel k hb']

end Arithmetic

/-! ## Calculations -/

/-- Arithmetic over integers and fields. -/
inductive Calculation where
  /-- An integer literal. -/
  | number (n : Int64)
  /-- A field. -/
  | field (path : Path)
  /-- One of the four operations. -/
  | operation (arithmetic : Arithmetic) (left right : Calculation)

namespace Calculation

/-- The expression for a calculation. -/
def expr : Calculation → Expr
  | .number n => .literal (.integer n)
  | .field path => .field path
  | .operation arithmetic left right => .arithmetic arithmetic left.expr right.expr

/-- The nodes of a calculation in the order in which they are solved: those of the left operand,
those of the right one, and then the operation. -/
def postOrder : Calculation → List Calculation
  | .operation arithmetic left right =>
    left.postOrder ++ right.postOrder ++ [.operation arithmetic left right]
  | leaf => [leaf]

/-- A place in two lists is in the first one, or in the second one with the first before it. -/
theorem inside_or_behind {α : Type} {xs ys before after : List α} {n : α}
    (h : xs ++ ys = before ++ n :: after) :
    (∃ rest, xs = before ++ n :: rest) ∨
      ∃ middle, before = xs ++ middle ∧ ys = middle ++ n :: after := by
  rcases List.append_eq_append_iff.1 h with ⟨middle, hbefore, hys⟩ | ⟨middle, hxs, hrest⟩
  · exact .inr ⟨middle, hbefore, hys⟩
  · cases middle with
    | nil => exact .inr ⟨[], by simpa using hxs.symm, hrest.symm⟩
    | cons m ms =>
      injection hrest with hn
      exact .inl ⟨ms, hn ▸ hxs⟩

/-- A node of an operation is one of the left operand, one of the right operand with the left one
before it, or the operation with both operands before it. -/
theorem split_postOrder {arithmetic : Arithmetic} {left right n : Calculation}
    {before after : List Calculation}
    (h : (operation arithmetic left right).postOrder = before ++ n :: after) :
    (∃ rest, left.postOrder = before ++ n :: rest) ∨
    (∃ middle rest, before = left.postOrder ++ middle ∧ right.postOrder = middle ++ n :: rest) ∨
    before = left.postOrder ++ right.postOrder ∧ n = operation arithmetic left right := by
  rw [postOrder] at h
  rcases inside_or_behind h with ⟨rest, hoperands⟩ | ⟨middle, hbefore, hself⟩
  · rcases inside_or_behind hoperands with hleft | ⟨middle, hbefore, hright⟩
    · exact .inl hleft
    · exact .inr (.inl ⟨middle, rest, hbefore, hright⟩)
  · cases middle with
    | nil =>
      injection hself with hn
      exact .inr (.inr ⟨by simpa using hbefore, hn.symm⟩)
    | cons m ms => simp at hself

/-! ## Exact values -/

section

variable (amount : Path → Int64)

/-- The exact value of a calculation for given amounts in the fields. -/
def exact : Calculation → ℚ
  | .number n => n.toInt
  | .field path => (amount path).toInt
  | .operation arithmetic left right => arithmetic.onRationals left.exact right.exact

/-- Is the node a division by zero? -/
def DividesByZero : Calculation → Prop
  | .operation .divide _ divisor => divisor.exact amount = 0
  | _ => False

/-- Does the node have an exact value that is an integer with room in 64 bits? -/
def IsSound (c : Calculation) : Prop :=
  ¬ c.DividesByZero amount ∧ ∃ k : ℤ, c.exact amount = k ∧ Fits k

/-- What is wrong with a node that is not sound, unless its exact value is no integer.  A quotient
that is not whole is wrong in neither way: it goes on as a float. -/
def Raises (c : Calculation) : Fault → Prop
  | .divisionByZero => c.DividesByZero amount
  | .overflow => ¬ c.DividesByZero amount ∧ ∃ k : ℤ, c.exact amount = k ∧ ¬ Fits k
  | _ => False

end

variable {amount : Path → Int64}

theorem mem_postOrder_operation {arithmetic : Arithmetic} {left right c : Calculation} :
    c ∈ (operation arithmetic left right).postOrder ↔
      c ∈ left.postOrder ∨ c ∈ right.postOrder ∨ c = operation arithmetic left right := by
  simp [postOrder]

theorem isSound_number (n : Int64) : (number n).IsSound amount :=
  ⟨id, _, rfl, fits_toInt n⟩

theorem isSound_field (path : Path) : (field path).IsSound amount :=
  ⟨id, _, rfl, fits_toInt _⟩

theorem not_raises_of_isSound {c : Calculation} {fault : Fault} (h : c.IsSound amount) :
    ¬ c.Raises amount fault := by
  obtain ⟨hdivisor, k, hk, hfits⟩ := h
  cases fault with
  | divisionByZero => exact hdivisor
  | overflow =>
    rintro ⟨-, k', hk', hbeyond⟩
    obtain rfl : k = k' := mod_cast hk.symm.trans hk'
    exact hbeyond hfits
  | _ => exact id

theorem divisor_ne_zero {arithmetic : Arithmetic} {left right : Calculation} {b : Int64}
    (h : ¬ (operation arithmetic left right).DividesByZero amount)
    (hb : (b.toInt : ℚ) = right.exact amount) : arithmetic = .divide → b ≠ 0 := by
  rintro rfl rfl
  exact h hb.symm

/-- An operation on what its operands are exactly. -/
theorem ofIntegers_of_sound {arithmetic : Arithmetic} {left right : Calculation} {a b : Int64}
    (ha : (a.toInt : ℚ) = left.exact amount) (hb : (b.toInt : ℚ) = right.exact amount)
    (h : (operation arithmetic left right).IsSound amount) :
    ∃ v : Int64, (v.toInt : ℚ) = (operation arithmetic left right).exact amount ∧
      arithmetic.ofIntegers a b = .ok (.integer v) := by
  obtain ⟨hdivisor, k, hk, hfits⟩ := h
  obtain ⟨v, hv, hinteger⟩ := Arithmetic.integer_of_fits hfits
  refine ⟨v, by rw [hk, hv], ?_⟩
  rw [exact, ← ha, ← hb] at hk
  rw [Arithmetic.ofIntegers_eq (divisor_ne_zero hdivisor hb) hk, hinteger]

theorem ofIntegers_of_raises {arithmetic : Arithmetic} {left right : Calculation} {a b : Int64}
    {fault : Fault} (ha : (a.toInt : ℚ) = left.exact amount)
    (hb : (b.toInt : ℚ) = right.exact amount)
    (h : (operation arithmetic left right).Raises amount fault) :
    arithmetic.ofIntegers a b = .error fault := by
  cases fault with
  | divisionByZero =>
    cases arithmetic with
    | divide =>
      have hzero : b = 0 := by
        have hexact : right.exact amount = 0 := h
        rw [← hb] at hexact
        exact Int64.toInt_inj.1 (mod_cast hexact)
      rw [hzero]
      rfl
    | _ => exact h.elim
  | overflow =>
    obtain ⟨hdivisor, k, hk, hfits⟩ := h
    rw [exact, ← ha, ← hb] at hk
    rw [Arithmetic.ofIntegers_eq (divisor_ne_zero hdivisor hb) hk,
      Arithmetic.integer_of_not_fits hfits]
  | _ => exact h.elim

/-! ## Runs -/

variable (app : Application) (scope : Value) (amount)

/-- Wherever the solve of a calculation comes to a field, it finds the amount there. -/
def HasAmounts (c : Calculation) (ledger : Ledger) : Prop :=
  ∀ path before, Expr.ComesTo app ⟨c.expr, scope, ledger⟩ ⟨.field path, scope, before⟩ →
    (((Expr.field path).solve app scope).run before).1 = .ok (.plain (.integer (amount path)))

variable {app scope amount}

/-- A calculation has its amounts where the solve of a larger one calls it. -/
theorem HasAmounts.of_calls {c part : Calculation} {ledger before : Ledger}
    (h : c.HasAmounts amount app scope ledger)
    (hcall : Expr.Calls app ⟨c.expr, scope, ledger⟩ ⟨part.expr, scope, before⟩) :
    part.HasAmounts amount app scope before :=
  fun path _ hcomes => h path _ (.head hcall hcomes)

/-- The solve of an operation whose operands are integers. -/
theorem run_operation {arithmetic : Arithmetic} {left right : Calculation}
    {ledger middle last : Ledger} {a b : Int64}
    (hleft : (left.expr.solve app scope).run ledger = (.ok (.plain (.integer a)), middle))
    (hright : (right.expr.solve app scope).run middle = (.ok (.plain (.integer b)), last)) :
    ((operation arithmetic left right).expr.solve app scope).run ledger =
      (((arithmetic.ofIntegers a b).map .plain).mapError
        (.at (operation arithmetic left right).expr), last) := by
  have hvalues : arithmetic.apply (Solution.plain (.integer a)).value
      (Solution.plain (.integer b)).value = arithmetic.ofIntegers a b := rfl
  rw [expr, Expr.solve, run_bind_of_ok hleft, run_bind_of_ok hright, hvalues]
  cases arithmetic.ofIntegers a b <;> rfl

/-- **Sound nodes up to the root make a run with the exact result.** -/
theorem run_of_sound {c : Calculation} {ledger : Ledger}
    (hfields : c.HasAmounts amount app scope ledger) (h : ∀ n ∈ c.postOrder, n.IsSound amount) :
    ∃ v : Int64, ∃ after, (v.toInt : ℚ) = c.exact amount ∧
      (c.expr.solve app scope).run ledger = (.ok (.plain (.integer v)), after) := by
  induction c generalizing ledger with
  | number n => exact ⟨n, ledger, rfl, rfl⟩
  | field path => exact ⟨amount path, _, rfl, Prod.ext (hfields path ledger .refl) rfl⟩
  | operation arithmetic left right ihLeft ihRight =>
    simp only [mem_postOrder_operation, or_imp, forall_and, forall_eq] at h
    obtain ⟨hl, hr, hself⟩ := h
    obtain ⟨a, middle, ha, hleft⟩ := ihLeft (hfields.of_calls (.first rfl)) hl
    obtain ⟨b, last, hb, hright⟩ := ihRight (hfields.of_calls (.second rfl hleft)) hr
    obtain ⟨v, hv, hresult⟩ := ofIntegers_of_sound ha hb hself
    refine ⟨v, last, hv, ?_⟩
    rw [run_operation hleft hright, hresult]
    rfl

/-- **The first node that is not sound is the node of the error.** -/
theorem fails_at_first {c n : Calculation} {before after : List Calculation} {fault : Fault}
    {ledger : Ledger} (hfields : c.HasAmounts amount app scope ledger)
    (hnode : c.postOrder = before ++ n :: after) (hbefore : ∀ m ∈ before, m.IsSound amount)
    (hraises : n.Raises amount fault) :
    ((c.expr.solve app scope).run ledger).1 = .error (.at n.expr fault) := by
  induction c generalizing ledger before after with
  | number m =>
    have hmem : n ∈ (number m).postOrder := by simp [hnode]
    obtain rfl := List.mem_singleton.1 hmem
    exact absurd hraises (not_raises_of_isSound (isSound_number m))
  | field path =>
    have hmem : n ∈ (field path).postOrder := by simp [hnode]
    obtain rfl := List.mem_singleton.1 hmem
    exact absurd hraises (not_raises_of_isSound (isSound_field path))
  | operation arithmetic left right ihLeft ihRight =>
    rcases split_postOrder hnode with ⟨rest, hl⟩ | ⟨middle, rest, rfl, hr⟩ | ⟨rfl, rfl⟩
    · have hleft := ihLeft (hfields.of_calls (.first rfl)) hl hbefore
      rw [expr, Expr.solve, run_bind_of_error (Prod.ext hleft rfl)]
    · obtain ⟨hsound, hmiddle⟩ := List.forall_mem_append.1 hbefore
      obtain ⟨a, ledger', -, hleft⟩ := run_of_sound (hfields.of_calls (.first rfl)) hsound
      have hright := ihRight (hfields.of_calls (.second rfl hleft)) hr hmiddle
      rw [expr, Expr.solve, run_bind_of_ok hleft, run_bind_of_error (Prod.ext hright rfl)]
    · obtain ⟨hl, hr⟩ := List.forall_mem_append.1 hbefore
      obtain ⟨a, middle, ha, hleft⟩ := run_of_sound (hfields.of_calls (.first rfl)) hl
      obtain ⟨b, last, hb, hright⟩ := run_of_sound (hfields.of_calls (.second rfl hleft)) hr
      rw [run_operation hleft hright, ofIntegers_of_raises ha hb hraises]
      rfl

/-- **Integer arithmetic is exact or a located error.**  If every node of a calculation has an
exact value that is an integer of 64 bits, and none divides by zero, then the solve has the exact
value of the whole.  Otherwise the first node to which this does not apply, in post-order and left
operand first, decides: if it divides by zero, the solve fails with that at this node; if its exact
value is an integer that has no room in 64 bits, the solve fails with an overflow at this node. -/
theorem solve_exact {c : Calculation} {ledger : Ledger}
    (hfields : c.HasAmounts amount app scope ledger) :
    ((∀ n ∈ c.postOrder, n.IsSound amount) → ∃ v : Int64, (v.toInt : ℚ) = c.exact amount ∧
      ((c.expr.solve app scope).run ledger).1 = .ok (.plain (.integer v))) ∧
    ∀ before n after, c.postOrder = before ++ n :: after → (∀ m ∈ before, m.IsSound amount) →
      (n.DividesByZero amount →
        ((c.expr.solve app scope).run ledger).1 = .error (.at n.expr .divisionByZero)) ∧
      (¬ n.DividesByZero amount → ∀ k : ℤ, n.exact amount = (k : ℚ) → ¬ Fits k →
        ((c.expr.solve app scope).run ledger).1 = .error (.at n.expr .overflow)) := by
  refine ⟨?sound, fun before n after hnode hbefore => ⟨?zero, ?beyond⟩⟩
  case sound =>
    intro h
    obtain ⟨v, after, hv, hrun⟩ := run_of_sound hfields h
    exact ⟨v, hv, congrArg Prod.fst hrun⟩
  case zero =>
    intro hzero
    exact fails_at_first hfields hnode hbefore (show n.Raises amount .divisionByZero from hzero)
  case beyond =>
    intro hdivisor k hk hbeyond
    have hraises : n.Raises amount .overflow := ⟨hdivisor, k, hk, hbeyond⟩
    exact fails_at_first hfields hnode hbefore hraises

/-- A total divided by a number of parts. -/
def portion : Calculation :=
  .operation .divide (.field ⟨["total"]⟩) (.field ⟨["parts"]⟩)

/-- A portion, negated. -/
def charge : Calculation :=
  .operation .multiply (.number (-1)) portion

/-- The least total, in a number of parts. -/
def account (parts : Int64) : Value :=
  .object [("parts", .integer parts), ("total", .integer Int64.minValue)]

/-- What the fields of an account hold. -/
def entry (parts : Int64) (path : Path) : Int64 :=
  if path = ⟨["total"]⟩ then Int64.minValue else parts

theorem hasAmounts_charge (parts : Int64) (ledger : Ledger) :
    charge.HasAmounts (entry parts) .standard (account parts) ledger := by
  intro path before hcomes
  have hpart : path = ⟨["total"]⟩ ∨ path = ⟨["parts"]⟩ := by
    simpa [charge, portion, expr, Expr.parts] using hcomes.mem_parts
  rcases hpart with rfl | rfl <;> rfl

/-- The least integer can be halved and negated; divided by minus one it has no room, and divided
by zero it has no value. -/
theorem solve_exact_charge :
    ((charge.expr.solve .standard (account 2)).run ⟨0, []⟩).1 =
      .ok (.plain (.integer 4611686018427387904)) ∧
    ((charge.expr.solve .standard (account (-1))).run ⟨0, []⟩).1 =
      .error (.at portion.expr .overflow) ∧
    ((charge.expr.solve .standard (account 0)).run ⟨0, []⟩).1 =
      .error (.at portion.expr .divisionByZero) := by
  have hportion : ∀ parts, portion.exact (entry parts) = -2 ^ 63 / parts.toInt := by
    intro parts
    have hleast : (((-9223372036854775808 : ℤ) : ℚ)) = -2 ^ 63 := by norm_num
    exact congrArg (· / (parts.toInt : ℚ)) hleast
  have hnode : charge.postOrder =
      [number (-1), field ⟨["total"]⟩, field ⟨["parts"]⟩] ++ portion :: [charge] := rfl
  have hbefore : ∀ parts, ∀ n ∈ [number (-1), field ⟨["total"]⟩, field ⟨["parts"]⟩],
      n.IsSound (entry parts) := by
    intro parts n hn
    simp only [List.mem_cons, List.not_mem_nil, or_false] at hn
    rcases hn with rfl | rfl | rfl
    · exact isSound_number (-1)
    · exact isSound_field _
    · exact isSound_field _
  refine ⟨?halved, ?negated, ?zero⟩
  case halved =>
    have hhalf : portion.exact (entry 2) = ((-2 ^ 62 : ℤ) : ℚ) := by
      rw [hportion, show (2 : Int64).toInt = 2 from rfl]
      norm_num
    have hcharge : charge.exact (entry 2) = ((2 ^ 62 : ℤ) : ℚ) := by
      show (((-1 : Int64).toInt : ℤ) : ℚ) * portion.exact (entry 2) = _
      rw [hhalf, show (-1 : Int64).toInt = -1 from rfl]
      norm_num
    have hsound : ∀ n ∈ charge.postOrder, n.IsSound (entry 2) := by
      rw [hnode, List.forall_mem_append]
      refine ⟨hbefore 2, List.forall_mem_cons.2 ⟨⟨?_, _, hhalf, by decide⟩,
        List.forall_mem_singleton.2 ⟨id, _, hcharge, by decide⟩⟩⟩
      show ¬ (((2 : Int64).toInt : ℤ) : ℚ) = 0
      decide
    obtain ⟨v, hv, hrun⟩ := (solve_exact (hasAmounts_charge 2 ⟨0, []⟩)).1 hsound
    have hvalue : v.toInt = (4611686018427387904 : Int64).toInt := by
      rw [hcharge] at hv
      exact mod_cast hv
    rw [hrun, Int64.toInt_inj.1 hvalue]
  case negated =>
    have hexact : portion.exact (entry (-1)) = ((2 ^ 63 : ℤ) : ℚ) := by
      rw [hportion, show (-1 : Int64).toInt = -1 from rfl]
      norm_num
    refine ((solve_exact (hasAmounts_charge (-1) ⟨0, []⟩)).2 _ _ _ hnode (hbefore _)).2 ?_ _
      hexact (by decide)
    show ¬ (((-1 : Int64).toInt : ℤ) : ℚ) = 0
    decide
  case zero =>
    refine ((solve_exact (hasAmounts_charge 0 ⟨0, []⟩)).2 _ _ _ hnode (hbefore _)).1 ?_
    show (((0 : Int64).toInt : ℤ) : ℚ) = 0
    decide

end Calculation

end FieldQuery
