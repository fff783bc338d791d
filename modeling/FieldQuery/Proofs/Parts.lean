import FieldQuery.Query

/-!
# Parts of expressions

The subtrees of an expression and the constants in it, which is how statements about a whole
query speak of what is somewhere in it.

* `Expr.parts` — the expression and all expressions in it.
* `Expr.parts_trans` — a part of a part is a part.
* `Expr.LiteralsAre` — every literal is of a kind.
* `Expr.constants` — the literals, and the elements of lists among them.
-/

namespace FieldQuery

namespace Value

mutual

/-- The value and, in a list, the elements at any depth. -/
def parts : Value → List Value
  | .array items => .array items :: itemParts items
  | v => [v]

/-- The elements at any depth of some values. -/
def itemParts : List Value → List Value
  | [] => []
  | v :: vs => parts v ++ itemParts vs

end

@[simp] theorem mem_itemParts {v : Value} {items : List Value} :
    v ∈ itemParts items ↔ ∃ item ∈ items, v ∈ item.parts := by
  induction items with
  | nil => simp [itemParts]
  | cons item items ih => simp [itemParts, ih]

theorem mem_parts_self (v : Value) : v ∈ v.parts := by
  cases v <;> simp [parts]

/-- Is the value a number without a minus sign? -/
def isNonNegative : Value → Bool
  | .integer n => decide (0 ≤ n)
  | .float x => !Number.isNegative x
  | _ => false

end Value

namespace Expr

/-- The expression and all expressions in it. -/
def parts : Expr → List Expr
  | .literal v => [.literal v]
  | .field p => [.field p]
  | .component name => [.component name]
  | .within context body => .within context body :: (context.parts ++ body.parts)
  | .quantified q context body => .quantified q context body :: (context.parts ++ body.parts)
  | .not operand => .not operand :: operand.parts
  | .and left right => .and left right :: (left.parts ++ right.parts)
  | .or left right => .or left right :: (left.parts ++ right.parts)
  | .compare relation left right => .compare relation left right :: (left.parts ++ right.parts)
  | .isInstance subject typeName => .isInstance subject typeName :: subject.parts
  | .arithmetic operation left right =>
    .arithmetic operation left right :: (left.parts ++ right.parts)

theorem mem_parts_self (e : Expr) : e ∈ e.parts := by
  cases e <;> simp [parts]

/-- A part of a part is a part. -/
theorem parts_trans {a b c : Expr} (hab : a ∈ b.parts) (hbc : b ∈ c.parts) : a ∈ c.parts := by
  induction c with
  | literal | field | component =>
    simp only [parts, List.mem_singleton] at hbc
    rwa [hbc] at hab
  | not _ ih | isInstance _ _ ih =>
    simp only [parts, List.mem_cons] at hbc ⊢
    rcases hbc with rfl | hbc
    · rwa [parts, List.mem_cons] at hab
    · exact .inr (ih hbc)
  | within _ _ ihLeft ihRight | quantified _ _ _ ihLeft ihRight | and _ _ ihLeft ihRight
  | or _ _ ihLeft ihRight | compare _ _ _ ihLeft ihRight | arithmetic _ _ _ ihLeft ihRight =>
    simp only [parts, List.mem_cons, List.mem_append] at hbc ⊢
    rcases hbc with rfl | hbc | hbc
    · rwa [parts, List.mem_cons, List.mem_append] at hab
    · exact .inr (.inl (ihLeft hbc))
    · exact .inr (.inr (ihRight hbc))

/-- Every literal in the expression is of a kind. -/
def LiteralsAre (kind : Value → Prop) (e : Expr) : Prop :=
  ∀ v, .literal v ∈ e.parts → kind v

section

variable {kind : Value → Prop}

theorem LiteralsAre.part {e part : Expr} (h : e.LiteralsAre kind) (hpart : part ∈ e.parts) :
    part.LiteralsAre kind :=
  fun v hv => h v (parts_trans hv hpart)

variable {e left right : Expr}

/-- An expression with one operand has the literals of the operand. -/
theorem literalsAre_of_operand (hparts : e.parts = e :: left.parts) (he : ∀ v, literal v ≠ e) :
    e.LiteralsAre kind ↔ left.LiteralsAre kind := by
  unfold LiteralsAre
  rw [hparts]
  simp only [List.mem_cons, he, false_or]

/-- An expression with two operands has the literals of both. -/
theorem literalsAre_of_operands (hparts : e.parts = e :: (left.parts ++ right.parts))
    (he : ∀ v, literal v ≠ e) :
    e.LiteralsAre kind ↔ left.LiteralsAre kind ∧ right.LiteralsAre kind := by
  unfold LiteralsAre
  rw [hparts]
  simp only [List.mem_cons, he, false_or, List.mem_append, or_imp, forall_and]

/-- A literal is its only part. -/
@[simp] theorem literalsAre_literal {v : Value} : (literal v).LiteralsAre kind ↔ kind v := by
  refine ⟨fun h => h v (List.mem_singleton.2 rfl), fun h w hw => ?_⟩
  cases List.mem_singleton.1 hw
  exact h

@[simp] theorem literalsAre_field (path : Path) : (field path).LiteralsAre kind :=
  fun _ hv => nomatch List.mem_singleton.1 hv

@[simp] theorem literalsAre_component (name : String) : (component name).LiteralsAre kind :=
  fun _ hv => nomatch List.mem_singleton.1 hv

@[simp] theorem literalsAre_not : (not left).LiteralsAre kind ↔ left.LiteralsAre kind :=
  literalsAre_of_operand rfl nofun

@[simp] theorem literalsAre_isInstance {typeName : String} :
    (isInstance left typeName).LiteralsAre kind ↔ left.LiteralsAre kind :=
  literalsAre_of_operand rfl nofun

@[simp] theorem literalsAre_within :
    (within left right).LiteralsAre kind ↔ left.LiteralsAre kind ∧ right.LiteralsAre kind :=
  literalsAre_of_operands rfl nofun

@[simp] theorem literalsAre_quantified {quantifier : Quantifier} :
    (quantified quantifier left right).LiteralsAre kind ↔
      left.LiteralsAre kind ∧ right.LiteralsAre kind :=
  literalsAre_of_operands rfl nofun

@[simp] theorem literalsAre_and :
    (and left right).LiteralsAre kind ↔ left.LiteralsAre kind ∧ right.LiteralsAre kind :=
  literalsAre_of_operands rfl nofun

@[simp] theorem literalsAre_or :
    (or left right).LiteralsAre kind ↔ left.LiteralsAre kind ∧ right.LiteralsAre kind :=
  literalsAre_of_operands rfl nofun

@[simp] theorem literalsAre_compare {relation : Comparison} :
    (compare relation left right).LiteralsAre kind ↔
      left.LiteralsAre kind ∧ right.LiteralsAre kind :=
  literalsAre_of_operands rfl nofun

@[simp] theorem literalsAre_arithmetic {operation : Arithmetic} :
    (arithmetic operation left right).LiteralsAre kind ↔
      left.LiteralsAre kind ∧ right.LiteralsAre kind :=
  literalsAre_of_operands rfl nofun

end

/-- The literals in an expression, and the elements of lists among them. -/
def constants (e : Expr) : List Value :=
  e.parts.flatMap fun
    | .literal v => v.parts
    | _ => []

theorem mem_constants {e : Expr} {v : Value} :
    v ∈ e.constants ↔ ∃ w, .literal w ∈ e.parts ∧ v ∈ w.parts := by
  rw [constants, List.mem_flatMap]
  constructor
  · rintro ⟨part, hpart, hv⟩
    split at hv
    · exact ⟨_, hpart, hv⟩
    · simp at hv
  · rintro ⟨w, hw, hv⟩
    exact ⟨.literal w, hw, hv⟩

end Expr

end FieldQuery
