import FieldQuery.Proofs.Constants

/-!
# The shape of what is read

What a printer and a solver can rely on in the tree of a text without placeholders, place by
place: what stands as a context, where the value at hand stands, how names are spelled and which
constants there are.

* `Expr.children` — the expressions that an expression is directly made of.
* `Expr.Written.of_mem_parts` — every part of such a tree is one, but for the value at hand.
* `Expr.IsTextual` — the shape, as statements about the parts of a tree.
* `Value.Constant.flips` — no constant is a number whose sign cannot be changed.
* `Query.parse_isTextual` — what is read has the shape, and no sign that is changed on the way
  makes a number overflow.
-/

namespace FieldQuery

open Text Number

/-! ## Constants -/

namespace Value

/-- Changing the sign gives the exact counterpart, if the value is an integer. -/
def Flips : Value → Prop
  | .integer n => (-n).toInt = -n.toInt
  | _ => True

/-- Is the value one that can be written, apart from what is in it: a string, a float, an integer
with a counterpart of the other sign, or a list that is not of one element? -/
def IsWritable : Value → Prop
  | .string _ | .float _ => True
  | .integer n => -(2 ^ 63 - 1) ≤ n.toInt ∧ n.toInt ≤ 2 ^ 63 - 1
  | .array items => items.length ≠ 1
  | _ => False

variable {v w : Value}

theorem Constant.flips (h : v.Constant) : v.Flips := by
  cases h with
  | @integer n hn =>
    have hroom := natAbs_lt hn
    show (-n).toInt = -n.toInt
    rw [Int64.toInt_neg]
    exact Int.bmod_eq_of_le (by omega) (by omega)
  | _ => trivial

theorem Constant.isWritable (h : v.Constant) : v.IsWritable := by
  cases h with
  | string | float => trivial
  | @integer n hn =>
    have hroom := natAbs_lt hn
    show -(2 ^ 63 - 1) ≤ n.toInt ∧ n.toInt ≤ 2 ^ 63 - 1
    omega
  | array hlength => exact hlength

/-- The elements of a constant are constants, at any depth. -/
theorem Constant.of_mem_parts (h : v.Constant) (hw : w ∈ v.parts) : w.Constant := by
  induction h with
  | array hlength hitems ih =>
    rw [parts, List.mem_cons, mem_itemParts] at hw
    obtain rfl | ⟨item, hitem, hw⟩ := hw
    · exact .array hlength hitems
    · exact ih item hitem hw
  | string =>
    cases List.mem_singleton.1 hw
    exact .string
  | integer hn =>
    cases List.mem_singleton.1 hw
    exact .integer hn
  | float hx =>
    cases List.mem_singleton.1 hw
    exact .float hx

end Value

/-! ## Expressions and their children -/

namespace Expr

/-- The expressions that an expression is directly made of. -/
def children : Expr → List Expr
  | .literal _ | .field _ | .component _ => []
  | .within context body | .quantified _ context body => [context, body]
  | .not operand => [operand]
  | .and left right | .or left right => [left, right]
  | .compare _ left right | .arithmetic _ left right => [left, right]
  | .isInstance subject _ => [subject]

/-- The parts of an expression are itself and the parts of its children. -/
theorem parts_eq (e : Expr) : e.parts = e :: e.children.flatMap parts := by
  cases e <;> simp [parts, children]

/-- What is true of an expression if it is of its children is true of every one. -/
theorem children_induction {P : Expr → Prop} (step : ∀ e, (∀ child ∈ e.children, P child) → P e)
    (e : Expr) : P e := by
  induction e with
  | literal | field | component => exact step _ (by simp [children])
  | not _ ih | isInstance _ _ ih => exact step _ (by simpa [children] using ih)
  | within _ _ ihLeft ihRight | quantified _ _ _ ihLeft ihRight | and _ _ ihLeft ihRight
  | or _ _ ihLeft ihRight | compare _ _ _ ihLeft ihRight | arithmetic _ _ _ ihLeft ihRight =>
    exact step _ (by simpa [children] using ⟨ihLeft, ihRight⟩)

variable {e child part : Expr}

/-- The value at hand is not written: it is what is left out before an `isa`. -/
theorem not_written_current : ¬ (Expr.field .current).Written :=
  fun h => h.ne_nil rfl

/-- The children of what is written are written, but for the value at hand before an `isa`. -/
theorem Written.of_mem_children (h : e.Written) (hchild : child ∈ e.children) :
    child.Written ∨
      child = .field .current ∧ ∃ typeName, e = .isInstance (.field .current) typeName := by
  cases e with
  | literal | field | component => cases hchild
  | within | quantified =>
    obtain ⟨⟨p, rfl, hp⟩, hbody⟩ := h
    simp only [children, List.mem_cons, List.not_mem_nil, or_false] at hchild
    obtain rfl | rfl := hchild
    · exact .inl hp
    · exact .inl hbody
  | not =>
    cases List.mem_singleton.1 hchild
    exact .inl h
  | and | or | arithmetic =>
    simp only [children, List.mem_cons, List.not_mem_nil, or_false] at hchild
    obtain rfl | rfl := hchild
    · exact .inl h.1
    · exact .inl h.2
  | compare =>
    simp only [children, List.mem_cons, List.not_mem_nil, or_false] at hchild
    obtain rfl | rfl := hchild
    · exact .inl h.2.1
    · exact .inl h.2.2
  | isInstance subject typeName =>
    cases List.mem_singleton.1 hchild
    obtain rfl | hsubject := h.1
    · exact .inr ⟨rfl, typeName, rfl⟩
    · exact .inl hsubject

/-- **The parts of what is written** are written, but for the value at hand. -/
theorem Written.of_mem_parts (h : e.Written) (hpart : part ∈ e.parts) :
    part.Written ∨ part = .field .current := by
  induction e using children_induction with
  | step e ih =>
    rw [parts_eq, List.mem_cons, List.mem_flatMap] at hpart
    obtain rfl | ⟨child, hchild, hpart⟩ := hpart
    · exact .inl h
    · obtain hwritten | ⟨rfl, -⟩ := h.of_mem_children hchild
      · exact ih child hchild hwritten hpart
      · exact .inr (List.mem_singleton.1 hpart)

/-! ## The shape of a tree -/

/-- The shape that the tree of every text without placeholders has. -/
structure IsTextual (root : Expr) : Prop where
  /-- The context of a condition is a field path with a name. -/
  within_context : ∀ {context body}, .within context body ∈ root.parts →
    ∃ p : Path, context = .field p ∧ p.segments ≠ []
  /-- So is the context of a quantifier. -/
  quantified_context : ∀ {quantifier context body},
    .quantified quantifier context body ∈ root.parts →
    ∃ p : Path, context = .field p ∧ p.segments ≠ []
  /-- The path without names is not the whole. -/
  root_ne_current : root ≠ .field .current
  /-- It stands as the subject of an `isa` test and nowhere else. -/
  current_child : ∀ {e}, e ∈ root.parts → .field .current ∈ e.children →
    ∃ typeName, e = .isInstance (.field .current) typeName
  /-- The names in a path are words. -/
  isWord : ∀ {p : Path}, .field p ∈ root.parts → ∀ name ∈ p.segments, IsWord name
  /-- A lone name is no word of the language. -/
  not_reserved : ∀ {p : Path}, .field p ∈ root.parts → ∀ w ∈ reservedWords, p.segments ≠ [w]
  /-- No operator compares collections. -/
  ne_subset : ∀ {left right}, .compare .subset left right ∉ root.parts
  /-- The literals, and the elements of lists among them, can be written. -/
  isWritable : ∀ v ∈ root.constants, v.IsWritable

/-- A path in a tree is one that a text spells, or that of the value at hand. -/
theorem Written.isProper_or (h : e.Written) {p : Path} (hp : .field p ∈ e.parts) :
    p.IsProper ∨ p = .current := by
  obtain hp | hp := h.of_mem_parts hp
  · exact .inl hp
  · cases hp
    exact .inr rfl

/-- What is written has the shape of a text. -/
theorem Written.isTextual (h : e.Written) : e.IsTextual where
  within_context hpart := by
    obtain ⟨⟨p, hcontext, hp⟩, -⟩ := (h.of_mem_parts hpart).resolve_right nofun
    exact ⟨p, hcontext, hp.ne_nil⟩
  quantified_context hpart := by
    obtain ⟨⟨p, hcontext, hp⟩, -⟩ := (h.of_mem_parts hpart).resolve_right nofun
    exact ⟨p, hcontext, hp.ne_nil⟩
  root_ne_current := by
    rintro rfl
    exact not_written_current h
  current_child hpart hcurrent := by
    obtain hpart | rfl := h.of_mem_parts hpart
    · exact ((hpart.of_mem_children hcurrent).resolve_left not_written_current).2
    · cases hcurrent
  isWord hp name hname := by
    obtain hp | rfl := h.isProper_or hp
    · exact hp.isWord name hname
    · cases hname
  not_reserved hp w hw := by
    obtain hp | rfl := h.isProper_or hp
    · exact hp.not_reserved w hw
    · nofun
  ne_subset hpart := ((h.of_mem_parts hpart).resolve_right nofun).1 rfl
  isWritable v hv := by
    obtain ⟨w, hw, hv⟩ := mem_constants.1 hv
    have hconstant : w.Constant := (h.of_mem_parts hw).resolve_right nofun
    exact (hconstant.of_mem_parts hv).isWritable

end Expr

/-! ## What is read -/

/-- What is read of an element of a list, of a group or of a whole text is written. -/
theorem Grammar.written_of_chain {fault : Option LexError} {level : Chain} {pieces : List Piece}
    {item : Step Expr pieces} (h : chain fault level pieces = .ok item)
    (hpieces : ∀ p ∈ pieces, IsPlain p) : item.value.Written :=
  ((derives_sound h).written hpieces).1

/-- **The shape of what is read.**  The tree of a text without placeholders has the shape of a text,
at every place in it.  No sign that reading changes makes a number overflow: neither that of a
number of the text, nor that of a number behind a minus sign in what is read from any place of the
text on, as the elements of lists are. -/
theorem Query.parse_isTextual {source : String} {q : Query}
    (h : Query.parse source none = .ok q) :
    q.root.IsTextual ∧
    (∀ t ∈ (Input.ofText source).tokens.1, ∀ v, t.kind = .literal v → v.Flips) ∧
    ∀ pieces, pieces <:+ Params.fill none 0 (Input.ofText source).tokens.1 →
      ∀ item, Grammar.chain (Input.ofText source).tokens.2 .or pieces = .ok item →
        ∀ v, item.value.negated? = some (.literal v) → v.Flips := by
  have hlexical := tokens_isLexical (Input.ofText source)
  refine ⟨(written_of_parse h).isTextual, ?_, ?_⟩
  · intro t ht v hv
    have hkind := hlexical t ht
    rw [hv] at hkind
    exact (Value.IsLexical.constant hkind).flips
  · intro pieces hsuffix item hitem v hv
    have hpieces : ∀ p ∈ pieces, Grammar.IsPlain p := fun p hp =>
      isPlain_of_mem_fill hlexical 0 p (hsuffix.subset hp)
    have hwritten : (Expr.literal v).Written :=
      (Grammar.written_of_chain hitem hpieces).of_negated? hv
    exact Value.Constant.flips hwritten

/-- A condition on guests with a list of numbers, one of them with a sign. -/
theorem Query.parse_isTextual_guests :
    (Expr.quantified .any (.field ⟨["guests"]⟩)
      (.and (.isInstance (.field .current) "Guest")
        (.compare .member (.field ⟨["room", "floor"]⟩)
          (.literal (.array [.integer 1, .integer (-2), .array []]))))).IsTextual := by
  have hread : Query.parse "any guests matches (isa Guest and room.floor in (1, -2, ()))" none =
      .ok ⟨.quantified .any (.field ⟨["guests"]⟩)
        (.and (.isInstance (.field .current) "Guest")
          (.compare .member (.field ⟨["room", "floor"]⟩)
            (.literal (.array [.integer 1, .integer (-2), .array []]))))⟩ := by
    with_unfolding_all rfl
  exact (Query.parse_isTextual hread).1

end FieldQuery
