import FieldQuery.Expr
import FieldQuery.Query.Params

/-!
# The grammar of queries

From loosest to tightest: `or`, `and`, prefix `not`, comparisons, `+` and `-`, prefix
`-`, `*` and `/`, and what has no operands.  The chains of operators group to the left;
comparisons do not chain at all.

Each function reads one expression from the front of the tokens and gives what is left,
with the proof that it is less.  A token is read by stepping behind it; if the text is
malformed there, the step fails, and so a query is refused for its grammar only where
the tokens before the fault are enough to tell.
-/

namespace FieldQuery

/-- A value read from the front of some tokens, and the tokens that are left. -/
structure Step (α : Type) (pieces : List Piece) where
  /-- What was read. -/
  value : α
  /-- The tokens that are left. -/
  rest : List Piece
  /-- At least one token was read. -/
  shorter : rest.length < pieces.length

/-- The same tokens read for another value. -/
def Step.map {α β : Type} {pieces : List Piece} (f : α → β) (s : Step α pieces) : Step β pieces :=
  ⟨f s.value, s.rest, s.shorter⟩

/-- What was read behind one more token. -/
def Step.behind {α : Type} {first : Piece} {pieces : List Piece} (s : Step α pieces) :
    Step α (first :: pieces) :=
  ⟨s.value, s.rest, Nat.lt_succ_of_lt s.shorter⟩

/-- What was read behind what another step read. -/
def Step.after {α β : Type} {pieces : List Piece} (s : Step α pieces) (t : Step β s.rest) :
    Step β pieces :=
  ⟨t.value, t.rest, Nat.lt_trans t.shorter s.shorter⟩

/-- The expressions that chain to the left. -/
inductive Chain where
  /-- Disjunctions of conjunctions. -/
  | or
  /-- Conjunctions of negations. -/
  | and
  /-- Sums of signed products. -/
  | sum
  /-- Products of expressions without operands. -/
  | product
  deriving DecidableEq, Repr

namespace Grammar

/-- The node for an operator of a chain. -/
def join? : Chain → TokenKind → Option (Expr → Expr → Expr)
  | .or, .operator .or => some .or
  | .and, .operator .and => some .and
  | .sum, .operator (.sign .plus) => some (.arithmetic .add)
  | .sum, .operator (.sign .minus) => some (.arithmetic .subtract)
  | .product, .operator (.sign .times) => some (.arithmetic .multiply)
  | .product, .operator (.sign .slash) => some (.arithmetic .divide)
  | _, _ => none

/-- The node for a comparison. -/
def compare : Comparator → Expr → Expr → Expr
  | .is, l, r | .equal, l, r => .compare .equal l r
  | .isNot, l, r | .notEqual, l, r => .not (.compare .equal l r)
  | .member, l, r => .compare .member l r
  | .notMember, l, r => .not (.compare .member l r)
  | .greater, l, r => .compare .greater l r
  | .greaterEqual, l, r => .compare .atLeast l r
  | .less, l, r => .compare .greater r l
  | .lessEqual, l, r => .compare .atLeast r l
  | .search, l, r => .compare .search l r

/-- A number with its sign changed. -/
def negate? : Value → Option Value
  | .integer n => some (.integer (-n))
  | .float x => some (.float (-x))
  | _ => none

/-- The constant that an element of a list stands for: a literal or a negated number. -/
def constant? : Expr → Option Value
  | .literal v => some v
  | e =>
    match e.negated? with
    | some (.literal v) => negate? v
    | _ => none

/-- A complaint about the first of some tokens, or about the end of the text. -/
def stuck (pieces : List Piece) (cause : SyntaxCause) : ParseError :=
  .grammar (pieces.head?.map Piece.token) cause

section

variable (fault : Option LexError)

/-- Steps behind a token, to the tokens after it.  At the end of the tokens the text may
be malformed. -/
def stepTo (rest : List Piece) : Except ParseError Unit :=
  match rest, fault with
  | [], some e => .error (.lex e)
  | _, _ => .ok ()

/-- Reads a name. -/
def name (role : NameRole) : (pieces : List Piece) → Except ParseError (Step String pieces)
  | [] => .error (stuck [] (.noName role))
  | p :: rest =>
    match p.token.kind with
    | .identifier spelling => do
      stepTo fault rest
      .ok ⟨spelling, rest, Nat.lt_succ_self _⟩
    | .placeholder _ => .error (stuck [p] (.placeholderAsName role))
    | _ => .error (stuck [p] (.noName role))

/-- Reads the operator between a path and the condition on its value, if there is one. -/
def navigation? : (pieces : List Piece) → Except ParseError (Option (Step Navigator pieces))
  | [] => .ok none
  | p :: rest =>
    match p.token.kind with
    | .operator (.navigation n) => do
      stepTo fault rest
      .ok (some ⟨n, rest, Nat.lt_succ_self _⟩)
    | _ => .ok none

/-- Reads a closing parenthesis, if there is one. -/
def close? : (pieces : List Piece) → Except ParseError (Option (Step Unit pieces))
  | [] => .ok none
  | p :: rest =>
    match p.token.kind with
    | .closeParen => do
      stepTo fault rest
      .ok (some ⟨(), rest, Nat.lt_succ_self _⟩)
    | _ => .ok none

/-- Reads a closing parenthesis. -/
def close (cause : SyntaxCause) (pieces : List Piece) : Except ParseError (Step Unit pieces) := do
  match ← close? fault pieces with
  | some step => .ok step
  | none => .error (stuck pieces cause)

/-- Reads `number )`, if that is what is there, for the negated number. -/
def negatedNumber? : (pieces : List Piece) → Except ParseError (Option (Step Value pieces))
  | [] => .ok none
  | p :: rest =>
    match p.token.kind with
    | .literal v =>
      match negate? v with
      | none => .ok none
      | some negated => do
        stepTo fault rest
        let closing ← close? fault rest
        .ok (closing.map fun step => (step.map fun _ => negated).behind)
    | _ => .ok none

/-- Reads the `- number )` that makes a literal of a parenthesis, if that is all there is
in it. -/
def negativeLiteral? : (pieces : List Piece) → Except ParseError (Option (Step Value pieces))
  | [] => .ok none
  | p :: rest =>
    match p.token.kind with
    | .operator (.sign .minus) => do
      stepTo fault rest
      let negated ← negatedNumber? fault rest
      .ok (negated.map Step.behind)
    | _ => .ok none

/-- Reads the name in a component test, from behind its `has`. -/
def componentName : (pieces : List Piece) → Except ParseError (Step String pieces)
  | [] => .error (stuck [] .noComponentWord)
  | p :: rest =>
    match p.token.kind with
    | .keyword .component => do
      stepTo fault rest
      let component ← name fault .component rest
      .ok component.behind
    | _ => .error (stuck [p] .noComponentWord)

/-- How loosely a chain binds. -/
def rank : Chain → Nat
  | .or => 11
  | .and => 9
  | .sum => 5
  | .product => 2

mutual

/-- Reads a chain of operands. -/
def chain (level : Chain) (pieces : List Piece) : Except ParseError (Step Expr pieces) := do
  let first ← operand level pieces
  extend level pieces first
termination_by pieces.length * 16 + rank level + 1
decreasing_by
  · omega
  · have := first.shorter; omega

/-- Goes on with a chain whose beginning is read. -/
def extend (level : Chain) (pieces : List Piece) (left : Step Expr pieces) :
    Except ParseError (Step Expr pieces) :=
  match h : left.rest with
  | [] => .ok left
  | p :: rest =>
    match join? level p.token.kind with
    | none => .ok left
    | some join => do
      stepTo fault rest
      let right ← operand level rest
      extend level pieces ⟨join left.value right.value, right.rest, by
        have := right.shorter; have := left.shorter; simp only [h, List.length_cons] at this; omega⟩
termination_by left.rest.length * 16 + rank level
decreasing_by
  · rw [h, List.length_cons]; omega
  · have := right.shorter; simp only [h, List.length_cons]; omega

/-- Reads an operand of a chain. -/
def operand (level : Chain) (pieces : List Piece) : Except ParseError (Step Expr pieces) :=
  match level with
  | .or => chain .and pieces
  | .and => negation pieces
  | .sum => signed pieces
  | .product => primary pieces
termination_by pieces.length * 16 + rank level
decreasing_by all_goals simp only [rank]; omega

/-- Reads a comparison behind any number of `not`. -/
def negation (pieces : List Piece) : Except ParseError (Step Expr pieces) :=
  match pieces with
  | [] => comparison []
  | p :: rest =>
    match p.token.kind with
    | .keyword .not => do
      stepTo fault rest
      let inner ← negation rest
      .ok (inner.map .not).behind
    | _ => comparison (p :: rest)
termination_by pieces.length * 16 + 8
decreasing_by all_goals simp only [List.length_cons, List.length_nil]; omega

/-- Reads a comparison, an `isa` test or a lone sum. -/
def comparison (pieces : List Piece) : Except ParseError (Step Expr pieces) := do
  let left ← chain .sum pieces
  match h : left.rest with
  | [] => .ok left
  | p :: rest =>
    have shorter : rest.length < pieces.length := by
      have := left.shorter; rw [h, List.length_cons] at this; omega
    match p.token.kind with
    | .keyword .isa => do
      stepTo fault rest
      let type ← name fault .typeName rest
      .ok ⟨.isInstance left.value type.value, type.rest, Nat.lt_trans type.shorter shorter⟩
    | .operator (.navigation n) => .error (stuck [p] (.navigationFromNoPath n))
    | .operator (.comparison c) => do
      stepTo fault rest
      let right ← chain .sum rest
      let whole : Step Expr pieces :=
        ⟨compare c left.value right.value, right.rest, Nat.lt_trans right.shorter shorter⟩
      match right.rest with
      | [] => .ok whole
      | q :: _ =>
        match q.token.kind with
        | .operator (.comparison _) => .error (stuck [q] .chained)
        | _ => .ok whole
    | _ => .ok left
termination_by pieces.length * 16 + 7
decreasing_by
  · simp only [rank]; omega
  · simp only [rank]; omega

/-- Reads a product behind any number of minus signs, which bind looser than it. -/
def signed (pieces : List Piece) : Except ParseError (Step Expr pieces) :=
  match pieces with
  | [] => chain .product []
  | p :: rest =>
    match p.token.kind with
    | .operator (.sign .minus) => do
      stepTo fault rest
      let inner ← signed rest
      .ok (inner.map .negation).behind
    | _ => chain .product (p :: rest)
termination_by pieces.length * 16 + 4
decreasing_by all_goals simp only [rank, List.length_cons, List.length_nil]; omega

/-- Reads an expression without operands: a literal, placeholder, path, parenthesis,
quantifier or test.  A minus sign may stand before it. -/
def primary (pieces : List Piece) : Except ParseError (Step Expr pieces) :=
  match pieces with
  | [] => .error (stuck [] .endOfQuery)
  | p :: rest =>
    match p.token.kind with
    | .literal v => do
      stepTo fault rest
      .ok ⟨.literal v, rest, Nat.lt_succ_self _⟩
    | .placeholder _ =>
      match p.filling with
      | .error e => .error (stuck [p] (.placeholder e))
      | .ok v => do
        stepTo fault rest
        .ok ⟨.literal v, rest, Nat.lt_succ_self _⟩
    | .identifier spelling => do
      stepTo fault rest
      let path := Expr.field (Path.ofText spelling)
      match ← navigation? fault rest with
      | none => .ok ⟨path, rest, Nat.lt_succ_self _⟩
      | some operator => do
        let body ← negation operator.rest
        .ok (operator.after (body.map (.within path))).behind
    | .openParen => do
      stepTo fault rest
      let inner ← parenthesis rest
      .ok inner.behind
    | .keyword .any => do
      stepTo fault rest
      let inner ← condition .any .any rest
      .ok inner.behind
    | .keyword .each => do
      stepTo fault rest
      let inner ← condition .each .each rest
      .ok inner.behind
    | .keyword .has => do
      stepTo fault rest
      let component ← componentName fault rest
      .ok (component.map .component).behind
    | .keyword .isa => do
      stepTo fault rest
      let type ← name fault .typeName rest
      .ok (type.map (.isInstance (.field .current))).behind
    | .operator (.sign .minus) => do
      stepTo fault rest
      let inner ← primary rest
      .ok (inner.map .negation).behind
    | _ => .error (stuck [p] .noExpression)
termination_by pieces.length * 16
decreasing_by
  · have := operator.shorter; simp only [List.length_cons]; omega
  all_goals simp only [List.length_cons]; omega

/-- Reads the context and body of a quantifier, from behind its keyword. -/
def condition (quantifier : Quantifier) (word : Keyword) (pieces : List Piece) :
    Except ParseError (Step Expr pieces) := do
  let context ← name fault (.context word) pieces
  match ← navigation? fault context.rest with
  | none => .error (stuck context.rest (.noCondition word))
  | some operator => do
    let body ← negation operator.rest
    let path := Expr.field (Path.ofText context.value)
    .ok (context.after (operator.after (body.map (.quantified quantifier path))))
termination_by pieces.length * 16 + 9
decreasing_by have := operator.shorter; have := context.shorter; omega

/-- Reads a group, a list or a negative literal, from behind the opening parenthesis. -/
def parenthesis (pieces : List Piece) : Except ParseError (Step Expr pieces) := do
  match ← close? fault pieces with
  | some step => .ok (step.map fun _ => .literal (.array []))
  | none =>
    match ← negativeLiteral? fault pieces with
    | some step => .ok (step.map .literal)
    | none => do
      let first ← chain .or pieces
      match first.rest with
      | [] => .error (stuck [] .unclosedGroup)
      | p :: _ =>
        match p.token.kind with
        | .comma =>
          match constant? first.value with
          | none => .error (stuck pieces .noConstant)
          | some v => do
            let all ← items pieces ⟨[v], first.rest, first.shorter⟩
            .ok (all.map fun vs => .literal (.array vs))
        | _ => do
          let closing ← close fault .unclosedGroup first.rest
          .ok (first.after (closing.map fun _ => first.value))
termination_by pieces.length * 16 + 13
decreasing_by
  · simp only [rank]; omega
  · have := first.shorter; omega

/-- Reads the elements of a list behind those that are read, and its end. -/
def items (pieces : List Piece) (before : Step (List Value) pieces) :
    Except ParseError (Step (List Value) pieces) :=
  match h : before.rest with
  | p :: rest =>
    match p.token.kind with
    | .comma => do
      stepTo fault rest
      let item ← chain .or rest
      match constant? item.value with
      | none => .error (stuck rest .noConstant)
      | some v =>
        items pieces ⟨before.value ++ [v], item.rest, by
          have := item.shorter; have := before.shorter
          simp only [h, List.length_cons] at this; omega⟩
    | _ => do
      let closing ← close fault .unclosedList (p :: rest)
      .ok ⟨before.value, closing.rest, by
        have := closing.shorter; have := before.shorter; rw [h] at this; omega⟩
  | [] => .error (stuck [] .unclosedList)
termination_by before.rest.length * 16
decreasing_by
  · simp only [h, rank, List.length_cons]; omega
  · have := item.shorter; simp only [h, List.length_cons]; omega

end

/-- Reads one expression from all tokens. -/
def query (pieces : List Piece) : Except ParseError Expr := do
  stepTo fault pieces
  let whole ← chain fault .or pieces
  if whole.rest.isEmpty then .ok whole.value else .error (stuck whole.rest .trailing)

end

end Grammar

end FieldQuery
