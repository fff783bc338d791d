import FieldQuery.Proofs.Derivation
import FieldQuery.Proofs.Lexical
import FieldQuery.Proofs.Repetition

/-!
# What parameters put into queries

No superposition can be written in the text of a query.  Those in its literals come from the
parameters, so that a query whose parameters can be read again can be solved again.

* `Value.Writable` — a kind of values that literals, numbers and lists of such are of.
* `Params.ValuesAre`, `Params.IsReadable` — the values of the parameters are of a kind, such as
  those that can be read again.
* `Derives.literalsAre` — what is derived from tokens and their fillings has no other literals.
* `Query.literalsAre_of_parse`, `Query.isReadable_of_parse` — so are the literals of a query.
-/

namespace FieldQuery

/-! ## Fillings -/

/-- A kind of values that whatever can be written without parameters is of: the literals of a
text, all numbers, and the lists of values of the kind. -/
structure Value.Writable (kind : Value → Prop) : Prop where
  /-- Literals are. -/
  lexical : ∀ v : Value, v.IsLexical → kind v
  /-- So are integers, of either sign. -/
  integer : ∀ n, kind (.integer n)
  /-- So are floats. -/
  float : ∀ x, kind (.float x)
  /-- So are lists of values that are. -/
  array : ∀ items, (∀ v ∈ items, kind v) → kind (.array items)

theorem Value.writable_isReadable : Writable IsReadable where
  lexical v h := by
    cases v with
    | string | integer | float => simp
    | _ => exact h.elim
  integer := isReadable_integer
  float := isReadable_float
  array _ := isReadable_array.2

/-- Is every value among the parameters of a kind? -/
def Params.ValuesAre (kind : Value → Prop) : Params → Prop
  | .positional values => ∀ v ∈ values, kind v
  | .named values => ∀ entry ∈ values, kind entry.2

/-- Can every value among the parameters be read again? -/
def Params.IsReadable : Params → Prop
  | .positional values => ∀ v ∈ values, v.IsReadable
  | .named values => ∀ entry ∈ values, entry.2.IsReadable

/-- Are the literal of the token and the value that fills it of a kind? -/
def Piece.ValuesAre (kind : Value → Prop) (p : Piece) : Prop :=
  (∀ v, p.token.kind = .literal v → kind v) ∧ ∀ v, p.filling = .ok v → kind v

section

variable {kind : Value → Prop} {params : Option Params}

theorem Params.of_filling (hparams : ∀ given ∈ params, given.ValuesAre kind) {used : Nat}
    {name : Option String} {v : Value} (hv : filling params used name = .ok v) : kind v := by
  unfold filling at hv
  split at hv
  · cases hv
  · rename_i values
    split at hv
    · rename_i found
      cases hv
      exact hparams (.positional values) rfl _ (List.mem_of_getElem? found)
    · cases hv
  · rename_i values _
    split at hv
    · rename_i found
      cases hv
      exact hparams (.named values) rfl _ (Value.mem_of_lookup found)
    · cases hv
  · cases hv
  · cases hv

theorem valuesAre_of_mem_fill (hkind : Value.Writable kind)
    (hparams : ∀ given ∈ params, given.ValuesAre kind) {tokens : List Token}
    (h : ∀ t ∈ tokens, t.kind.IsLexical) (used : Nat) :
    ∀ p ∈ Params.fill params used tokens, p.ValuesAre kind := by
  induction tokens generalizing used with
  | nil => simp [Params.fill]
  | cons t ts ih =>
    rw [List.forall_mem_cons] at h
    have hliteral : ∀ v, t.kind = .literal v → kind v := by
      intro v hv
      have hlexical := h.1
      rw [hv] at hlexical
      exact hkind.lexical v hlexical
    rw [Params.fill]
    split <;> rw [List.forall_mem_cons]
    · exact ⟨⟨hliteral, fun v hv => Params.of_filling hparams hv⟩, ih h.2 _⟩
    · exact ⟨⟨hliteral, fun v hv => by cases hv⟩, ih h.2 _⟩

end

/-! ## What is derived -/

namespace Grammar

variable {kind : Value → Prop}

theorem of_negate? (hkind : Value.Writable kind) {v w : Value} (h : negate? v = some w) :
    kind w := by
  unfold negate? at h
  split at h <;> cases h
  · exact hkind.integer _
  · exact hkind.float _

theorem of_constant? (hkind : Value.Writable kind) {e : Expr} {v : Value}
    (he : e.LiteralsAre kind) (h : constant? e = some v) : kind v := by
  unfold constant? at h
  split at h
  · cases h
    exact Expr.literalsAre_literal.1 he
  · split at h
    · exact of_negate? hkind h
    · cases h

theorem literalsAre_join {level : Chain} {tokenKind : TokenKind} {join : Expr → Expr → Expr}
    (h : join? level tokenKind = some join) {l r : Expr} (hl : l.LiteralsAre kind)
    (hr : r.LiteralsAre kind) : (join l r).LiteralsAre kind := by
  unfold join? at h
  split at h <;> cases h <;> simp [hl, hr]

theorem literalsAre_compare (c : Comparator) {l r : Expr} (hl : l.LiteralsAre kind)
    (hr : r.LiteralsAre kind) : (compare c l r).LiteralsAre kind := by
  cases c <;> simp [compare, hl, hr]

/-- What each phrase says about the literals of the expression that it is read as. -/
def Phrase.Keeps (kind : Value → Prop) : Phrase → Expr → Prop
  | .extend _ left, e => left.LiteralsAre kind → e.LiteralsAre kind
  | .items before, e => (∀ v ∈ before, kind v) → e.LiteralsAre kind
  | _, e => e.LiteralsAre kind

variable {fault : Option LexError}

/-- **Every literal is one of the tokens or their fillings**, or a list of such, or a number. -/
theorem Derives.literalsAre (hkind : Value.Writable kind) {phrase : Phrase} {ps : List Piece}
    {e : Expr} {rest : List Piece} (d : Derives fault phrase ps e rest)
    (hps : ∀ p ∈ ps, p.ValuesAre kind) :
    phrase.Keeps kind e ∧ ∀ p ∈ rest, p.ValuesAre kind := by
  induction d with
  | chain _ _ ihFirst ihRest =>
    obtain ⟨hf, hmid⟩ := ihFirst hps
    obtain ⟨hr, hrest⟩ := ihRest hmid
    exact ⟨hr hf, hrest⟩
  | stop _ => exact ⟨id, hps⟩
  | more hj _ _ _ ihRight ihRest =>
    obtain ⟨hr, hmid⟩ := ihRight (List.forall_mem_cons.1 hps).2
    obtain ⟨he, hlast⟩ := ihRest hmid
    exact ⟨fun hl => he (literalsAre_join hj hl hr), hlast⟩
  | orOperand _ ih | andOperand _ ih | sumOperand _ ih | productOperand _ ih
  | unnegated _ _ ih | sum _ _ ih | unsigned _ _ ih => exact ih hps
  | not _ _ _ ih =>
    obtain ⟨he, hlast⟩ := ih (List.forall_mem_cons.1 hps).2
    exact ⟨Expr.literalsAre_not.2 he, hlast⟩
  | isa _ _ _ _ ih =>
    obtain ⟨he, hmid⟩ := ih hps
    exact ⟨Expr.literalsAre_isInstance.2 he, fun p hp => hmid p (by simp [hp])⟩
  | @compare _ _ _ _ c _ _ _ _ _ _ _ ihLeft ihRight =>
    obtain ⟨hl, hmid⟩ := ihLeft hps
    obtain ⟨hr, hrest⟩ := ihRight (List.forall_mem_cons.1 hmid).2
    exact ⟨literalsAre_compare c hl hr, hrest⟩
  | minus _ _ _ ih | minusPrimary _ _ _ ih =>
    obtain ⟨he, hlast⟩ := ih (List.forall_mem_cons.1 hps).2
    exact ⟨Expr.literalsAre_arithmetic.2 ⟨Expr.literalsAre_literal.2 (hkind.integer _), he⟩, hlast⟩
  | literal hk _ =>
    rw [List.forall_mem_cons] at hps
    exact ⟨Expr.literalsAre_literal.2 (hps.1.1 _ hk), hps.2⟩
  | filled _ hv _ =>
    rw [List.forall_mem_cons] at hps
    exact ⟨Expr.literalsAre_literal.2 (hps.1.2 _ hv), hps.2⟩
  | field _ _ _ => exact ⟨Expr.literalsAre_field _, (List.forall_mem_cons.1 hps).2⟩
  | within _ _ _ _ ih =>
    obtain ⟨he, hlast⟩ := ih fun p hp => hps p (by simp [hp])
    exact ⟨Expr.literalsAre_within.2 ⟨Expr.literalsAre_field _, he⟩, hlast⟩
  | quantified _ _ _ _ _ ih =>
    obtain ⟨he, hlast⟩ := ih fun p hp => hps p (by simp [hp])
    exact ⟨Expr.literalsAre_quantified.2 ⟨Expr.literalsAre_field _, he⟩, hlast⟩
  | component => exact ⟨Expr.literalsAre_component _, fun p hp => hps p (by simp [hp])⟩
  | isaCurrent =>
    exact ⟨Expr.literalsAre_isInstance.2 (Expr.literalsAre_field _),
      fun p hp => hps p (by simp [hp])⟩
  | emptyList =>
    refine ⟨?_, fun p hp => hps p (by simp [hp])⟩
    exact Expr.literalsAre_literal.2 (hkind.array _ (by simp))
  | negative _ _ _ hv =>
    refine ⟨?_, fun p hp => hps p (by simp [hp])⟩
    exact Expr.literalsAre_literal.2 (of_negate? hkind hv)
  | group _ _ _ _ _ _ _ ih =>
    obtain ⟨he, hmid⟩ := ih (List.forall_mem_cons.1 hps).2
    exact ⟨he, (List.forall_mem_cons.1 hmid).2⟩
  | list _ _ _ _ _ _ hv _ ihFirst ihItems =>
    obtain ⟨hf, hmid⟩ := ihFirst (List.forall_mem_cons.1 hps).2
    obtain ⟨hitems, hlast⟩ := ihItems hmid
    exact ⟨hitems (List.forall_mem_singleton.2 (of_constant? hkind hf hv)), hlast⟩
  | item _ _ _ hv _ ihItem ihItems =>
    obtain ⟨hi, hmid⟩ := ihItem (List.forall_mem_cons.1 hps).2
    obtain ⟨hitems, hlast⟩ := ihItems hmid
    refine ⟨fun hbefore => hitems ?_, hlast⟩
    exact List.forall_mem_append.2
      ⟨hbefore, List.forall_mem_singleton.2 (of_constant? hkind hi hv)⟩
  | close _ _ =>
    refine ⟨fun hbefore => ?_, (List.forall_mem_cons.1 hps).2⟩
    exact Expr.literalsAre_literal.2 (hkind.array _ hbefore)

end Grammar

/-- **The literals of a query are of a kind if its parameters are**, and what can be written
without parameters. -/
theorem Query.literalsAre_of_parse {kind : Value → Prop} (hkind : Value.Writable kind)
    {source : String} {params : Option Params}
    (hparams : ∀ given ∈ params, given.ValuesAre kind) {query : Query}
    (h : parse source params = .ok query) : query.root.LiteralsAre kind := by
  rw [parse] at h
  dsimp only at h
  obtain ⟨root, hroot, h⟩ := Grammar.bind_eq_ok.1 h
  obtain ⟨_, hd⟩ := Grammar.query_eq_ok_iff.1 hroot
  have hliterals := (hd.literalsAre hkind
    (valuesAre_of_mem_fill hkind hparams (tokens_isLexical _) 0)).1
  split at h
  · cases h
  · cases h
    exact hliterals

/-- **A query can be solved again if its parameters can be read again.**  A query without
parameters always can. -/
theorem Query.isReadable_of_parse {source : String} {params : Option Params}
    (hparams : ∀ given ∈ params, given.IsReadable) {query : Query}
    (h : parse source params = .ok query) : query.root.IsReadable := by
  refine literalsAre_of_parse Value.writable_isReadable (fun given hgiven => ?_) h
  have hreadable := hparams given hgiven
  cases given <;> exact hreadable

end FieldQuery
