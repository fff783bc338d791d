import FieldQuery.Proofs.Readings

/-!
# Values that can be read again

Where no superposition in a value is single-pass, reading the value leaves no trace in what
later reads find.  What the solver itself makes of such values differs from one solve to the
next in nothing but the identities of the superpositions that it hands out.

* `Value.handles` — the handles of all superpositions in a value.
* `Value.IsReadable` — none of them is single-pass.
* `Value.Alike` — readable values that are the same but for such an identity.
* `Value.IsSingle` — not a superposition; `Value.candidates_induction` is the induction that
  the recursions through nested superpositions call for.
* `Value.Reopens` — no superposition that such a recursion comes across is single-pass.
-/

namespace FieldQuery

open Reading

namespace Value

/-! ## Superpositions in values -/

mutual

/-- The handles of the superpositions in a value, at any depth. -/
def handles : Value → List Handle
  | .array items => itemHandles items
  | .object fields => fieldHandles fields
  | .record _ _ fields => fieldHandles fields
  | .superposition handle candidates => handle :: itemHandles candidates
  | _ => []

/-- The handles of the superpositions in some values. -/
def itemHandles : List Value → List Handle
  | [] => []
  | v :: vs => handles v ++ itemHandles vs

/-- The handles of the superpositions in some named values. -/
def fieldHandles : List (String × Value) → List Handle
  | [] => []
  | (_, v) :: fields => handles v ++ fieldHandles fields

end

/-- No superposition in the value is single-pass. -/
def IsReadable (v : Value) : Prop :=
  ∀ handle ∈ v.handles, handle.source ≠ .singlePass

@[simp] theorem forall_itemHandles {P : Handle → Prop} {items : List Value} :
    (∀ handle ∈ itemHandles items, P handle) ↔ ∀ v ∈ items, ∀ handle ∈ v.handles, P handle := by
  induction items with
  | nil => simp [itemHandles]
  | cons v vs ih => simp only [itemHandles, List.forall_mem_append, ih, List.forall_mem_cons]

@[simp] theorem forall_fieldHandles {P : Handle → Prop} {fields : List (String × Value)} :
    (∀ handle ∈ fieldHandles fields, P handle) ↔
      ∀ field ∈ fields, ∀ handle ∈ field.2.handles, P handle := by
  induction fields with
  | nil => simp [fieldHandles]
  | cons field fields ih =>
    obtain ⟨name, v⟩ := field
    simp only [fieldHandles, List.forall_mem_append, ih, List.forall_mem_cons]

@[simp] theorem isReadable_array {items : List Value} :
    (Value.array items).IsReadable ↔ ∀ v ∈ items, v.IsReadable :=
  forall_itemHandles

@[simp] theorem isReadable_object {fields : List (String × Value)} :
    (Value.object fields).IsReadable ↔ ∀ field ∈ fields, field.2.IsReadable :=
  forall_fieldHandles

@[simp] theorem isReadable_record {identity : Identity} {typeName : String}
    {fields : List (String × Value)} :
    (Value.record identity typeName fields).IsReadable ↔
      ∀ field ∈ fields, field.2.IsReadable :=
  forall_fieldHandles

@[simp] theorem isReadable_superposition {handle : Handle} {candidates : List Value} :
    (Value.superposition handle candidates).IsReadable ↔
      handle.source ≠ .singlePass ∧ ∀ v ∈ candidates, v.IsReadable :=
  List.forall_mem_cons.trans (and_congr_right' forall_itemHandles)

/-- A value without superpositions can be read again. -/
theorem isReadable_of_handles {v : Value} (h : v.handles = []) : v.IsReadable := by
  rw [IsReadable, h]
  exact List.forall_mem_nil _

@[simp] theorem isReadable_null : Value.null.IsReadable :=
  isReadable_of_handles rfl

@[simp] theorem isReadable_boolean (b : Bool) : (Value.boolean b).IsReadable :=
  isReadable_of_handles rfl

@[simp] theorem isReadable_integer (n : Int64) : (Value.integer n).IsReadable :=
  isReadable_of_handles rfl

@[simp] theorem isReadable_float (x : Float) : (Value.float x).IsReadable :=
  isReadable_of_handles rfl

@[simp] theorem isReadable_string (s : String) : (Value.string s).IsReadable :=
  isReadable_of_handles rfl

theorem mem_of_lookup {name : String} {fields : List (String × Value)} {v : Value}
    (h : lookup name fields = some v) : (name, v) ∈ fields := by
  induction fields with
  | nil => simp [lookup] at h
  | cons field fields ih =>
    obtain ⟨key, w⟩ := field
    unfold lookup at h
    split at h
    · rename_i hkey
      obtain rfl := Option.some.inj h
      exact hkey ▸ List.mem_cons_self
    · exact List.mem_cons_of_mem _ (ih h)

/-- A field of readable fields is readable. -/
theorem isReadable_of_lookup {name : String} {fields : List (String × Value)} {v : Value}
    (h : lookup name fields = some v) (hfields : ∀ field ∈ fields, field.2.IsReadable) :
    v.IsReadable :=
  hfields _ (mem_of_lookup h)

/-! ## Single values -/

/-- Not a superposition. -/
def IsSingle (v : Value) : Prop :=
  ∀ handle candidates, v ≠ .superposition handle candidates

/-- What is true of single values, and of superpositions if of all their candidates, is true
of every value. -/
theorem candidates_induction {P : Value → Prop} (single : ∀ v, v.IsSingle → P v)
    (superposition : ∀ handle candidates, (∀ v ∈ candidates, P v) →
      P (.superposition handle candidates)) (v : Value) : P v := by
  -- the candidates of a superposition take part in the recursion as a list
  refine Value.rec (motive_1 := P) (motive_2 := fun vs => ∀ v ∈ vs, P v)
    (motive_3 := fun _ => True) (motive_4 := fun _ => True)
    ?null ?boolean ?integer ?float ?string ?array ?object ?record ?superposition
    ?nil ?cons ?noFields ?fields ?field v
  case superposition => exact superposition
  case nil => simp
  case cons => exact fun w ws hw hws => List.forall_mem_cons.2 ⟨hw, hws⟩
  case noFields | fields | field => intros; trivial
  all_goals
    intros
    exact single _ (by rintro _ _ ⟨⟩)

/-- The candidates of the value, and theirs, can be found again and again.  What a value holds in
its elements and fields does not matter to that. -/
inductive Reopens : Value → Prop where
  /-- A single value has no candidates. -/
  | single {v : Value} (h : v.IsSingle) : Reopens v
  /-- A superposition that is not single-pass. -/
  | superposition {handle : Handle} {candidates : List Value} (h : handle.source ≠ .singlePass)
    (hcandidates : ∀ c ∈ candidates, Reopens c) : Reopens (.superposition handle candidates)

@[simp] theorem reopens_superposition {handle : Handle} {candidates : List Value} :
    (Value.superposition handle candidates).Reopens ↔
      handle.source ≠ .singlePass ∧ ∀ c ∈ candidates, c.Reopens := by
  constructor
  · rintro (hsingle | ⟨h, hcandidates⟩)
    · exact absurd rfl (hsingle _ _)
    · exact ⟨h, hcandidates⟩
  · exact fun h => .superposition h.1 h.2

theorem IsReadable.reopens {v : Value} (h : v.IsReadable) : v.Reopens := by
  induction v using candidates_induction with
  | single v hsingle => exact .single hsingle
  | superposition handle candidates ih =>
    rw [isReadable_superposition] at h
    exact .superposition h.1 fun c hc => ih c hc (h.2 c hc)

/-! ## Reading superpositions -/

/-- A superposition that is not single-pass always answers. -/
theorem ensures_ask {handle : Handle} (h : handle.source ≠ .singlePass) :
    Ensures (· = true) handle.ask := by
  intro ledger
  obtain ⟨identity, source⟩ := handle
  cases source with
  | owned | supplied => rfl
  | singlePass => exact absurd rfl h

/-- Taking candidates does not change them. -/
theorem ensures_takeAll (handle : Handle) (candidates : List Value) :
    Ensures (· = candidates) (handle.takeAll candidates) := by
  intro ledger
  rfl

theorem ensures_readAll {handle : Handle} (h : handle.source ≠ .singlePass)
    (candidates : List Value) : Ensures (· = candidates) (handle.readAll candidates) := by
  refine (ensures_ask h).bind ?_
  rintro _ rfl
  exact ensures_takeAll handle candidates

/-! ## Values that are alike -/

/-- Readable values that are the same, save that a superposition of the solver has another
identity. -/
inductive Alike : Value → Value → Prop where
  /-- The same value. -/
  | same {v : Value} (readable : v.IsReadable) : Alike v v
  /-- Two superpositions of the solver, with the same candidates. -/
  | copies {i j : Identity} {candidates : List Value}
      (readable : ∀ v ∈ candidates, v.IsReadable) :
      Alike (.superposition ⟨i, .owned⟩ candidates) (.superposition ⟨j, .owned⟩ candidates)

theorem Alike.readable {v w : Value} (h : Alike v w) : v.IsReadable := by
  cases h with
  | same readable => exact readable
  | copies readable => simpa using readable

theorem Alike.symm {v w : Value} (h : Alike v w) : Alike w v := by
  cases h with
  | same readable => exact .same readable
  | copies readable => exact .copies readable

theorem isSingle_or (v : Value) :
    v.IsSingle ∨ ∃ handle candidates, v = .superposition handle candidates := by
  cases v with
  | superposition handle candidates => exact .inr ⟨handle, candidates, rfl⟩
  | _ => exact .inl (by rintro _ _ ⟨⟩)

/-- Values that are alike are one single value, or superpositions with the same candidates that
can both be read again. -/
theorem Alike.single_or_candidates {v w : Value} (h : Alike v w) :
    (v.IsSingle ∧ v = w) ∨ ∃ handle handle' candidates,
      v = .superposition handle candidates ∧ w = .superposition handle' candidates ∧
      handle.source ≠ .singlePass ∧ handle'.source ≠ .singlePass ∧
      ∀ c ∈ candidates, c.IsReadable := by
  cases h with
  | copies readable => exact .inr ⟨_, _, _, rfl, rfl, by simp, by simp, readable⟩
  | same readable =>
    rcases isSingle_or v with hsingle | ⟨handle, candidates, rfl⟩
    · exact .inl ⟨hsingle, rfl⟩
    · rw [isReadable_superposition] at readable
      exact .inr ⟨_, _, _, rfl, rfl, readable.1, readable.1, readable.2⟩

/-- What is true of a single value and itself, and of superpositions with the same candidates
if of each candidate and itself, is true of values that are alike. -/
@[elab_as_elim]
theorem Alike.candidates_induction {motive : Value → Value → Prop}
    (single : ∀ v, v.IsSingle → v.IsReadable → motive v v)
    (superposition : ∀ handle handle' candidates, handle.source ≠ .singlePass →
      handle'.source ≠ .singlePass → (∀ c ∈ candidates, c.IsReadable) →
      (∀ c ∈ candidates, motive c c) →
      motive (.superposition handle candidates) (.superposition handle' candidates))
    {v w : Value} (h : Alike v w) : motive v w := by
  have same : ∀ v : Value, v.IsReadable → motive v v := by
    intro v
    induction v using Value.candidates_induction with
    | single v hsingle => exact single v hsingle
    | superposition handle candidates ih =>
      intro hv
      rw [isReadable_superposition] at hv
      exact superposition handle handle candidates hv.1 hv.1 hv.2 fun c hc => ih c hc (hv.2 c hc)
  obtain ⟨-, rfl⟩ | ⟨handle, handle', candidates, rfl, rfl, hh, hh', hcandidates⟩ :=
    h.single_or_candidates
  · exact same v h.readable
  · exact superposition handle handle' candidates hh hh' hcandidates fun c hc =>
      same c (hcandidates c hc)

theorem Alike.isNull_eq {v w : Value} (h : Alike v w) : v.isNull = w.isNull := by
  cases h <;> rfl

theorem Alike.typeName_eq {v w : Value} (h : Alike v w) : v.typeName = w.typeName := by
  cases h <;> rfl

/-- Values made of the same candidates are alike. -/
theorem agree_ofCandidates {candidates : List Value} (h : ∀ v ∈ candidates, v.IsReadable) :
    Agree Alike (ofCandidates candidates) (ofCandidates candidates) := by
  intro ledger ledger'
  match candidates with
  | [] => exact .same isReadable_null
  | [v] => exact .same (h v (by simp))
  | _ :: _ :: _ => exact .copies h

/-- Two superpositions that are not single-pass answer alike. -/
theorem agree_ask {handle handle' : Handle} (h : handle.source ≠ .singlePass)
    (h' : handle'.source ≠ .singlePass) :
    Agree (fun answer answer' => answer = true ∧ answer' = true) handle.ask handle'.ask :=
  (ensures_ask h).agree (ensures_ask h') fun _ _ => And.intro

/-- Reading the same candidates finds the same. -/
theorem agree_readAll {handle handle' : Handle} (h : handle.source ≠ .singlePass)
    (h' : handle'.source ≠ .singlePass) (candidates : List Value) :
    Agree (fun found found' => found = candidates ∧ found' = candidates)
      (handle.readAll candidates) (handle'.readAll candidates) :=
  (ensures_readAll h candidates).agree (ensures_readAll h' candidates) fun _ _ => And.intro

theorem settle_of_isSingle {v : Value} (h : v.IsSingle) : v.settle = pure v := by
  cases v with
  | superposition => exact absurd rfl (h _ _)
  | _ => rfl

/-- Copies of values that are alike are alike. -/
theorem agree_settle {v w : Value} (h : Alike v w) : Agree Alike v.settle w.settle := by
  obtain ⟨hsingle, rfl⟩ | ⟨handle, handle', candidates, rfl, rfl, hh, hh', hcandidates⟩ :=
    h.single_or_candidates
  · rw [settle_of_isSingle hsingle]
    exact agree_pure h
  · refine (agree_readAll hh hh' candidates).bind ?_
    rintro _ _ ⟨rfl, rfl⟩
    exact agree_ofCandidates hcandidates

/-! ## Truth -/

/-- The truth value of a readable value. -/
def truth : Value → Bool
  | .null => false
  | .boolean b => b
  | .integer n => n != 0
  | .float x => x != Float.ofNat 0
  | .string s => s != ""
  | .array items => !items.isEmpty
  | .object fields => !fields.isEmpty
  | .record _ _ _ => true
  | .superposition _ candidates => !candidates.isEmpty

/-- A value that is no single-pass superposition has one answer to whether it is true. -/
theorem ensures_isTruthy_of_source {v : Value}
    (h : ∀ handle candidates, v = .superposition handle candidates →
      handle.source ≠ .singlePass) : Ensures (· = v.truth) v.isTruthy := by
  cases v with
  | superposition handle candidates =>
    refine (ensures_ask (h handle candidates rfl)).bind ?_
    rintro _ rfl
    cases candidates with
    | nil => exact ensures_pure rfl
    | cons c cs => exact (ensures_true _).bind fun _ _ => ensures_pure rfl
  | _ => exact ensures_pure rfl

theorem ensures_isTruthy {v : Value} (h : v.IsReadable) : Ensures (· = v.truth) v.isTruthy := by
  refine ensures_isTruthy_of_source ?_
  rintro handle candidates rfl
  exact (isReadable_superposition.1 h).1

theorem Alike.truth_eq {v w : Value} (h : Alike v w) : v.truth = w.truth := by
  cases h <;> rfl

end Value

end FieldQuery
