import FieldQuery.Proofs.Documents
import FieldQuery.Proofs.Faithful
import FieldQuery.Proofs.Reparse

/-!
# Fields of documents

A query that is a field path answers with the part of the document at the end of the path, or with
`null` where the path does not lead anywhere.  All is as it is written there except for integers
that have 64 bits of room only without a sign: they become floats, which are not the same number as
a rule.

* `Json.atPath` — the part of a document at the end of a path.
* `Json.resolve_toValue` — paths lead to the same place in documents and in their values.
* `Json.rounded` — a document with the integers that there is no value for as floats.
* `Json.ensures_ofValue_toValue` — what is written of the value of a document.
* `Query.parse_field` — the text of a path is a query that is the path.
* `Check.run_field` — a field path answers with the part of the document at its end.
-/

namespace FieldQuery

open Reading Judging

namespace Json

/-! ## Parts of documents -/

/-- The document under a name in an object. -/
def member? (name : String) : Json → Option Json
  | .object members => members.lookup name
  | _ => none

/-- The part of a document at the end of a path, `null` where the path does not lead anywhere. -/
def atPath : List String → Json → Json
  | [], json => json
  | name :: rest, json =>
    match json.member? name with
    | some next => atPath rest next
    | none => .null

theorem lookup_toFields (name : String) (members : List (String × Json)) :
    Value.lookup name (toFields members) = (members.lookup name).map toValue := by
  induction members with
  | nil => rfl
  | cons member rest ih =>
    obtain ⟨key, json⟩ := member
    rw [toFields, Value.lookup, List.lookup_cons, ih]
    by_cases h : key = name
    · rw [if_pos h, beq_iff_eq.2 h.symm]
      rfl
    · rw [if_neg h, beq_eq_false_iff_ne.2 (Ne.symm h)]

/-- A name leads to the same place in a document and in its value. -/
theorem next?_toValue (name : String) (json : Json) :
    json.toValue.next? name = (json.member? name).map toValue := by
  cases json with
  | integer n =>
    rw [toValue]
    unfold Value.ofInt?
    split <;> rfl
  | object members => exact lookup_toFields name members
  | _ => rfl

/-- **Paths lead to the same place in documents and in their values.** -/
theorem resolve_toValue (path : List String) (json : Json) :
    Value.resolve path json.toValue = pure (json.atPath path).toValue := by
  induction path generalizing json with
  | nil => rfl
  | cons name rest ih =>
    rw [Value.resolve, Value.descend_of_isSingle name _ (isData_toValue json).isSingle,
      next?_toValue, atPath]
    cases json.member? name with
    | some next => exact ih next
    | none => rfl

/-- The numbers of a part are numbers of the document. -/
theorem NumbersAre.atPath {whole : Int → Prop} {real : Float → Prop} {json : Json}
    (h : json.NumbersAre whole real) (path : List String) :
    (json.atPath path).NumbersAre whole real := by
  induction path generalizing json with
  | nil => exact h
  | cons name rest ih =>
    rw [Json.atPath]
    cases hnext : json.member? name with
    | none => exact .null
    | some next =>
      cases h with
      | object hmembers =>
        obtain ⟨before, after, rfl, -⟩ := List.lookup_eq_some_iff.1 hnext
        exact ih (hmembers (name, next) (List.mem_append_right _ List.mem_cons_self))
      | _ => cases hnext

/-! ## Documents that are written again -/

/-- Has an integer 64 bits of room for itself and its sign?  Only such integers are values. -/
def HasValue (n : Int) : Prop :=
  -2 ^ 63 ≤ n ∧ n < 2 ^ 63

instance (n : Int) : Decidable (HasValue n) :=
  inferInstanceAs (Decidable (_ ∧ _))

mutual

/-- The document with the integers that there is no value for as floats. -/
def rounded : Json → Json
  | .integer n => if HasValue n then .integer n else .float (Float.ofInt n)
  | .array items => .array (roundedItems items)
  | .object members => .object (roundedMembers members)
  | json => json

/-- The elements of an array with such integers as floats. -/
def roundedItems : List Json → List Json
  | [] => []
  | json :: rest => rounded json :: roundedItems rest

/-- The members of an object with such integers as floats. -/
def roundedMembers : List (String × Json) → List (String × Json)
  | [] => []
  | (name, json) :: rest => (name, rounded json) :: roundedMembers rest

end

mutual

/-- **All numbers of a document are kept** exactly if there is a value for each of its integers. -/
theorem rounded_eq_self_iff : (json : Json) →
    (json.rounded = json ↔ json.NumbersAre HasValue fun _ => True)
  | .null => ⟨fun _ => .null, fun _ => rfl⟩
  | .bool b => ⟨fun _ => .bool b, fun _ => rfl⟩
  | .float _ => ⟨fun _ => .float trivial, fun _ => rfl⟩
  | .string s => ⟨fun _ => .string s, fun _ => rfl⟩
  | .integer n => by
    rw [rounded]
    constructor
    · intro h
      split at h
      · rename_i hn
        exact .integer hn
      · cases h
    · intro h
      cases h with
      | integer hn => exact if_pos hn
  | .array items => by
    rw [rounded, array.injEq, roundedItems_eq_self_iff items]
    exact ⟨.array, fun | .array h => h⟩
  | .object members => by
    rw [rounded, object.injEq, roundedMembers_eq_self_iff members]
    exact ⟨.object, fun | .object h => h⟩

theorem roundedItems_eq_self_iff : (items : List Json) →
    (roundedItems items = items ↔ ∀ json ∈ items, json.NumbersAre HasValue fun _ => True)
  | [] => by simp [roundedItems]
  | json :: rest => by
    rw [roundedItems, List.cons.injEq, List.forall_mem_cons, rounded_eq_self_iff json,
      roundedItems_eq_self_iff rest]

theorem roundedMembers_eq_self_iff : (members : List (String × Json)) →
    (roundedMembers members = members ↔
      ∀ member ∈ members, member.2.NumbersAre HasValue fun _ => True)
  | [] => by simp [roundedMembers]
  | (name, json) :: rest => by
    rw [roundedMembers, List.cons.injEq, List.forall_mem_cons, Prod.mk.injEq,
      rounded_eq_self_iff json, roundedMembers_eq_self_iff rest]
    simp

end

theorem ensures_ofValues_toValues {take : Reading Unit} {items : List Json}
    (h : ∀ json ∈ items, Ensures (· = json.rounded) (ofValue json.toValue)) :
    Ensures (· = roundedItems items) (ofValues take (toValues items)) := by
  induction items with
  | nil => exact ensures_pure rfl
  | cons json rest ih =>
    rw [List.forall_mem_cons] at h
    rw [toValues, ofValues]
    refine (ensures_true take).bind fun _ _ => ?_
    refine h.1.bind fun first hfirst => ?_
    refine (ih h.2).bind fun more hmore => ?_
    exact ensures_pure (by rw [roundedItems, hfirst, hmore])

theorem ensures_ofFields_toFields {members : List (String × Json)}
    (h : ∀ member ∈ members, Ensures (· = member.2.rounded) (ofValue member.2.toValue)) :
    Ensures (· = roundedMembers members) (ofFields (toFields members)) := by
  induction members with
  | nil => exact ensures_pure rfl
  | cons member rest ih =>
    obtain ⟨name, json⟩ := member
    rw [List.forall_mem_cons] at h
    rw [toFields, ofFields]
    refine h.1.bind fun first hfirst => ?_
    refine (ih h.2).bind fun more hmore => ?_
    exact ensures_pure (by rw [roundedMembers, hfirst, hmore])

theorem isFinite_ofInt {n : Int} (h : Fits n) (hn : ¬ HasValue n) :
    (Float.ofInt n).isFinite = true := by
  unfold Fits at h
  unfold HasValue at hn
  -- integers without a value have no sign
  obtain ⟨m, rfl⟩ : ∃ m : Nat, n = m := ⟨n.toNat, by omega⟩
  exact Number.isFinite_ofNat (by omega)

/-- **What is written of the value of a document** is the document, except for the integers that
there is no value for. -/
theorem ensures_ofValue_toValue {json : Json} (h : json.WithinRange) :
    Ensures (· = json.rounded) (ofValue json.toValue) := by
  induction h with
  | null | bool | string => exact ensures_pure rfl
  | @integer n h =>
    have hrange : HasValue n ↔ Int64.minValue.toInt ≤ n ∧ n ≤ Int64.maxValue.toInt := by
      have hmin : Int64.minValue.toInt = -2 ^ 63 := rfl
      have hmax : Int64.maxValue.toInt = 2 ^ 63 - 1 := rfl
      rw [hmin, hmax, HasValue]
      omega
    rw [toValue, Value.ofInt?, rounded]
    by_cases hn : HasValue n
    · rw [if_pos (hrange.1 hn), if_pos hn]
      have hback : (Int64.ofInt n).toInt = n := Int64.toInt_ofInt_of_le hn.1 hn.2
      exact ensures_pure (by rw [hback])
    · rw [if_neg (fun hn' => hn (hrange.2 hn')), if_neg hn]
      exact ensures_pure (if_pos (isFinite_ofInt h hn))
  | float hfinite => exact ensures_pure (if_pos hfinite)
  | array _ ih =>
    refine (ensures_ofValues_toValues ih).bind fun items hitems => ?_
    exact ensures_pure (by rw [rounded, hitems])
  | object _ ih =>
    refine (ensures_ofFields_toFields ih).bind fun members hmembers => ?_
    exact ensures_pure (by rw [rounded, hmembers])

end Json

/-! ## Queries that are paths -/

/-- **The text of a path is a query that is the path.** -/
theorem Query.parse_field {source : String} (h : Text.IsSpelling source) :
    parse source none = .ok ⟨.field (Path.ofText source)⟩ := by
  have hprimary := Grammar.spells_field source
  have hnegation := hprimary.negation (by decide) ⟨_, _, rfl, rfl, rfl⟩
  exact parse_of_spells (lexes_identifier h) hnegation.conjunction.whole

/-! ## Checks -/

namespace Check

variable {check : Check}

/-- The text of a path is parsed as the path. -/
theorem parsed_field (hparams : check.params = none) (h : Text.IsSpelling check.query) :
    check.parsed = .ok ⟨.field (Path.ofText check.query)⟩ := by
  have hparse : check.parsed = (Query.parse check.query none).mapError .parse := by
    rw [parsed, hparams]
    rfl
  rw [hparse, Query.parse_field h]
  rfl

end Check

/-- A field path comes to the value of the part of a document at its end. -/
theorem Expr.ensures_field_document {app : Application} (hlenient : app.strict = false)
    (path : Path) (document : Json) :
    Ensures (· = .ok (.plain (document.atPath path.segments).toValue))
      ((Expr.field path).solve app document.toValue).run := by
  have hresolve : Ensures (· = (document.atPath path.segments).toValue)
      (Value.resolve path.segments document.toValue) := by
    rw [Json.resolve_toValue]
    exact ensures_pure rfl
  have hsettle : Ensures (· = (document.atPath path.segments).toValue)
      (document.atPath path.segments).toValue.settle := by
    rw [Value.settle_of_isSingle (Json.isData_toValue _).isSingle]
    exact ensures_pure rfl
  rw [solve, ExceptT.run_bind]
  refine (ensures_valueAt_of_resolve hlenient hresolve).bind ?_
  rintro _ ⟨_, rfl, rfl⟩
  refine ensures_lift hsettle ?_
  rintro _ rfl
  exact ensures_pure rfl

namespace Check

variable {check : Check}

/-- A field path answers with the part of the document at its end, with integers that there is no
value for as floats. -/
theorem run_of_parsed_field {source : String} {document : Json} {path : Path}
    (hfull : check.syntaxOnly = false) (hlenient : check.strict = false)
    (hinput : check.input = some source) (hdocument : Json.ofText? source = some document)
    (hquery : check.parsed = .ok ⟨.field path⟩) :
    check.run.1 = .ok (.solved (document.atPath path.segments).rounded none) := by
  have hdata : check.data = .ok document.toValue := by
    unfold Check.data
    rw [hinput]
    dsimp only
    rw [hdocument]
  have hvalue : Ensures (· = .ok (.plain (document.atPath path.segments).toValue))
      ((Expr.field path).solve check.application document.toValue).run :=
    Expr.ensures_field_document hlenient path document
  obtain ⟨after, hsolve⟩ : ∃ after,
      ((Query.mk (.field path)).solve check.application document.toValue).run ⟨0, []⟩ =
        (.ok (.plain (document.atPath path.segments).toValue), after) :=
    ⟨_, Prod.ext (hvalue (Ledger.note (.started (.field path)) ⟨0, []⟩)) rfl⟩
  have hwithin := (Json.withinRange_of_ofText? hdocument).atPath path.segments
  have hwritten := Json.ensures_ofValue_toValue hwithin after
  rw [run_of_solved hfull hquery hdata hsolve]
  show Except.ok (Finding.solved ((Json.ofValue (document.atPath path.segments).toValue).run after).1
    (if check.trace then none else none)) = _
  rw [hwritten, ite_self]

/-- **A field path answers with the part of the document at its end**, which is `null` where a name
of the path is missing or meets what is no object.  The text of a path is such a query.  In the
answer, integers that have 64 bits of room only without a sign are floats; so it is that part as it
is exactly if it has no such integers. -/
theorem run_field {source : String} {document : Json} (hfull : check.syntaxOnly = false)
    (hlenient : check.strict = false) (hinput : check.input = some source)
    (hdocument : Json.ofText? source = some document) :
    (check.params = none → Text.IsSpelling check.query →
      check.parsed = .ok ⟨.field (Path.ofText check.query)⟩) ∧
    ∀ path, check.parsed = .ok ⟨.field path⟩ →
      check.run.1 = .ok (.solved (document.atPath path.segments).rounded none) ∧
      ((document.atPath path.segments).rounded = document.atPath path.segments ↔
        (document.atPath path.segments).NumbersAre Json.HasValue fun _ => True) :=
  ⟨parsed_field, fun _ hquery =>
    ⟨run_of_parsed_field hfull hlenient hinput hdocument hquery, Json.rounded_eq_self_iff _⟩⟩

/-- A path of two names and a number that there is a value for. -/
def nested : Check where
  query := "file.size"
  input := some "\x7b\"file\": \x7b\"size\": 5\x7d\x7d"
  params := none
  syntaxOnly := false
  strict := false
  trace := false

theorem run_field_nested :
    (∃ source, nested.input = some source ∧
      Json.ofText? source = some (.object [("file", .object [("size", .integer 5)])])) ∧
      nested.parsed = .ok ⟨.field ⟨["file", "size"]⟩⟩ ∧
      nested.run.1 = .ok (.solved (.integer 5) none) := by
  have hdocument : Json.ofText? "\x7b\"file\": \x7b\"size\": 5\x7d\x7d" =
      some (.object [("file", .object [("size", .integer 5)])]) := by
    have hchars : "\x7b\"file\": \x7b\"size\": 5\x7d\x7d".toList =
        ['\x7b', '\x22', 'f', 'i', 'l', 'e', '\x22', ':', ' ', '\x7b', '\x22', 's', 'i', 'z', 'e', '\x22',
          ':', ' ', '5', '\x7d', '\x7d'] := by
      with_unfolding_all rfl
    simp only [Json.ofText?, hchars]
    with_unfolding_all rfl
  have hspelling : Text.IsSpelling nested.query :=
    ⟨⟨'f', "ile.size".toList, rfl, by decide, by decide⟩, by decide⟩
  have hpath : Path.ofText nested.query = ⟨["file", "size"]⟩ := by with_unfolding_all rfl
  obtain ⟨hparsed, hrun⟩ := @run_field nested _ _ rfl rfl rfl hdocument
  have hquery := hparsed rfl hspelling
  rw [hpath] at hquery
  exact ⟨⟨_, rfl, hdocument⟩, hquery, (hrun _ hquery).1⟩

/-- A path to the greatest integer of 64 bits without a sign. -/
def greatest : Check where
  query := "id"
  input := some "\x7b\"id\":18446744073709551615\x7d"
  params := none
  syntaxOnly := false
  strict := false
  trace := false

/-- That integer comes out as a float, and so the answer is not the part of the document at the end
of the path. -/
theorem run_field_greatest : ∃ source document,
    greatest.input = some source ∧ Json.ofText? source = some document ∧
      greatest.parsed = .ok ⟨.field ⟨["id"]⟩⟩ ∧
      document.atPath ["id"] = .integer 18446744073709551615 ∧
      greatest.run.1 = .ok (.solved (.float (Float.ofInt 18446744073709551615)) none) ∧
      greatest.run.1 ≠ .ok (.solved (document.atPath ["id"]) none) := by
  have hdocument : Json.ofText? "\x7b\"id\":18446744073709551615\x7d" =
      some (.object [("id", .integer 18446744073709551615)]) := by
    have hchars : "\x7b\"id\":18446744073709551615\x7d".toList =
        ['\x7b', '\x22', 'i', 'd', '\x22', ':', '1', '8', '4', '4', '6', '7', '4', '4', '0', '7', '3',
          '7', '0', '9', '5', '5', '1', '6', '1', '5', '\x7d'] := by
      with_unfolding_all rfl
    simp only [Json.ofText?, hchars]
    with_unfolding_all rfl
  have hspelling : Text.IsSpelling greatest.query :=
    ⟨⟨'i', "d".toList, rfl, by decide, by decide⟩, by decide⟩
  have hpath : Path.ofText greatest.query = ⟨["id"]⟩ := by with_unfolding_all rfl
  have hquery : greatest.parsed = .ok ⟨.field ⟨["id"]⟩⟩ := by
    rw [parsed_field rfl hspelling, hpath]
  have hrun := run_of_parsed_field rfl rfl rfl hdocument hquery
  refine ⟨_, _, rfl, hdocument, hquery, rfl, hrun, ?_⟩
  rw [hrun]
  rintro ⟨⟩

end Check

end FieldQuery
