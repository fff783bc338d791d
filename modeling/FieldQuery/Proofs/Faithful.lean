import FieldQuery.Check
import FieldQuery.Proofs.Kinds
import FieldQuery.Proofs.Supplied

/-!
# Answers in JSON are faithful

A check takes its document and its parameters from JSON, where there are no records and no
superpositions, and nothing that a query does makes any.  So its answer is a value that JSON has
as well, and reading the answer gives the value back, with every integer an integer and every
float a float, unless a float in it is infinite or no number.

* `Value.IsData` — a value of JSON, with floats of a kind only.
* `Value.preserves_isData` — solving keeps to such values.
* `Json.isData_toValue`, `Params.valuesAre_isData` — documents and parameters are such values.
* `Json.ensures_toValue_ofValue` — those with finite floats are read back as they were written.
* `Check.run_faithful` — so the answer of a check is faithful.
-/

namespace FieldQuery

open Reading Judging

/-! ## Values of JSON -/

/-- A value without records and superpositions at any depth, and with floats of a kind only. -/
inductive Value.IsData (kind : Float → Prop) : Value → Prop where
  /-- No value. -/
  | null : IsData kind .null
  /-- A truth value. -/
  | boolean (b : Bool) : IsData kind (.boolean b)
  /-- An integer. -/
  | integer (n : Int64) : IsData kind (.integer n)
  /-- A float of the kind. -/
  | float {x : Float} (h : kind x) : IsData kind (.float x)
  /-- A text. -/
  | string (s : String) : IsData kind (.string s)
  /-- A list of such values. -/
  | array {items : List Value} (h : ∀ v ∈ items, IsData kind v) : IsData kind (.array items)
  /-- Such values with names. -/
  | object {fields : List (String × Value)} (h : ∀ field ∈ fields, IsData kind field.2) :
    IsData kind (.object fields)

namespace Value

variable {kind : Float → Prop} {v w : Value}

theorem IsData.isSingle (h : v.IsData kind) : v.IsSingle := by
  rintro handle candidates rfl
  cases h

theorem IsData.next? {name : String} (h : v.IsData kind) (hnext : v.next? name = some w) :
    w.IsData kind := by
  cases h with
  | object hfields => exact hfields _ (mem_of_lookup hnext)
  | _ => cases hnext

theorem IsData.ensures_resolve (path : List String) (h : v.IsData kind) :
    Ensures (IsData kind) (resolve path v) := by
  induction path generalizing v with
  | nil => exact ensures_pure h
  | cons name rest ih =>
    rw [resolve, descend_of_isSingle name (resolve rest) h.isSingle]
    cases hnext : v.next? name with
    | none => exact ensures_pure .null
    | some next => exact ih (h.next? hnext)

theorem IsComputed.isData (h : v.IsComputed) : v.IsData fun _ => True := by
  cases h with
  | integer n => exact .integer n
  | float x => exact .float trivial
  | string s => exact .string s

/-- No operator makes a record or a superposition of values of JSON. -/
theorem preserves_isData : Expr.Preserves (IsData fun _ => True) (IsData fun _ => True) where
  context_of_result _ h := h
  resolve path _ h := h.ensures_resolve path
  settle _ h := by
    rw [settle_of_isSingle h.isSingle]
    exact ensures_pure h
  boolean := .boolean
  computed _ := IsComputed.isData

/-- What can be written in a query are values of JSON. -/
theorem writable_isData : Writable (IsData fun _ => True) where
  lexical v h := by
    cases v with
    | string s => exact .string s
    | integer n => exact .integer n
    | float x => exact .float trivial
    | _ => exact h.elim
  integer := .integer
  float _ := .float trivial
  array _ := .array

end Value

/-! ## Documents as values -/

namespace Json

mutual

/-- A document is a value of JSON, its floats being what they may. -/
theorem isData_toValue : (json : Json) → json.toValue.IsData fun _ => True
  | .null => .null
  | .bool b => .boolean b
  | .integer n => by
    rw [toValue]
    cases hn : Value.ofInt? n with
    | none => exact .float trivial
    | some v => exact (Value.isComputed_of_ofInt? hn).isData
  | .float _ => .float trivial
  | .string s => .string s
  | .array items => .array (isData_toValues items)
  | .object members => .object (isData_toFields members)

theorem isData_toValues : (items : List Json) → ∀ v ∈ toValues items, v.IsData fun _ => True
  | [] => List.forall_mem_nil _
  | json :: rest => List.forall_mem_cons.2 ⟨isData_toValue json, isData_toValues rest⟩

theorem isData_toFields : (members : List (String × Json)) →
    ∀ field ∈ toFields members, field.2.IsData fun _ => True
  | [] => List.forall_mem_nil _
  | (_, json) :: rest => List.forall_mem_cons.2 ⟨isData_toValue json, isData_toFields rest⟩

end

/-! ## Values as documents -/

theorem ensures_toValues_ofValues {take : Reading Unit} {items : List Value}
    (h : ∀ v ∈ items, Ensures (fun json => json.toValue = v) (ofValue v)) :
    Ensures (fun jsons => toValues jsons = items) (ofValues take items) := by
  induction items with
  | nil => exact ensures_pure rfl
  | cons v vs ih =>
    rw [List.forall_mem_cons] at h
    rw [ofValues]
    refine (ensures_true take).bind fun _ _ => ?_
    refine h.1.bind fun json hjson => ?_
    refine (ih h.2).bind fun jsons hjsons => ?_
    exact ensures_pure (by rw [toValues, hjson, hjsons])

theorem ensures_toFields_ofFields {fields : List (String × Value)}
    (h : ∀ field ∈ fields, Ensures (fun json => json.toValue = field.2) (ofValue field.2)) :
    Ensures (fun members => toFields members = fields) (ofFields fields) := by
  induction fields with
  | nil => exact ensures_pure rfl
  | cons field fields ih =>
    obtain ⟨name, v⟩ := field
    rw [List.forall_mem_cons] at h
    rw [ofFields]
    refine h.1.bind fun json hjson => ?_
    refine (ih h.2).bind fun members hmembers => ?_
    exact ensures_pure (by rw [toFields, hjson, hmembers])

theorem ofInt?_toInt (n : Int64) : Value.ofInt? n.toInt = some (.integer n) := by
  rw [Value.ofInt?, if_pos ⟨n.minValue_le_toInt, n.toInt_le⟩, Int64.ofInt_toInt]

/-- **A value of JSON with finite floats is read back as it was written.** -/
theorem ensures_toValue_ofValue {v : Value} (h : v.IsData fun x => x.isFinite = true) :
    Ensures (fun json => json.toValue = v) (ofValue v) := by
  induction h with
  | null | boolean | string => exact ensures_pure rfl
  | integer n => exact ensures_pure (by rw [toValue, ofInt?_toInt, Option.getD_some])
  | float hfinite => exact ensures_pure (by rw [if_pos hfinite, toValue])
  | array _ ih =>
    refine (ensures_toValues_ofValues ih).bind fun jsons hjsons => ?_
    exact ensures_pure (by rw [toValue, hjsons])
  | object _ ih =>
    refine (ensures_toFields_ofFields ih).bind fun members hmembers => ?_
    exact ensures_pure (by rw [toValue, hmembers])

end Json

/-! ## Checks -/

theorem Params.valuesAre_isData {source : String} {params : Params}
    (h : ofJsonText source = .ok params) : params.ValuesAre (Value.IsData fun _ => True) := by
  unfold ofJsonText at h
  split at h <;> cases h
  · exact Json.isData_toValues _
  · exact Json.isData_toFields _

namespace Check

variable {check : Check}

/-- The query of a check that parses, with the parameters that it was read with. -/
theorem parsed_eq_ok {query : Query} (h : check.parsed = .ok query) :
    ∃ params, check.params.mapM Params.ofJsonText = .ok params ∧
      Query.parse check.query params = .ok query := by
  obtain ⟨params, hparams, h⟩ := Grammar.bind_eq_ok.1 h
  refine ⟨params, hparams, ?_⟩
  cases hparse : Query.parse check.query params with
  | error e =>
    rw [hparse] at h
    cases h
  | ok q =>
    rw [hparse] at h
    cases h
    rfl

theorem valuesAre_of_params {params : Option Params}
    (h : check.params.mapM Params.ofJsonText = .ok params) :
    ∀ given ∈ params, given.ValuesAre (Value.IsData fun _ => True) := by
  cases hsource : check.params with
  | none =>
    rw [hsource] at h
    cases h
    simp
  | some source =>
    rw [hsource, Option.mapM_some] at h
    obtain ⟨given, hgiven, h⟩ := Grammar.bind_eq_ok.1 h
    cases h
    rintro _ ⟨⟩
    exact Params.valuesAre_isData hgiven

theorem literalsAre_of_parsed {query : Query} (h : check.parsed = .ok query) :
    query.root.LiteralsAre (Value.IsData fun _ => True) := by
  obtain ⟨params, hparams, hparse⟩ := parsed_eq_ok h
  exact Query.literalsAre_of_parse Value.writable_isData (valuesAre_of_params hparams) hparse

theorem isData_of_data {data : Value} (h : check.data = .ok data) :
    data.IsData fun _ => True := by
  unfold Check.data at h
  split at h
  · cases h
  · split at h
    · cases h
    · cases h
      exact Json.isData_toValue _

/-- The answer of a check is the document for what its query comes to. -/
theorem run_of_solved {query : Query} {data : Value} {solution : Solution} {ledger : Ledger}
    (hfull : check.syntaxOnly = false) (hquery : check.parsed = .ok query)
    (hdata : check.data = .ok data)
    (hsolve : (query.solve check.application data).run ⟨0, []⟩ = (.ok solution, ledger)) :
    check.run.1 = .ok (.solved ((Json.ofValue solution.value).run ledger).1
      (if check.trace then solution.branch else none)) := by
  unfold run
  rw [hquery]
  dsimp only
  rw [hfull, if_neg Bool.false_ne_true, hdata]
  dsimp only [Check.solve]
  rw [hsolve]
  rfl

/-- A check with an answer has a query that parses, a document and a solution, of which the answer
is the document. -/
theorem run_eq_solved {output : Json} {branch : Option Expr} {log : List String}
    (h : check.run = (.ok (.solved output branch), log)) :
    ∃ query data solution ledger, check.parsed = .ok query ∧ check.data = .ok data ∧
      (query.solve check.application data).run ⟨0, []⟩ = (.ok solution, ledger) ∧
      output = ((Json.ofValue solution.value).run ledger).1 := by
  unfold run at h
  cases hquery : check.parsed with
  | error e =>
    rw [hquery] at h
    cases h
  | ok query =>
  rw [hquery] at h
  dsimp only at h
  by_cases hfull : check.syntaxOnly = true
  · rw [if_pos hfull] at h
    cases h
  rw [if_neg hfull] at h
  cases hdata : check.data with
  | error e =>
    rw [hdata] at h
    cases h
  | ok data =>
  rw [hdata] at h
  dsimp only [Check.solve] at h
  rcases hsolve : (query.solve check.application data).run ⟨0, []⟩ with ⟨e | solution, ledger⟩
  · rw [hsolve] at h
    cases h
  · rw [hsolve] at h
    cases h
    exact ⟨query, data, solution, ledger, rfl, rfl, hsolve, rfl⟩

/-- **The answer of a check is faithful.**  Whatever the query, its parameters and the document, if
solving the query succeeds then its value has no record and no superposition in it, and unless it
has an infinite float or NaN in it, the value that the answer stands for is that value, with
integers and floats kept apart. -/
theorem run_faithful {output : Json} {branch : Option Expr} {log : List String}
    (h : check.run = (.ok (.solved output branch), log)) :
    ∃ query data solution ledger, check.parsed = .ok query ∧ check.data = .ok data ∧
      (query.solve check.application data).run ⟨0, []⟩ = (.ok solution, ledger) ∧
      output = ((Json.ofValue solution.value).run ledger).1 ∧
      (solution.value.IsData fun _ => True) ∧
      ((solution.value.IsData fun x => x.isFinite = true) → output.toValue = solution.value) := by
  obtain ⟨query, data, solution, ledger, hquery, hdata, hsolve, rfl⟩ := run_eq_solved h
  have hvalue : solution.value.IsData fun _ => True := by
    have hyields : Yields (fun solution : Solution => solution.value.IsData fun _ => True)
        (query.root.solve check.application data) :=
      Value.preserves_isData.yields_solve (literalsAre_of_parsed hquery) (isData_of_data hdata)
    exact hyields _ solution (congrArg Prod.fst hsolve)
  exact ⟨query, data, solution, ledger, hquery, hdata, hsolve, rfl, hvalue,
    fun hfinite => Json.ensures_toValue_ofValue hfinite ledger⟩

/-- Half of an odd number, which is a float, beside a parameter that is an integer. -/
def halved : Check where
  query := "size / {}"
  input := some "\x7b\"size\": 5\x7d"
  params := some "[2]"
  syntaxOnly := false
  strict := false
  trace := false

theorem run_faithful_halved :
    ∃ x log, halved.run = (.ok (.solved (.float x) none), log) ∧
      ∃ query data solution ledger, halved.parsed = .ok query ∧ halved.data = .ok data ∧
        (query.solve halved.application data).run ⟨0, []⟩ = (.ok solution, ledger) ∧
        (solution.value.IsData fun x => x.isFinite = true) ∧
        (Json.float x).toValue = solution.value := by
  have hquery : halved.parsed =
      .ok ⟨.arithmetic .divide (.field ⟨["size"]⟩) (.literal (.integer 2))⟩ := by
    with_unfolding_all rfl
  have hdata : halved.data = .ok (.object [("size", .integer 5)]) := by
    have hchars : "\x7b\"size\": 5\x7d".toList =
        ['\x7b', '\x22', 's', 'i', 'z', 'e', '\x22', ':', ' ', '5', '\x7d'] := by
      with_unfolding_all rfl
    simp only [halved, Check.data, Json.ofText?, hchars]
    with_unfolding_all rfl
  let half := Value.floatOfInt 5 / Value.floatOfInt 2
  have hfinite : half.isFinite = true := by decide +kernel
  obtain ⟨after, hsolve⟩ : ∃ after, ((Query.mk (.arithmetic .divide (.field ⟨["size"]⟩)
      (.literal (.integer 2)))).solve halved.application (.object [("size", .integer 5)])).run
        ⟨0, []⟩ = (.ok (.plain (.float half)), after) := ⟨_, rfl⟩
  have hanswer : halved.run.1 = .ok (.solved (.float half) none) := by
    rw [run_of_solved rfl hquery hdata hsolve]
    show Except.ok (Finding.solved (if half.isFinite then .float half else .null) none) = _
    rw [if_pos hfinite]
  have hrun : halved.run = (.ok (.solved (.float half) none), halved.run.2) := Prod.ext hanswer rfl
  obtain ⟨query, data, solution, ledger, hquery', hdata', hsolve', -, -, hback⟩ :=
    run_faithful hrun
  obtain rfl := Except.ok.inj (hquery.symm.trans hquery')
  obtain rfl := Except.ok.inj (hdata.symm.trans hdata')
  obtain rfl := Except.ok.inj (congrArg Prod.fst (hsolve.symm.trans hsolve'))
  have hvalue : (Value.float half).IsData fun x => x.isFinite = true := .float hfinite
  exact ⟨half, _, hrun, _, _, _, _, hquery, hdata, hsolve', hvalue, hback hvalue⟩

end Check

end FieldQuery
