import FieldQuery.Proofs.Collections
import FieldQuery.Proofs.Orders
import FieldQuery.Proofs.RoundedIntegers

/-!
# The strict order of scalars

Integers are ordered as the numbers that they are, and beside a float as the floats nearest to
them.  A chain of comparisons may change between the two at every step; it is a chain all the same,
since rounding keeps the order of integers, if not the difference between them.

* `Value.Above` — how one value can be above another one; `Value.order_gt_iff`.
* `Value.Above.trans`, `Value.Above.irrefl` — it is a strict order.
* `Expr.SolvesTo`, `Expr.MaySolveTo` — what an expression comes to, whatever was read before or for
  something that was.
* `Expr.solve_greater_strict` — comparing expressions that come to scalars.
-/

namespace FieldQuery

open Reading Judging Number

namespace Value

/-! ## Above -/

/-- One value is above another: as an integer, as a text, or as a number that is rounded to a
float. -/
inductive Above : Value → Value → Prop where
  /-- Of integers the greater one. -/
  | integers {m n : Int64} : n.toInt < m.toInt → Above (.integer m) (.integer n)
  /-- Of texts the later one. -/
  | texts {s t : String} : t < s → Above (.string s) (.string t)
  /-- Of floats, or of integers as floats, the one with the greater value. -/
  | floats {a b : Value} {x y : Float} : a.toFloat? = some x → b.toFloat? = some y →
    x.isNaN = false → y.isNaN = false → value y < value x → Above a b

variable {a b c : Value} {x y : Float}

theorem floatOrder_gt_iff : order.floatOrder x y = some .gt ↔
    x.isNaN = false ∧ y.isNaN = false ∧ value y < value x := by
  rw [floatOrder_eq_compare]
  constructor
  · intro h
    have hnumber : ¬ (x.isNaN = true ∨ y.isNaN = true) := by
      intro hnan
      rw [compare_of_isNaN hnan] at h
      cases h
    rw [not_or, Bool.not_eq_true, Bool.not_eq_true] at hnumber
    obtain ⟨o, hcompare, ho⟩ := compare_compares hnumber.1 hnumber.2
    rw [hcompare, Option.some_inj, ho.eq_gt] at h
    exact ⟨hnumber.1, hnumber.2, h⟩
  · rintro ⟨hx, hy, hlt⟩
    obtain ⟨o, hcompare, ho⟩ := compare_compares hx hy
    rw [hcompare, ho.eq_gt.2 hlt]

theorem above_of_floatOrder (ha : a.toFloat? = some x) (hb : b.toFloat? = some y)
    (h : order.floatOrder x y = some .gt) : Above a b := by
  obtain ⟨hx, hy, hlt⟩ := floatOrder_gt_iff.1 h
  exact .floats ha hb hx hy hlt

theorem above_of_order (h : order a b = .ok (some .gt)) : Above a b := by
  cases a with
  | integer m =>
    cases b with
    | integer n => exact .integers (Int.compare_eq_gt.1 (Option.some.inj (Except.ok.inj h)))
    | float y => exact above_of_floatOrder rfl rfl (Except.ok.inj h)
    | _ => cases h
  | float x =>
    cases b with
    | integer n => exact above_of_floatOrder rfl rfl (Except.ok.inj h)
    | float y => exact above_of_floatOrder rfl rfl (Except.ok.inj h)
    | _ => cases h
  | string s =>
    cases b with
    | string t => exact .texts (compare_gt_iff_gt.1 (Option.some.inj (Except.ok.inj h)))
    | _ => cases h
  | _ => cases b <;> cases h

theorem Above.order (h : Above a b) : order a b = .ok (some .gt) := by
  cases h with
  | integers hlt => exact congrArg (Except.ok ∘ some) (Int.compare_eq_gt.2 hlt)
  | texts hlt => exact congrArg (Except.ok ∘ some) (compare_gt_iff_gt.2 hlt)
  | @floats _ _ x y ha hb hx hy hlt =>
    have hfloats := congrArg (Except.ok (ε := Fault)) (floatOrder_gt_iff.2 ⟨hx, hy, hlt⟩)
    cases a with
    | integer m =>
      cases ha
      cases b with
      | integer n =>
        cases hb
        exact congrArg (Except.ok ∘ some) (Int.compare_eq_gt.2 (lt_of_value_floatOfInt_lt hlt))
      | float y =>
        cases hb
        exact hfloats
      | _ => cases hb
    | float x =>
      cases ha
      cases b with
      | integer n =>
        cases hb
        exact hfloats
      | float y =>
        cases hb
        exact hfloats
      | _ => cases hb
    | _ => cases ha

/-- **The order puts a value first exactly if it is above the other one.** -/
theorem order_gt_iff : Value.order a b = .ok (some .gt) ↔ Above a b :=
  ⟨above_of_order, Above.order⟩

theorem orderOutcome_gt_iff : orderOutcome (· == .gt) a b = .ok true ↔ Above a b := by
  rw [← order_gt_iff]
  unfold orderOutcome
  cases Value.order a b with
  | error fault => exact ⟨nofun, nofun⟩
  | ok found =>
    cases found with
    | none => exact ⟨nofun, nofun⟩
    | some found =>
      cases found with
      | lt | eq => exact ⟨nofun, nofun⟩
      | gt => exact ⟨fun _ => rfl, fun _ => rfl⟩

theorem Above.irrefl (a : Value) : ¬ Above a a := by
  intro h
  cases h with
  | integers hlt => exact absurd hlt (Int.lt_irrefl _)
  | texts hlt => exact absurd hlt (String.lt_irrefl _)
  | floats ha hb _ _ hlt =>
    rw [ha, Option.some_inj] at hb
    exact absurd hlt (hb ▸ lt_irrefl _)

/-- **What is above something is above all that is below it**, however each two of the three are
compared. -/
theorem Above.trans (hab : Above a b) (hbc : Above b c) : Above a c := by
  cases hab with
  | integers hab =>
    cases hbc with
    | integers hbc => exact .integers (hbc.trans hab)
    | floats hb hc hy hz hbc =>
      cases hb
      exact .floats rfl hc (isNaN_floatOfInt _) hz
        (hbc.trans_le (value_floatOfInt_le hab.le))
  | texts hab =>
    cases hbc with
    | texts hbc => exact .texts (String.lt_trans hbc hab)
    | floats hb => cases hb
  | floats ha hb hx hy hab =>
    cases hbc with
    | integers hbc =>
      cases hb
      exact .floats ha rfl hx (isNaN_floatOfInt _)
        ((value_floatOfInt_le hbc.le).trans_lt hab)
    | texts => cases hb
    | floats hb' hc _ hz hbc =>
      rw [hb, Option.some_inj] at hb'
      subst hb'
      exact .floats ha hc hx hz (hbc.trans hab)

theorem Above.asymm (hab : Above a b) : ¬ Above b a :=
  fun hba => Above.irrefl a (hab.trans hba)

end Value

/-! ## Expressions -/

namespace Expr

/-- An expression has this value, whatever was read before. -/
def SolvesTo (app : Application) (scope : Value) (e : Expr) (v : Value) : Prop :=
  Ensures (fun outcome => ∃ s, outcome = .ok s ∧ s.value = v) (e.solve app scope)

/-- An expression has this value after something that was read before. -/
def MaySolveTo (app : Application) (scope : Value) (e : Expr) (v : Value) : Prop :=
  ∃ ledger s, ((e.solve app scope).run ledger).1 = .ok s ∧ s.value = v

variable {app : Application} {scope : Value} {left right : Expr} {a b c : Value}

theorem SolvesTo.maySolveTo {e : Expr} (h : e.SolvesTo app scope a) : e.MaySolveTo app scope a :=
  ⟨⟨0, []⟩, h ⟨0, []⟩⟩

/-- The result of comparing expressions that come to scalars. -/
theorem SolvesTo.solve_greater (ha : a.IsScalar) (hb : b.IsScalar)
    (hleft : left.SolvesTo app scope a) (hright : right.SolvesTo app scope b) :
    Ensures (· = ((Value.orderOutcome (· == .gt) a b).map .plainBool).mapError
        (.at (.compare .greater left right)))
      ((Expr.compare .greater left right).solve app scope) := by
  intro ledger
  obtain ⟨l, hl, rfl⟩ := hleft ledger
  obtain ⟨r, hr, rfl⟩ := hright ((left.solve app scope).run ledger).2
  have hgreater : Comparison.greater.holds = Value.ordered (· == .gt) := rfl
  have hsolve := solve_order hgreater (Prod.ext hl rfl) (Prod.ext hr rfl) ha.isReadable
    hb.isReadable
  have hpairs : Value.orderOutcomes (· == .gt) l.value r.value =
      [Value.orderOutcome (· == .gt) l.value r.value] := by
    rw [Value.orderOutcomes, Value.leaves_of_isSingle ha.isSingle ha.isNull,
      Value.leaves_of_isSingle hb.isSingle hb.isNull]
    rfl
  rwa [hpairs, firstDecided_singleton] at hsolve

theorem SolvesTo.above (ha : a.IsScalar) (hb : b.IsScalar) (hleft : left.SolvesTo app scope a)
    (hright : right.SolvesTo app scope b)
    (h : (Expr.compare .greater left right).MaySolveTo app scope (.boolean true)) :
    Value.Above a b := by
  obtain ⟨ledger, s, hs, hvalue⟩ := h
  have hresult := (SolvesTo.solve_greater ha hb hleft hright ledger).symm.trans hs
  rw [← Value.orderOutcome_gt_iff]
  cases houtcome : Value.orderOutcome (· == .gt) a b with
  | error fault =>
    rw [houtcome] at hresult
    cases hresult
  | ok found =>
    rw [houtcome] at hresult
    cases hresult
    cases hvalue
    rfl

theorem SolvesTo.greater (ha : a.IsScalar) (hb : b.IsScalar) (hleft : left.SolvesTo app scope a)
    (hright : right.SolvesTo app scope b) (h : Value.Above a b) :
    (Expr.compare .greater left right).SolvesTo app scope (.boolean true) := by
  intro ledger
  rw [SolvesTo.solve_greater ha hb hleft hright ledger, Value.orderOutcome_gt_iff.2 h]
  exact ⟨_, rfl, rfl⟩

/-- **To be greater is a strict order of scalars**, integers and floats mixed.  What is greater is
above, and the other way round.  Nothing is greater than itself, no two values are each greater
than the other, and what is greater than something is greater than what that is greater than,
without any error. -/
theorem solve_greater_strict {third : Expr} (ha : a.IsScalar) (hb : b.IsScalar) (hc : c.IsScalar)
    (hleft : left.SolvesTo app scope a) (hright : right.SolvesTo app scope b)
    (hthird : third.SolvesTo app scope c) :
    ((Expr.compare .greater left right).MaySolveTo app scope (.boolean true) ↔ a.Above b) ∧
    ¬ (Expr.compare .greater left left).MaySolveTo app scope (.boolean true) ∧
    ¬ ((Expr.compare .greater left right).MaySolveTo app scope (.boolean true) ∧
        (Expr.compare .greater right left).MaySolveTo app scope (.boolean true)) ∧
    ((Expr.compare .greater left right).MaySolveTo app scope (.boolean true) →
      (Expr.compare .greater right third).MaySolveTo app scope (.boolean true) →
        (Expr.compare .greater left third).SolvesTo app scope (.boolean true)) := by
  have hiff : (Expr.compare .greater left right).MaySolveTo app scope (.boolean true) ↔
      a.Above b :=
    ⟨SolvesTo.above ha hb hleft hright,
      fun h => (SolvesTo.greater ha hb hleft hright h).maySolveTo⟩
  refine ⟨hiff, fun h => ?_, fun ⟨hab, hba⟩ => ?_, fun hab hbc => ?_⟩
  · exact Value.Above.irrefl a (SolvesTo.above ha ha hleft hleft h)
  · exact (hiff.1 hab).asymm (SolvesTo.above hb ha hright hleft hba)
  · have hbc := SolvesTo.above hb hc hright hthird hbc
    exact SolvesTo.greater ha hc hleft hthird ((hiff.1 hab).trans hbc)

/-- Two integers that are no floats, and the float that is between them. -/
def ladder : Value :=
  .object [("bottom", .integer 9007199254740993), ("middle", .float 9007199254740994),
    ("top", .integer 9007199254740995)]

/-- Each of the integers is rounded away from the float between them. -/
theorem solve_greater_strict_ladder :
    (Expr.compare .greater (.field ⟨["top"]⟩) (.field ⟨["middle"]⟩)).MaySolveTo .standard ladder
      (.boolean true) ∧
    (Expr.compare .greater (.field ⟨["middle"]⟩) (.field ⟨["bottom"]⟩)).MaySolveTo .standard ladder
      (.boolean true) ∧
    (Expr.compare .greater (.field ⟨["top"]⟩) (.field ⟨["bottom"]⟩)).SolvesTo .standard ladder
      (.boolean true) := by
  have htop : (Expr.field ⟨["top"]⟩).SolvesTo .standard ladder (.integer 9007199254740995) :=
    fun _ => ⟨_, rfl, rfl⟩
  have hmiddle : (Expr.field ⟨["middle"]⟩).SolvesTo .standard ladder (.float 9007199254740994) :=
    fun _ => ⟨_, rfl, rfl⟩
  have hbottom : (Expr.field ⟨["bottom"]⟩).SolvesTo .standard ladder (.integer 9007199254740993) :=
    fun _ => ⟨_, rfl, rfl⟩
  have hupper : Value.Above (.integer 9007199254740995) (.float 9007199254740994) :=
    Value.orderOutcome_gt_iff.1 (by decide +kernel)
  have hlower : Value.Above (.float 9007199254740994) (.integer 9007199254740993) :=
    Value.orderOutcome_gt_iff.1 (by decide +kernel)
  have hab := (SolvesTo.greater (.integer _) (.float _) htop hmiddle hupper).maySolveTo
  have hbc := (SolvesTo.greater (.float _) (.integer _) hmiddle hbottom hlower).maySolveTo
  exact ⟨hab, hbc,
    (solve_greater_strict (.integer _) (.float _) (.integer _) htop hmiddle hbottom).2.2.2 hab hbc⟩

end Expr

end FieldQuery
