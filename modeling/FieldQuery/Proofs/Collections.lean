import FieldQuery.Proofs.Unresolved

/-!
# Fields with candidates as collections

A field may hold a superposition, which hands out candidates.  What the field comes to is made of
these: no value of none, a superposition of several, and of a single candidate that candidate
itself.  So a field with no or several candidates is as good as the list of them where elements
are looked for, and a field with one candidate is not.

* `Value.IsScalar` — truth values, numbers and texts.
* `Path.HandsOut` — a path leads to a superposition that hands out some candidates.
* `Value.StandsFor` — what some candidates stand for.
* `Value.StandsFor.run_member`, `Value.StandsFor.run_subset_left` — no or several candidates are
  searched like the list of them.
* `Expr.solve_candidates` — membership and containment in a field with candidates.
* `Expr.solve_only_candidate` — where a single candidate makes the difference.
-/

namespace FieldQuery

open Reading Judging

/-! ## Scalars -/

namespace Value

/-- A truth value, a number or a text. -/
inductive IsScalar : Value → Prop where
  /-- A truth value. -/
  | boolean (b : Bool) : IsScalar (.boolean b)
  /-- An integer. -/
  | integer (n : Int64) : IsScalar (.integer n)
  /-- A float. -/
  | float (x : Float) : IsScalar (.float x)
  /-- A text. -/
  | string (s : String) : IsScalar (.string s)

variable {x c v : Value} {cs : List Value}

theorem IsScalar.isSingle (h : x.IsScalar) : x.IsSingle := by
  rintro handle candidates rfl
  cases h

theorem IsScalar.isNull (h : x.IsScalar) : x.isNull = false := by
  cases h <;> rfl

theorem IsScalar.isReadable (h : x.IsScalar) : x.IsReadable := by
  cases h <;> simp

/-- Scalars are equal when they are the same up to the kinds of numbers. -/
theorem IsScalar.ensures_equivalent (hx : x.IsScalar) (hc : c.IsScalar) :
    Ensures (· = .ok (numericallySame x c)) (equivalent x c).run := by
  have h := Value.ensures_equivalent hx.isReadable hc.isReadable
  rw [leaves_of_isSingle hx.isSingle hx.isNull, leaves_of_isSingle hc.isSingle hc.isNull] at h
  simpa using h

/-! ## What candidates stand for -/

/-- What some candidates stand for: no value, the only one of them, or a superposition of the
solver. -/
inductive StandsFor : List Value → Value → Prop where
  /-- There is none. -/
  | none : StandsFor [] .null
  /-- There is one only. -/
  | one (c : Value) : StandsFor [c] c
  /-- There are several. -/
  | several (i : Identity) {cs : List Value} (h : 2 ≤ cs.length) :
    StandsFor cs (.superposition ⟨i, .owned⟩ cs)

theorem ensures_ofCandidates_standsFor (cs : List Value) :
    Ensures (StandsFor cs) (ofCandidates cs) := by
  intro ledger
  match cs with
  | [] => exact .none
  | [c] => exact .one c
  | _ :: _ :: _ => exact .several _ (by simp)

namespace StandsFor

/-- Looking for a single value among no or several candidates is looking for it in the list. -/
theorem run_member (h : StandsFor cs v) (hcount : cs.length ≠ 1) (hx : x.IsSingle)
    (ledger : Ledger) : (member x v).run ledger = (member x (.array cs)).run ledger := by
  rw [member_of_isSingle hx, member_of_isSingle hx]
  cases h with
  | none => split <;> rfl
  | one c => exact absurd rfl hcount
  | several i _ =>
    split
    · rfl
    · rw [memberOf, memberOf, candidateEquivalent_eq, equivalentToAny_eq]
      rfl

theorem isCollection (h : StandsFor cs v) (hcount : cs.length ≠ 1) : v.isCollection = true := by
  cases h with
  | none => rfl
  | one c => exact absurd rfl hcount
  | several i _ => rfl

theorem run_elements (h : StandsFor cs v) (hcount : cs.length ≠ 1) (ledger : Ledger) :
    v.elements.run ledger = (cs, ledger) := by
  cases h with
  | none => rfl
  | one c => exact absurd rfl hcount
  | several i _ => exact readAll_owned i cs ledger

/-- No or several candidates are in a collection if the list of them is. -/
theorem run_subset_left (h : StandsFor cs v) (hcount : cs.length ≠ 1) (r : Value)
    (ledger : Ledger) : (subset v r).run ledger = (subset (.array cs) r).run ledger := by
  unfold subset
  rw [h.isCollection hcount]
  cases r.isCollection with
  | false => rfl
  | true =>
    cases h with
    | none => rfl
    | one c => exact absurd rfl hcount
    | several i _ => rfl

/-- A collection is in no or several candidates if it is in the list of them. -/
theorem run_subset_right (h : StandsFor cs v) (hcount : cs.length ≠ 1) (l : Value)
    (ledger : Ledger) : (subset l v).run ledger = (subset l (.array cs)).run ledger := by
  unfold subset
  rw [h.isCollection hcount]
  cases l.isCollection with
  | false => rfl
  | true =>
    have hread : ((liftM v.elements : Judging (List Value)) : ExceptT Fault Reading _).run ledger =
        (.ok cs, ledger) := by
      show ((.ok (v.elements.run ledger).1, (v.elements.run ledger).2) :
        Except Fault (List Value) × Ledger) = _
      rw [h.run_elements hcount]
    exact run_bind_of_ok hread

end StandsFor

/-- Looking for a scalar in a list of scalars finds those that are the same. -/
theorem IsScalar.ensures_member_array (hx : x.IsScalar) (hcs : ∀ c ∈ cs, c.IsScalar) :
    Ensures (· = .ok (cs.any x.numericallySame)) (member x (.array cs)).run := by
  rw [member_of_isSingle hx.isSingle, hx.isNull, if_neg Bool.false_ne_true, memberOf,
    equivalentToAny_eq, ← firstDecided_ok]
  exact ensures_firstTrue fun c hc => hx.ensures_equivalent (hcs c hc)

/-- The subset test of two collections has an answer. -/
theorem subset_isOk {l r : Value} (hl : l.isCollection = true) (hr : r.isCollection = true)
    {outcome : Except Fault Bool} {ledger after : Ledger}
    (h : (subset l r).run ledger = (outcome, after)) : ∃ holds, outcome = .ok holds := by
  have hconfined := confined_subset_of_isCollection (fun _ => False) hl hr l.permits_isRead
    r.permits_isRead
  cases outcome with
  | ok holds => exact ⟨holds, rfl⟩
  | error fault => exact (hconfined.throws ledger fault (congrArg Prod.fst h)).elim

end Value

/-! ## Fields with candidates -/

/-- A path leads to a superposition, which hands out some candidates when it is read. -/
def Path.HandsOut (path : Path) (scope : Value) (ledger : Ledger) (cs : List Value) : Prop :=
  ∃ handle candidates middle, (Value.resolve path.segments scope).run ledger =
      (.superposition handle candidates, middle) ∧
    ((handle.readAll candidates).run middle).1 = cs

namespace Expr

variable {app : Application} {path : Path} {scope : Value} {cs : List Value}

/-- The field comes to what its candidates stand for. -/
theorem run_field_of_handsOut (app : Application) {ledger : Ledger} (h : path.HandsOut scope ledger cs) :
    ∃ v after, ((Expr.field path).solve app scope).run ledger = (.ok (.plain v), after) ∧
      v.StandsFor cs := by
  obtain ⟨handle, candidates, middle, hresolve, hread⟩ := h
  refine ⟨_, _, run_field_of_resolve rfl hresolve, ?_⟩
  have hcopy : ((Value.superposition handle candidates).settle.run middle).1 =
      ((Value.ofCandidates ((handle.readAll candidates).run middle).1).run
        ((handle.readAll candidates).run middle).2).1 := rfl
  rw [hcopy, hread]
  exact Value.ensures_ofCandidates_standsFor cs _

/-- **Membership and containment in a field with no or several candidates** do not depend on how
many there are: a scalar is found if it is the same as one of them, and the subset test, with the
field on either side, comes to what it comes to for the list of them, which is no failure if the
other side is a collection.  A field with a single candidate comes to the candidate itself. -/
theorem solve_candidates (app : Application) (path : Path) (scope : Value)
    (hcs : ∀ c ∈ cs, c.IsScalar) :
    (cs.length ≠ 1 →
      (∀ {left : Expr} {x : Solution} {ledger middle : Ledger},
        (left.solve app scope).run ledger = (.ok x, middle) → x.value.IsScalar →
        path.HandsOut scope middle cs →
        (((Expr.compare .member left (.field path)).solve app scope).run ledger).1 =
          .ok (.plainBool (cs.any x.value.numericallySame))) ∧
      (∀ {right : Expr} {r : Solution} {ledger last : Ledger},
        path.HandsOut scope ledger cs →
        (right.solve app scope).run (((Expr.field path).solve app scope).run ledger).2 =
          (.ok r, last) →
        ∃ outcome after, ((Value.array cs).subset r.value).run last = (outcome, after) ∧
          (r.value.isCollection = true → ∃ holds, outcome = .ok holds) ∧
          ((Expr.compare .subset (.field path) right).solve app scope).run ledger =
            ((outcome.map .plainBool).mapError (.at (.compare .subset (.field path) right)),
              after)) ∧
      (∀ {left : Expr} {l : Solution} {ledger middle : Ledger},
        (left.solve app scope).run ledger = (.ok l, middle) → path.HandsOut scope middle cs →
        ∃ outcome after, (l.value.subset (.array cs)).run
            (((Expr.field path).solve app scope).run middle).2 = (outcome, after) ∧
          (l.value.isCollection = true → ∃ holds, outcome = .ok holds) ∧
          ((Expr.compare .subset left (.field path)).solve app scope).run ledger =
            ((outcome.map .plainBool).mapError (.at (.compare .subset left (.field path))),
              after))) ∧
    ∀ {c : Value} {ledger : Ledger}, cs = [c] → path.HandsOut scope ledger cs →
      (((Expr.field path).solve app scope).run ledger).1 = .ok (.plain c) := by
  refine ⟨fun hcount => ⟨?member, ?subset, ?superset⟩, ?one⟩
  case member =>
    intro left x ledger middle hleft hx hhands
    obtain ⟨v, after, hfield, hstands⟩ := run_field_of_handsOut app hhands
    have hmember : (Comparison.member.holds x.value v).run after =
        (.ok (cs.any x.value.numericallySame), _) :=
      (hstands.run_member hcount hx.isSingle after).trans
        (Prod.ext (hx.ensures_member_array hcs after) rfl)
    rw [run_compare hleft hfield hmember]
    rfl
  case subset =>
    intro right r ledger last hhands hright
    obtain ⟨v, after, hfield, hstands⟩ := run_field_of_handsOut app hhands
    rw [hfield] at hright
    rcases hsubset : ((Value.array cs).subset r.value).run last with ⟨outcome, final⟩
    have hholds : (Comparison.subset.holds v r.value).run last = (outcome, final) :=
      (hstands.run_subset_left hcount r.value last).trans hsubset
    refine ⟨outcome, final, rfl, fun hr => ?_, run_compare hfield hright hholds⟩
    exact Value.subset_isOk rfl hr hsubset
  case superset =>
    intro left l ledger middle hleft hhands
    obtain ⟨v, after, hfield, hstands⟩ := run_field_of_handsOut app hhands
    rw [hfield]
    rcases hsubset : (l.value.subset (.array cs)).run after with ⟨outcome, final⟩
    have hholds : (Comparison.subset.holds l.value v).run after = (outcome, final) :=
      (hstands.run_subset_right hcount l.value after).trans hsubset
    refine ⟨outcome, final, rfl, fun hl => ?_, run_compare hleft hfield hholds⟩
    exact Value.subset_isOk hl rfl hsubset
  case one =>
    rintro c ledger rfl hhands
    obtain ⟨v, after, hfield, hstands⟩ := run_field_of_handsOut app hhands
    rw [hfield]
    cases hstands with
    | one c => rfl
    | several i h => simp at h

/-- Fields with several candidates, with none and with one. -/
def choices : Value :=
  .object [("many", .superposition ⟨0, .singlePass⟩ [.integer 3, .integer 2]),
    ("none", .superposition ⟨1, .supplied⟩ []),
    ("number", .superposition ⟨2, .supplied⟩ [.integer 2]),
    ("word", .superposition ⟨3, .supplied⟩ [.string "abc"])]

theorem solve_candidates_many :
    Path.HandsOut ⟨["many"]⟩ choices ⟨4, []⟩ [.integer 3, .integer 2] ∧
      (((Expr.compare .member (.literal (.integer 2)) (.field ⟨["many"]⟩)).solve .standard
        choices).run ⟨4, []⟩).1 =
          .ok (.plainBool ([.integer 3, .integer 2].any (Value.integer 2).numericallySame)) ∧
      (∃ holds after, ((Expr.compare .subset (.field ⟨["many"]⟩) (.field ⟨["none"]⟩)).solve
        .standard choices).run ⟨4, []⟩ = (.ok (.plainBool holds), after)) ∧
      ∃ holds after, ((Expr.compare .subset (.literal (.array [.integer 2]))
        (.field ⟨["many"]⟩)).solve .standard choices).run ⟨4, []⟩ =
          (.ok (.plainBool holds), after) := by
  have hhands : Path.HandsOut ⟨["many"]⟩ choices ⟨4, []⟩ [.integer 3, .integer 2] :=
    ⟨_, _, _, rfl, rfl⟩
  have hscalars : ∀ c ∈ [Value.integer 3, Value.integer 2], c.IsScalar := by
    simp [Value.IsScalar.integer]
  have hcount : [Value.integer 3, Value.integer 2].length ≠ 1 := by decide
  obtain ⟨hmember, hsubset, hsuperset⟩ :=
    (solve_candidates .standard ⟨["many"]⟩ choices hscalars).1 hcount
  have htwo : ((literal (.integer 2)).solve .standard choices).run ⟨4, []⟩ =
      (.ok (.plain (.integer 2)), ⟨4, []⟩) := rfl
  have hlist : ((literal (.array [.integer 2])).solve .standard choices).run ⟨4, []⟩ =
      (.ok (.plain (.array [.integer 2])), ⟨4, []⟩) := rfl
  have hnone : ((field ⟨["none"]⟩).solve .standard choices).run
      (((field ⟨["many"]⟩).solve .standard choices).run ⟨4, []⟩).2 = (.ok (.plain .null), _) := rfl
  obtain ⟨_, after, -, hok, hin⟩ := hsubset hhands hnone
  obtain ⟨_, after', -, hok', hof⟩ := hsuperset hlist hhands
  obtain ⟨holds, rfl⟩ := hok rfl
  obtain ⟨holds', rfl⟩ := hok' rfl
  exact ⟨hhands, hmember htwo (.integer 2) hhands, ⟨holds, after, hin⟩, holds', after', hof⟩

/-- A single candidate stands for itself: it is no collection in which an equal value could be
found, and a text is found in it although it is not the same.  With several candidates too, what is
on the other side has to be a collection. -/
theorem solve_only_candidate :
    let number := Expr.field ⟨["number"]⟩
    let word := Expr.field ⟨["word"]⟩
    let inNumber := Expr.compare .member (.literal (.integer 2)) number
    let within := Expr.compare .subset number (.literal (.array [.integer 2]))
    let withinTwo := Expr.compare .subset (.field ⟨["many"]⟩) (.literal (.integer 2))
    Path.HandsOut ⟨["number"]⟩ choices ⟨4, []⟩ [.integer 2] ∧
      ((inNumber.solve .standard choices).run ⟨4, []⟩).1 =
        .error (.at inNumber (.type (.membership "integer" "integer"))) ∧
      ((within.solve .standard choices).run ⟨4, []⟩).1 =
        .error (.at within (.type (.noCollection "integer"))) ∧
      Path.HandsOut ⟨["word"]⟩ choices ⟨4, []⟩ [.string "abc"] ∧
      (((Expr.compare .member (.literal (.string "b")) word).solve .standard choices).run
        ⟨4, []⟩).1 = .ok (.plainBool true) ∧
      Path.HandsOut ⟨["many"]⟩ choices ⟨4, []⟩ [.integer 3, .integer 2] ∧
      ((withinTwo.solve .standard choices).run ⟨4, []⟩).1 =
        .error (.at withinTwo (.type (.noCollection "integer"))) := by
  refine ⟨⟨_, _, _, rfl, rfl⟩, rfl, rfl, ⟨_, _, _, rfl, rfl⟩, ?_, ⟨_, _, _, rfl, rfl⟩, rfl⟩
  with_unfolding_all rfl

end Expr

end FieldQuery
