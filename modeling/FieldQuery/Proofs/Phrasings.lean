import FieldQuery.Proofs.Repetition

/-!
# Phrasings of one question

Whether something at the end of a path equals a constant can be asked in three ways: of the
candidates that a quantifier goes through, of what the whole path leads to, and in the context
of what its first part leads to.  The quantifier takes candidates as they are found, the path
puts them together on its way, and the context is copied before it is walked.  The leaves that
are compared in the end are those of one trail.

* `Solving.Answers` — whatever was read before, the solution is a certain truth value.
* `Quantifier.answers_across` — a quantifier answers as its body does for the candidates.
* `Value.flatMap_trail_alternatives` — the trails of a value's candidates make up its own, unless
  it is an array.
* `Expr.answers_field_equal` — comparing what a path leads to with a constant is asking its trail.
* `Expr.solve_phrasings` — the three ways agree, and the negated question has the other answer.
-/

namespace FieldQuery

open Reading Judging

/-! ## Answers -/

namespace Solving

/-- Whatever was read before, the solution is this truth value. -/
def Answers (b : Bool) (m : Solving Solution) : Prop :=
  Ensures (fun x => x.map Solution.value = .ok (.boolean b)) m.run

theorem answers_pure {b : Bool} {solution : Solution} (h : solution.value = .boolean b) :
    Answers b (pure solution) := by
  refine ensures_pure ?_
  rw [Except.map, h]

/-- An answer is a solution whose truth is found without reading. -/
theorem Answers.bind {b : Bool} {β : Type} {Q : Except SolveError β → Prop}
    {m : Solving Solution} {f : Solution → Solving β} (hm : Answers b m)
    (hf : ∀ solution, solution.value = .boolean b → Ensures Q (f solution).run) :
    Ensures Q (m >>= f).run := by
  rw [ExceptT.run_bind]
  refine Ensures.bind hm fun x hx => ?_
  cases x with
  | error e => simp [Except.map] at hx
  | ok solution => exact hf solution (by simpa [Except.map] using hx)

end Solving

open Solving

/-! ## Quantifiers -/

namespace Quantifier

variable {quantifier : Quantifier} {solveBody : Value → Solving Solution} {body : Expr}
  {holds : Value → Bool}

/-- A quantifier goes through candidates for one that decides it. -/
theorem answers_run {take : Reading Unit} {candidates : List Value}
    (hbody : ∀ c ∈ candidates, Answers (holds c) (solveBody c)) (index : Nat) :
    Answers (candidates.any (fun c => quantifier.decidedBy (holds c)) == quantifier.decided)
      (quantifier.run take solveBody body index candidates) := by
  induction candidates generalizing index with
  | nil => exact answers_pure (by cases quantifier <;> rfl)
  | cons c cs ih =>
    rw [List.forall_mem_cons] at hbody
    refine ensures_lift (ensures_true take) fun _ _ => ?_
    refine hbody.1.bind fun solution hsolution => ?_
    refine ensures_lift (ensures_true (modify _)) fun _ _ => ?_
    rw [hsolution, List.any_cons]
    refine ensures_lift (P := (· = holds c)) (ensures_pure rfl) ?_
    rintro _ rfl
    by_cases hdecided : quantifier.decidedBy (holds c) = true
    · rw [if_pos hdecided, hdecided, Bool.true_or]
      exact answers_pure (by simp)
    · rw [if_neg hdecided, Bool.eq_false_iff.2 hdecided, Bool.false_or]
      exact ih hbody.2 (index + 1)

theorem answers_across {v : Value} (hv : v.IsReadable)
    (hbody : ∀ c ∈ v.alternatives, Answers (holds c) (solveBody c)) :
    Answers (v.alternatives.any (fun c => quantifier.decidedBy (holds c)) == quantifier.decided)
      (quantifier.across solveBody body v) := by
  rcases Value.isSingle_or v with hsingle | ⟨handle, candidates, rfl⟩
  · rw [across_of_isSingle hsingle]
    exact answers_run hbody 0
  · unfold across
    refine ensures_lift (Value.ensures_ask (Value.isReadable_superposition.1 hv).1) ?_
    rintro _ rfl
    exact answers_run hbody 0

end Quantifier

namespace Value

/-- Whoever follows a path follows it from every candidate.  The elements of an array are
candidates for a quantifier, but a path leads nowhere from an array. -/
theorem flatMap_trail_alternatives (path : List String) {v : Value}
    (h : ∀ items, v ≠ .array items) : v.alternatives.flatMap (trail path) = trail path v := by
  have hleaves : v.alternatives.flatMap leaves = v.leaves := by
    cases v with
    | array items => exact absurd rfl (h items)
    | null => exact leaves_null.symm
    | superposition handle candidates => exact (leaves_superposition handle candidates).symm
    | _ => exact List.flatMap_singleton _ _
  rw [trail_eq_flatMap_leaves path v, ← hleaves, List.flatMap_assoc]
  exact List.flatMap_congr fun c _ => trail_eq_flatMap_leaves path c

/-- Is some leaf of the value the same as some of the values that were found? -/
def amongst (v : Value) (found : List Value) : Bool :=
  found.any fun a => v.leaves.any fun b => a.numericallySame b

theorem amongst_iff {v : Value} {found : List Value} :
    v.amongst found = true ↔ ∃ a ∈ found, ∃ b ∈ v.leaves, a.numericallySame b = true := by
  simp only [amongst, List.any_eq_true]

/-- What a readable value's path leads to is an array each time or never. -/
theorem ensures_resolve_ne_array {path : List String} {v : Value} (h : v.IsReadable)
    {ledger : Ledger} (harray : ∀ items, ((resolve path v).run ledger).1 ≠ .array items) :
    Ensures (fun a => ∀ items, a ≠ .array items) (resolve path v) := by
  intro ledger' items hitems
  have halike := (agree_resolve path (.same h) ledger' ledger).1
  rw [hitems] at halike
  generalize hfound : ((resolve path v).run ledger).1 = found at halike harray
  cases halike with
  | same _ => exact harray items rfl

end Value

/-! ## The question -/

namespace Expr

variable {app : Application} {scope v : Value}

/-- Comparing what a path leads to with a constant looks for the leaves of the constant on the
path's trail. -/
theorem answers_field_equal (hlenient : app.strict = false) (path : Path)
    (hscope : scope.IsReadable) (hv : v.IsReadable) :
    Answers (v.amongst (Value.trail path.segments scope))
      ((Expr.compare .equal (.field path) (.literal v)).solve app scope) := by
  intro ledger
  obtain ⟨found, hsolve, hfound, hleaves⟩ := ensures_field hlenient path hscope ledger
  have hequal : Ensures (· = .ok (v.amongst (Value.trail path.segments scope)))
      (Comparison.equal.holds found v).run := by
    refine (Value.ensures_equivalent hfound hv).mono ?_
    rintro _ rfl
    rw [hleaves]
    simp only [SProd.sprod, List.product, Value.amongst, List.any_flatMap, List.any_map,
      Function.comp_def]
  have hleft : ((Expr.field path).solve app scope).run ledger = (.ok (.plain found), _) :=
    Prod.ext hsolve rfl
  have hright (later : Ledger) :
      ((Expr.literal v).solve app scope).run later = (.ok (.plain v), later) := rfl
  exact congrArg (Except.map Solution.value) (solve_compare hleft (hright _) hequal)

theorem answers_not {operand : Expr} {b : Bool} (h : Answers b (operand.solve app scope)) :
    Answers (!b) ((Expr.not operand).solve app scope) := by
  rw [solve]
  refine h.bind fun solution hsolution => ?_
  rw [hsolution]
  exact answers_pure rfl

/-- Asking the candidates at a path is asking the trail, unless they are elements of an array:
`any` asks whether the constant is there, `each` whether it is not. -/
theorem answers_quantified (hlenient : app.strict = false) {quantifier : Quantifier} {body : Expr}
    {p : Path} {q : List String} (hscope : scope.IsReadable)
    (harray : Ensures (fun a => ∀ items, a ≠ .array items) (Value.resolve p.segments scope))
    (hbody : ∀ c : Value, c.IsReadable →
      Answers (v.amongst (Value.trail q c) == quantifier.decided) (body.solve app c)) :
    Answers (v.amongst (Value.trail (p.segments ++ q) scope) == quantifier.decided)
      ((Expr.quantified quantifier (.field p) body).solve app scope) := by
  have hsubject : Ensures (fun x => ∃ a : Value, x = .ok a ∧
      (a.IsReadable ∧ a.leaves = Value.trail p.segments scope) ∧ ∀ items, a ≠ .array items)
      (valueAt app p scope).run :=
    ensures_valueAt_of_resolve hlenient fun ledger =>
      ⟨ensures_resolve p.segments hscope ledger, harray ledger⟩
  rw [solve_quantified]
  unfold Answers
  rw [ExceptT.run_bind]
  refine hsubject.bind ?_
  rintro _ ⟨a, rfl, ⟨ha, hleaves⟩, hne⟩
  have hacross : Answers _ (quantifier.across (solve app body) body a) :=
    Quantifier.answers_across ha fun c hc =>
      hbody c (Value.isReadable_of_mem_alternatives ha hc)
  have hdecided (b : Bool) : quantifier.decidedBy (b == quantifier.decided) = b := by
    cases quantifier <;> cases b <;> rfl
  rw [← Value.trail_of_leaves hleaves q, ← Value.flatMap_trail_alternatives q hne]
  simp only [hdecided] at hacross
  unfold Value.amongst at hacross ⊢
  rw [List.any_flatMap]
  exact hacross

/-- **Three ways to ask whether a constant is at the end of two paths agree.**  They are asking
the candidates at the first path with `any`, asking at the whole path, and asking in the context
of the first path; all are true if a leaf of the constant is the same as one on the trail of the
whole path.  Asking with `each` whether the constant is not there has the other answer. -/
theorem solve_phrasings (hlenient : app.strict = false) (hscope : scope.IsReadable)
    (hv : v.IsReadable) (p q : Path) (ledger : Ledger)
    (harray : ∀ items, ((Value.resolve p.segments scope).run ledger).1 ≠ .array items) :
    ∃ found : Bool,
      (found = true ↔ ∃ a ∈ Value.trail (p.segments ++ q.segments) scope, ∃ b ∈ v.leaves,
        a.numericallySame b = true) ∧
      Answers found ((Expr.quantified .any (.field p)
        (.compare .equal (.field q) (.literal v))).solve app scope) ∧
      Answers found ((Expr.compare .equal (.field ⟨p.segments ++ q.segments⟩)
        (.literal v)).solve app scope) ∧
      Answers found ((Expr.within (.field p)
        (.compare .equal (.field q) (.literal v))).solve app scope) ∧
      Answers (!found) ((Expr.quantified .each (.field p)
        (.not (.compare .equal (.field q) (.literal v)))).solve app scope) := by
  have hnever := Value.ensures_resolve_ne_array hscope harray
  have hbody (c : Value) (hc : c.IsReadable) :
      Answers (v.amongst (Value.trail q.segments c))
        ((Expr.compare .equal (.field q) (.literal v)).solve app c) :=
    answers_field_equal hlenient q hc hv
  refine ⟨_, Value.amongst_iff, ?any, ?whole, ?within, ?each⟩
  case any =>
    have hpresent : ∀ c : Value, c.IsReadable →
        Answers (v.amongst (Value.trail q.segments c) == Quantifier.any.decided)
          ((Expr.compare .equal (.field q) (.literal v)).solve app c) := by
      intro c hc
      rw [Quantifier.decided, beq_true]
      exact hbody c hc
    have hany := answers_quantified hlenient hscope hnever hpresent
    rwa [Quantifier.decided, beq_true] at hany
  case whole =>
    exact answers_field_equal hlenient ⟨p.segments ++ q.segments⟩ hscope hv
  case within =>
    rw [solve]
    unfold Answers
    rw [ExceptT.run_bind]
    refine (ensures_field hlenient p hscope).bind ?_
    rintro _ ⟨inner, rfl, hinner, hleaves⟩
    rw [← Value.trail_of_leaves hleaves]
    exact hbody inner hinner
  case each =>
    have habsent : ∀ c : Value, c.IsReadable →
        Answers (v.amongst (Value.trail q.segments c) == Quantifier.each.decided)
          ((Expr.not (.compare .equal (.field q) (.literal v))).solve app c) := by
      intro c hc
      rw [Quantifier.decided, beq_false]
      exact answers_not (hbody c hc)
    have heach := answers_quantified hlenient hscope hnever habsent
    rwa [Quantifier.decided, beq_false] at heach

/-- A process of the host has the number nine, below a candidate of a candidate. -/
theorem solve_phrasings_host :
    Answers true ((Expr.quantified .any (.field ⟨["Host", "process"]⟩)
        (.compare .equal (.field ⟨["pid"]⟩) (.literal (.integer 9)))).solve .standard host) ∧
      Answers true ((Expr.compare .equal (.field ⟨["Host", "process", "pid"]⟩)
        (.literal (.integer 9))).solve .standard host) ∧
      Answers true ((Expr.within (.field ⟨["Host", "process"]⟩)
        (.compare .equal (.field ⟨["pid"]⟩) (.literal (.integer 9)))).solve .standard host) ∧
      Answers false ((Expr.quantified .each (.field ⟨["Host", "process"]⟩)
        (.not (.compare .equal (.field ⟨["pid"]⟩) (.literal (.integer 9))))).solve
          .standard host) := by
  have hlenient : Application.standard.strict = false := rfl
  have hhost : host.IsReadable := by simp [host]
  have harray (items : List Value) :
      ((Value.resolve ["Host", "process"] host).run ⟨4, []⟩).1 ≠ .array items := by
    rintro ⟨⟩
  have htrail : Value.trail ["Host", "process", "pid"] host =
      [.integer 4, .integer 7, .integer 9] := rfl
  obtain ⟨found, hiff, hanswers⟩ := solve_phrasings hlenient hhost (Value.isReadable_integer 9)
    ⟨["Host", "process"]⟩ ⟨["pid"]⟩ ⟨4, []⟩ harray
  obtain rfl : found = true := by
    refine hiff.2 ⟨.integer 9, ?_, .integer 9, ?_, rfl⟩
    · exact htrail ▸ by simp
    · exact List.mem_singleton_self _
  exact hanswers

end Expr

end FieldQuery
