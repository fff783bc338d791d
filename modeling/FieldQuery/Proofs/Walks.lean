import FieldQuery.Proofs.Leaves
import Mathlib.Data.List.Basic

/-!
# Following one path after another

A path is followed from candidate to candidate, and what is found is put together on the way:
misses are dropped, nested superpositions are merged and single candidates stand for
themselves.  The leaves at the end do not depend on when that happens.

* `Value.next?` — where one name leads from a single value.
* `Value.trail` — the leaves at the end of a path, leaf by leaf.
* `Value.trail_append` — a path of two parts is followed part by part.
* `Value.agree_resolve` — what is found at a path has the leaves of its trail, and is alike each
  time.
* `Expr.solve_field_append` — a path of two parts leads where the second part leads in the
  context of the first.
-/

namespace FieldQuery

open Reading Judging

namespace Value

/-! ## Trails -/

/-- The value that a name leads to from a single value.  The name of a record's type leads to
the record if it is not a field. -/
def next? (name : String) : Value → Option Value
  | .record identity typeName fields =>
    match lookup name fields with
    | some next => some next
    | none => if typeName = name then some (.record identity typeName fields) else none
  | v => v.get? name

/-- A name leads to a field, or from a record to the record itself. -/
theorem next?_cases {name : String} {v w : Value} (h : v.next? name = some w) :
    w = v ∨ ∃ fields, lookup name fields = some w ∧
      (v = .object fields ∨ ∃ identity typeName, v = .record identity typeName fields) := by
  unfold next? at h
  split at h
  · rename_i identity typeName fields
    split at h
    · rename_i found
      obtain rfl := Option.some.inj h
      exact .inr ⟨fields, found, .inr ⟨identity, typeName, rfl⟩⟩
    · split at h
      · exact .inl (Option.some.inj h).symm
      · cases h
  · unfold get? at h
    split at h
    · exact .inr ⟨_, h, .inl rfl⟩
    · exact .inr ⟨_, h, .inr ⟨_, _, rfl⟩⟩
    · cases h

theorem isReadable_of_next? {name : String} {v w : Value} (h : v.next? name = some w)
    (hv : v.IsReadable) : w.IsReadable := by
  obtain rfl | ⟨fields, hfound, rfl | ⟨identity, typeName, rfl⟩⟩ := next?_cases h
  · exact hv
  · exact isReadable_of_lookup hfound (isReadable_object.1 hv)
  · exact isReadable_of_lookup hfound (isReadable_record.1 hv)

/-- The leaves at the end of a path. -/
def trail : List String → Value → List Value
  | [], v => v.leaves
  | name :: rest, v => v.leaves.flatMap fun leaf => (leaf.next? name).toList.flatMap (trail rest)

theorem isSingle_of_mem_leaves {v leaf : Value} (h : leaf ∈ v.leaves) :
    leaf.IsSingle ∧ leaf.isNull = false := by
  induction v using candidates_induction with
  | single v hsingle =>
    by_cases hnull : v.isNull = true
    · rw [leaves_of_isNull hnull] at h
      simp at h
    · rw [Bool.not_eq_true] at hnull
      rw [leaves_of_isSingle hsingle hnull, List.mem_singleton] at h
      subst h
      exact ⟨hsingle, hnull⟩
  | superposition handle candidates ih =>
    rw [leaves_superposition, List.mem_flatMap] at h
    obtain ⟨c, hc, hleaf⟩ := h
    exact ih c hc hleaf

/-- A leaf is its own only leaf. -/
theorem leaves_of_mem_leaves {v leaf : Value} (h : leaf ∈ v.leaves) : leaf.leaves = [leaf] :=
  leaves_of_isSingle (isSingle_of_mem_leaves h).1 (isSingle_of_mem_leaves h).2

/-- Whoever follows a path follows it from every leaf. -/
theorem trail_eq_flatMap_leaves (path : List String) (v : Value) :
    trail path v = v.leaves.flatMap (trail path) := by
  cases path with
  | nil =>
    have hself : v.leaves.flatMap (trail []) = v.leaves.flatMap fun leaf => [leaf] :=
      List.flatMap_congr fun leaf hleaf => leaves_of_mem_leaves hleaf
    rw [hself, List.flatMap_singleton', trail]
  | cons name rest =>
    refine List.flatMap_congr fun leaf hleaf => ?_
    rw [trail, leaves_of_mem_leaves hleaf, List.flatMap_singleton]

/-- **A path of two parts is followed part by part.** -/
theorem trail_append (p q : List String) (v : Value) :
    trail (p ++ q) v = (trail p v).flatMap (trail q) := by
  induction p generalizing v with
  | nil => exact trail_eq_flatMap_leaves q v
  | cons name rest ih =>
    rw [List.cons_append, trail, trail, List.flatMap_assoc]
    refine List.flatMap_congr fun leaf _ => ?_
    rw [List.flatMap_assoc]
    exact List.flatMap_congr fun next _ => ih next

/-- Whoever is at the leaves of a trail goes on from there. -/
theorem trail_of_leaves {p : List String} {v w : Value} (h : w.leaves = trail p v)
    (q : List String) : trail q w = trail (p ++ q) v := by
  calc trail q w
      = w.leaves.flatMap (trail q) := trail_eq_flatMap_leaves q w
    _ = (trail p v).flatMap (trail q) := by rw [h]
    _ = trail (p ++ q) v := (trail_append p q v).symm

/-! ## What is found at a path -/

theorem descend_of_isSingle (name : String) (follow : Value → Reading Value) {v : Value}
    (h : v.IsSingle) : descend name follow v =
      match v.next? name with
      | some next => follow next
      | none => return .null := by
  cases v with
  | superposition => exact absurd rfl (h _ _)
  | record identity typeName fields =>
    simp only [descend, next?]
    cases lookup name fields with
    | some next => rfl
    | none =>
      by_cases hname : typeName = name
      · simp only [if_pos hname]
      · simp only [if_neg hname]
  | _ => rfl

/-- The candidates that a value adds to those found before. -/
def hits : Value → Reading (List Value)
  | .null => return []
  | .superposition handle candidates => handle.readAll candidates
  | v => return [v]

theorem descendAll_cons (name : String) (follow : Value → Reading Value) (handle : Handle)
    (c : Value) (cs : List Value) : descendAll name follow handle (c :: cs) = (do
      handle.take
      let found ← hits (← descend name follow c)
      return found ++ (← descendAll name follow handle cs)) := by
  rw [descendAll]
  refine bind_congr fun _ => bind_congr fun found => ?_
  cases found <;> rfl

theorem hits_of_isSingle {v : Value} (h : v.IsSingle) : hits v = pure v.leaves := by
  cases v with
  | superposition => exact absurd rfl (h _ _)
  | _ => simp [hits, leaves]

/-- Values that are alike add the same candidates, with the leaves of the values. -/
theorem agree_hits {v w : Value} (h : Alike v w) :
    Agree (fun found found' => found = found' ∧ (∀ u ∈ found, u.IsReadable) ∧
      found.flatMap leaves = v.leaves) (hits v) (hits w) := by
  obtain ⟨hsingle, rfl⟩ | ⟨handle, handle', candidates, rfl, rfl, hh, hh', hcandidates⟩ :=
    h.single_or_candidates
  · rw [hits_of_isSingle hsingle]
    refine agree_pure ⟨rfl, fun u hu => ?_, (trail_eq_flatMap_leaves [] v).symm⟩
    by_cases hnull : v.isNull = true
    · rw [leaves_of_isNull hnull] at hu
      simp at hu
    · rw [leaves_of_isSingle hsingle (by simpa using hnull), List.mem_singleton] at hu
      exact hu ▸ h.readable
  · refine (agree_readAll hh hh' candidates).mono ?_
    rintro _ _ ⟨rfl, rfl⟩
    exact ⟨rfl, hcandidates, (leaves_superposition _ _).symm⟩

section

variable {name : String} {follow : Value → Reading Value} {goal : Value → List Value}

theorem agree_descendAll {goal : Value → List Value} {handle handle' : Handle}
    {candidates : List Value}
    (hdescend : ∀ c ∈ candidates, Agree (fun v w => Alike v w ∧ v.leaves = goal c)
      (descend name follow c) (descend name follow c)) :
    Agree (fun found found' => found = found' ∧ (∀ u ∈ found, u.IsReadable) ∧
      found.flatMap leaves = candidates.flatMap goal)
      (descendAll name follow handle candidates) (descendAll name follow handle' candidates) := by
  induction candidates with
  | nil => exact agree_pure ⟨rfl, by simp, rfl⟩
  | cons c cs ih =>
    rw [descendAll_cons, descendAll_cons]
    refine (agree_true handle.take handle'.take).bind fun _ _ _ => ?_
    refine (hdescend c (by simp)).bind ?_
    rintro v w ⟨hvw, hgoal⟩
    refine (agree_hits hvw).bind ?_
    rintro found _ ⟨rfl, hfound, hleaves⟩
    refine (ih fun d hd => hdescend d (by simp [hd])).bind ?_
    rintro more _ ⟨rfl, hmore, hrest⟩
    refine agree_pure ⟨rfl, List.forall_mem_append.2 ⟨hfound, hmore⟩, ?_⟩
    rw [List.flatMap_append, hleaves, hrest, List.flatMap_cons, hgoal]

theorem flatMap_next?_of_isSingle {v : Value} (h : v.IsSingle) :
    (v.leaves.flatMap fun leaf => (leaf.next? name).toList.flatMap goal) =
      (v.next? name).toList.flatMap goal := by
  by_cases hnull : v.isNull = true
  · cases v with
    | null => rfl
    | _ => simp [isNull] at hnull
  · rw [leaves_of_isSingle h (by simpa using hnull), List.flatMap_singleton]

/-- One step, if what follows leads to alike values with known leaves. -/
theorem agree_descend
    (hfollow : ∀ u, u.IsReadable →
      Agree (fun a b => Alike a b ∧ a.leaves = goal u) (follow u) (follow u))
    {v w : Value} (h : Alike v w) :
    Agree (fun a b => Alike a b ∧
      a.leaves = v.leaves.flatMap fun leaf => (leaf.next? name).toList.flatMap goal)
      (descend name follow v) (descend name follow w) := by
  refine h.candidates_induction ?single ?superposition
  case single =>
    intro v hsingle hv
    rw [descend_of_isSingle name follow hsingle, flatMap_next?_of_isSingle hsingle]
    cases hnext : v.next? name with
    | none => exact agree_pure ⟨.same isReadable_null, leaves_null⟩
    | some next =>
      rw [Option.toList_some, List.flatMap_singleton]
      exact hfollow next (isReadable_of_next? hnext hv)
  case superposition =>
    intro handle handle' candidates hh hh' _ ih
    rw [descend, descend]
    refine (agree_ask hh hh').bind ?_
    rintro _ _ ⟨rfl, rfl⟩
    refine (agree_descendAll ih).bind ?_
    rintro found _ ⟨rfl, hfound, hleaves⟩
    refine ((agree_ofCandidates hfound).and (ensures_ofCandidates found)).mono ?_
    rintro a b ⟨hab, hfoundLeaves⟩
    refine ⟨hab, ?_⟩
    rw [hfoundLeaves, hleaves, leaves_superposition, List.flatMap_assoc]

end

/-- **What is found at a path has the leaves of its trail.**  Each time it is alike. -/
theorem agree_resolve (path : List String) {v w : Value} (h : Alike v w) :
    Agree (fun a b => Alike a b ∧ a.leaves = trail path v) (resolve path v) (resolve path w) := by
  induction path generalizing v w with
  | nil => exact agree_pure ⟨h, rfl⟩
  | cons name rest ih => exact agree_descend (fun u hu => ih (.same hu)) h

end Value

namespace Expr

variable {app : Application}

/-- The value at a path has the leaves of the path's trail, unless it is an error. -/
theorem concur_valueAt (path : Path) {v w : Value} (h : Value.Alike v w) :
    Concur (fun a b => Value.Alike a b ∧ a.leaves = Value.trail path.segments v)
      (valueAt app path v) (valueAt app path w) := by
  unfold valueAt
  refine concur_lift (Value.agree_resolve path.segments h) fun a b hab => ?_
  rw [← hab.1.isNull_eq]
  split
  · split
    · exact concur_throw _
    · exact concur_modify (concur_pure hab)
  · exact concur_pure hab

/-- A lenient application takes what is found at a path, value or not. -/
theorem ensures_valueAt_of_resolve (hlenient : app.strict = false) {path : Path} {v : Value}
    {P : Value → Prop} (h : Ensures P (Value.resolve path.segments v)) :
    Ensures (fun x => ∃ a : Value, x = .ok a ∧ P a) (valueAt app path v).run := by
  unfold valueAt
  refine ensures_lift h fun a ha => ?_
  rw [hlenient]
  intro ledger
  cases a.isNull && !path.isCurrent <;> exact ⟨a, rfl, ha⟩

theorem ensures_resolve (path : List String) {v : Value} (h : v.IsReadable) :
    Ensures (fun a => a.IsReadable ∧ a.leaves = Value.trail path v) (Value.resolve path v) :=
  (Value.agree_resolve path (.same h)).ensures.mono fun _ ha => ⟨ha.1.readable, ha.2⟩

/-- A lenient field path comes to a copy of what is found. -/
theorem ensures_field_of_resolve (hlenient : app.strict = false) {path : Path} {v : Value}
    {P Q : Value → Prop} (h : Ensures P (Value.resolve path.segments v))
    (hcopy : ∀ a : Value, P a → Ensures Q a.settle) :
    Ensures (fun x => ∃ a : Value, x = .ok (.plain a) ∧ Q a)
      ((Expr.field path).solve app v).run := by
  rw [solve, ExceptT.run_bind]
  refine (ensures_valueAt_of_resolve hlenient h).bind ?_
  rintro _ ⟨found, rfl, hfound⟩
  exact ensures_lift (hcopy found hfound) fun copy hQ => ensures_pure ⟨copy, rfl, hQ⟩

theorem ensures_field (hlenient : app.strict = false) (path : Path) {v : Value}
    (h : v.IsReadable) :
    Ensures (fun x => ∃ a : Value, x = .ok (.plain a) ∧ a.IsReadable ∧
      a.leaves = Value.trail path.segments v) ((Expr.field path).solve app v).run := by
  refine ensures_field_of_resolve hlenient (ensures_resolve path.segments h) ?_
  rintro found ⟨hfound, hleaves⟩
  exact (Value.ensures_settle hfound).mono fun copy hcopy => ⟨hcopy.1, hcopy.2.trans hleaves⟩

/-- **A path of two parts leads where the second part leads in the context of the first.**  The
two ways put what they find together at different times, but the leaves are the same ones in
the same order. -/
theorem solve_field_append (hlenient : app.strict = false) {scope : Value}
    (hscope : scope.IsReadable) (p q : List String) (ledger ledger' : Ledger) :
    ∃ v w, (((Expr.field ⟨p ++ q⟩).solve app scope).run ledger).1 = .ok (.plain v) ∧
      (((Expr.within (.field ⟨p⟩) (.field ⟨q⟩)).solve app scope).run ledger').1 =
        .ok (.plain w) ∧
      v.leaves = w.leaves := by
  have hparts : Ensures (fun x => ∃ a : Value, x = .ok (.plain a) ∧
      a.leaves = Value.trail (p ++ q) scope)
      ((Expr.within (.field ⟨p⟩) (.field ⟨q⟩)).solve app scope).run := by
    rw [solve, ExceptT.run_bind]
    refine (ensures_field hlenient ⟨p⟩ hscope).bind ?_
    rintro _ ⟨inner, rfl, hinner, hp⟩
    refine (ensures_field hlenient ⟨q⟩ hinner).mono ?_
    rintro _ ⟨a, rfl, -, hq⟩
    exact ⟨a, rfl, hq.trans (Value.trail_of_leaves hp q)⟩
  obtain ⟨v, hv, -, hvLeaves⟩ := ensures_field hlenient ⟨p ++ q⟩ hscope ledger
  obtain ⟨w, hw, hwLeaves⟩ := hparts ledger'
  exact ⟨v, w, hv, hw, hvLeaves.trans hwLeaves.symm⟩

/-- A record with candidates of several kinds in a field, some of which have candidates
again. -/
def host : Value :=
  .record 0 "Host" [("process", .superposition ⟨1, .supplied⟩
    [.record 2 "Process" [("pid", .integer 4)], .null,
      .object [("pid", .superposition ⟨3, .supplied⟩ [.integer 7, .integer 9])]])]

/-- The processes are found on the host under the host's own name, and then their numbers. -/
theorem solve_field_append_host :
    ∃ v w, (((Expr.field ⟨["Host", "process", "pid"]⟩).solve .standard host).run ⟨4, []⟩).1 =
        .ok (.plain v) ∧
      (((Expr.within (.field ⟨["Host", "process"]⟩) (.field ⟨["pid"]⟩)).solve
        .standard host).run ⟨4, []⟩).1 = .ok (.plain w) ∧
      v.leaves = w.leaves := by
  have hlenient : Application.standard.strict = false := rfl
  have hhost : host.IsReadable := by simp [host]
  exact solve_field_append hlenient hhost ["Host", "process"] ["pid"] ⟨4, []⟩ ⟨4, []⟩

end Expr

end FieldQuery
