import FieldQuery.Proofs.Effects

/-!
# Strict applications

A strict application makes an error of a field path that leads to no value, and that is all it
does.  Up to the first such path a strict solve and a lenient one take the same steps, so that
they read the same candidates.  There the strict one stops, and the lenient one makes a note and
goes on; without such a path they come to the same end.

* `Solving.Follows` — a computation takes the steps of another one until it stops at a path.
* `Expr.follows_solve` — strict solving follows lenient solving.
* `Expr.solve_strict` — what a strict solve comes to.
-/

namespace FieldQuery

open Reading Judging

/-- Is the event a note of a path that leads to no value? -/
def Event.IsMissing (event : Event) : Prop :=
  ∃ path, event = .missing path

theorem Event.not_isMissing_of_isRead {event : Event} (h : event.IsRead) : ¬ event.IsMissing := by
  rintro ⟨path, rfl⟩
  exact h

namespace Solving

variable {α β : Type}

/-- The first computation makes no notes of paths without a value.  Whatever was read before, it
runs just as the second one does, or it stops at a path which the second one makes a note of in
its place. -/
structure Follows (m m' : Solving α) : Prop where
  /-- The first computation makes no notes. -/
  silent : Appends (¬ Event.IsMissing ·) m.run
  /-- The second computation leaves what is in the ledger there. -/
  grows : Appends (fun _ => True) m'.run
  /-- The first computation stops at a path, or both run alike. -/
  stops_or_same : ∀ ledger,
    (∃ path after, m.run ledger = (.error (.unresolved path), after) ∧
      .missing path :: after.events <:+ (m'.run ledger).2.events) ∨
    m.run ledger = m'.run ledger

theorem Follows.of_silent {m : Solving α} (h : Appends (¬ Event.IsMissing ·) m.run) :
    Follows m m :=
  ⟨h, h.mono fun _ _ => trivial, fun _ => .inr rfl⟩

/-- What only reads follows itself, however it fails. -/
theorem Follows.of_reads {m : Solving α} {faults : SolveError → Prop}
    (h : Confined Event.IsRead faults m) : Follows m m :=
  .of_silent (h.appends.mono fun _ => Event.not_isMissing_of_isRead)

theorem follows_pure (a : α) : Follows (pure a) (pure a) :=
  .of_silent (appends_pure _)

theorem Follows.bind {m m' : Solving α} {f f' : α → Solving β} (hm : Follows m m')
    (hf : ∀ a, Follows (f a) (f' a)) : Follows (m >>= f) (m' >>= f') := by
  refine ⟨appends_run_bind hm.silent fun a => (hf a).silent,
    appends_run_bind hm.grows fun a => (hf a).grows, fun ledger => ?_⟩
  rcases hm.stops_or_same ledger with ⟨path, after, hstop, hnote⟩ | hsame
  · refine .inl ⟨path, after, run_bind_of_error hstop, hnote.trans ?_⟩
    -- what follows the note does not strike it out
    rcases hrun : m'.run ledger with ⟨e | a, after'⟩
    · rw [run_bind_of_error hrun, List.IsSuffix]
      exact ⟨[], rfl⟩
    · rw [run_bind_of_ok hrun]
      exact ((hf a).grows after').suffix
  · rcases hrun : m.run ledger with ⟨e | a, after⟩
    · rw [run_bind_of_error hrun, run_bind_of_error (hsame.symm.trans hrun)]
      exact .inr rfl
    · rw [run_bind_of_ok hrun, run_bind_of_ok (hsame.symm.trans hrun)]
      exact (hf a).stops_or_same after

/-- What comes behind a reading follows what comes behind the same reading. -/
theorem follows_lift {m : Reading α} {f f' : α → Solving β} (hm : Appends Event.IsRead m)
    (hf : ∀ a, Follows (f a) (f' a)) : Follows (liftM m >>= f) (liftM m >>= f') := by
  have hlift : Confined Event.IsRead (fun _ => False) (liftM m : Solving α) := confined_lift hm
  exact (Follows.of_reads hlift).bind hf

end Solving

open Solving

namespace Quantifier

variable {quantifier : Quantifier} {solveBody solveBody' : Value → Solving Solution}
  {body : Expr}

/-- The bodies are followed from candidate to candidate, and so is what they decide. -/
theorem follows_run (hbody : ∀ c, Follows (solveBody c) (solveBody' c)) {take : Reading Unit}
    (htake : Appends Event.IsRead take) (index : Nat) (candidates : List Value) :
    Follows (quantifier.run take solveBody body index candidates)
      (quantifier.run take solveBody' body index candidates) := by
  induction candidates generalizing index with
  | nil => exact follows_pure _
  | cons c cs ih =>
    rw [run, run]
    refine follows_lift htake fun _ => (hbody c).bind fun solution => ?_
    have hnote : Appends (¬ Event.IsMissing ·)
        (modify (Ledger.note (.judged quantifier index solution.value)) : Solving PUnit).run :=
      appends_note (by simp [Event.IsMissing])
    refine (Follows.of_silent hnote).bind fun _ => ?_
    refine follows_lift (Value.appends_isTruthy solution.value.permits_isRead) fun holds => ?_
    split
    · exact follows_pure _
    · exact ih _

theorem follows_across (hbody : ∀ c, Follows (solveBody c) (solveBody' c)) (v : Value) :
    Follows (quantifier.across solveBody body v) (quantifier.across solveBody' body v) := by
  rcases Value.isSingle_or v with hsingle | ⟨handle, candidates, rfl⟩
  · rw [across_of_isSingle hsingle, across_of_isSingle hsingle]
    exact follows_run hbody (appends_pure _) _ _
  · unfold across
    refine follows_lift (Handle.appends_ask handle.permits_isRead) fun answer => ?_
    split <;> exact follows_run hbody (Handle.appends_take handle.permits_isRead) _ _

end Quantifier

namespace Expr

variable (app : Application)

theorem follows_valueAt (path : Path) (scope : Value) :
    Follows (valueAt { app with strict := true } path scope)
      (valueAt { app with strict := false } path scope) := by
  unfold valueAt
  refine follows_lift (Value.appends_resolve path.segments scope) fun v => ?_
  split
  · -- the one place where the two differ
    refine ⟨appends_pure _, (appends_note trivial).bind fun _ => appends_pure _, fun ledger => ?_⟩
    exact .inl ⟨path, ledger, rfl, List.suffix_refl _⟩
  · exact follows_pure v

theorem follows_subject {context : Expr} {scope : Value}
    (hcontext : Follows (solve { app with strict := true } context scope)
      (solve { app with strict := false } context scope)) :
    Follows (subject { app with strict := true } context scope)
      (subject { app with strict := false } context scope) := by
  unfold subject
  split
  · exact follows_valueAt app _ scope
  · exact hcontext.bind fun _ => follows_pure _

/-- What tells the truth of a value follows itself. -/
theorem follows_truth (v : Value) {f f' : Bool → Solving Solution}
    (hf : ∀ holds, Follows (f holds) (f' holds)) :
    Follows (liftM v.isTruthy >>= f) (liftM v.isTruthy >>= f') :=
  follows_lift (Value.appends_isTruthy v.permits_isRead) hf

/-- **Strict solving follows lenient solving**, one case for each kind of expression. -/
theorem follows_solve (e : Expr) (scope : Value) :
    Follows (solve { app with strict := true } e scope)
      (solve { app with strict := false } e scope) := by
  induction e generalizing scope with
  | literal v => exact follows_pure _
  | field path =>
    rw [solve, solve]
    refine (follows_valueAt app path scope).bind fun v => ?_
    exact follows_lift (Value.appends_settle v.permits_isRead) fun _ => follows_pure _
  | component name => exact follows_pure _
  | within context body ihContext ihBody =>
    rw [solve, solve]
    exact (ihContext scope).bind fun inner => ihBody inner.value
  | quantified quantifier context body ihContext ihBody =>
    rw [solve_quantified, solve_quantified]
    refine (follows_subject app (ihContext scope)).bind fun v => ?_
    exact Quantifier.follows_across (fun c => ihBody c) v
  | not operand ih =>
    rw [solve, solve]
    exact (ih scope).bind fun _ => follows_truth _ fun _ => follows_pure _
  | and left right ihLeft ihRight =>
    rw [solve, solve]
    refine (ihLeft scope).bind fun first => follows_truth _ fun holds => ?_
    split
    · exact (ihRight scope).bind fun _ => follows_truth _ fun _ => follows_pure _
    · exact follows_pure _
  | or left right ihLeft ihRight =>
    rw [solve, solve]
    refine (ihLeft scope).bind fun first => follows_truth _ fun holds => ?_
    split
    · exact follows_pure _
    · exact (ihRight scope).bind fun _ => follows_pure _
  | compare relation left right ihLeft ihRight =>
    rw [solve, solve]
    refine (ihLeft scope).bind fun l => (ihRight scope).bind fun r => ?_
    have hjudge := confined_judge (.compare relation left right)
      (Value.confined_holds relation l.value.permits_isRead r.value.permits_isRead)
    exact (Follows.of_reads hjudge).bind fun _ => follows_pure _
  | isInstance subject typeName ih =>
    rw [solve, solve]
    exact (ih scope).bind fun _ => follows_pure _
  | arithmetic operation left right ihLeft ihRight =>
    rw [solve, solve]
    refine (ihLeft scope).bind fun l => (ihRight scope).bind fun r => ?_
    cases operation.apply l.value r.value with
    | ok v => exact follows_pure _
    | error fault => exact .of_silent (appends_pure _)

/-- **Strictness only adds errors about paths.**  Begun with the same reads behind them, a strict
and a lenient solve have the same outcome, the value, the branch and the error alike, and read the
same, unless the lenient one makes a note of a path that leads to no value.  Then the strict one
stops at the first such path. -/
theorem solve_strict (e : Expr) (scope : Value) (ledger : Ledger) :
    (∃ path after, (solve { app with strict := true } e scope).run ledger =
        (.error (.unresolved path), after) ∧ ledger.Extends (¬ Event.IsMissing ·) after ∧
      .missing path :: after.events <:+
        ((solve { app with strict := false } e scope).run ledger).2.events) ∨
    ((solve { app with strict := true } e scope).run ledger =
        (solve { app with strict := false } e scope).run ledger ∧
      ledger.Extends (¬ Event.IsMissing ·) ((solve { app with strict := false } e scope).run ledger).2) := by
  have hfollows := follows_solve app e scope
  have hsilent : ledger.Extends (¬ Event.IsMissing ·)
      ((solve { app with strict := true } e scope).run ledger).2 := hfollows.silent ledger
  rcases hfollows.stops_or_same ledger with ⟨path, after, hstop, hnote⟩ | hsame
  · rw [hstop] at hsilent
    exact .inl ⟨path, after, hstop, hsilent, hnote⟩
  · rw [hsame] at hsilent
    exact .inr ⟨hsame, hsilent⟩

end Expr

end FieldQuery
