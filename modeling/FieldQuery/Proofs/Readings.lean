import FieldQuery.Solve.Comparison

/-!
# Reasoning about readings

A reading depends on the ledger, and mostly in ways that nobody sees in its result.  Two
judgements say so without speaking of ledgers.

* `Reading.Ensures` — whatever was read before, the result has a property.
* `Reading.Agree` — two readings, each whatever was read before it, have related results.
* `Judging.Concur` — the same of computations that can fail: both fail in the same way, or
  both succeed with related results.

The loops that look for the first candidate with some property are all `firstTrue`, and what
they find is `firstDecided` of what is found for each candidate.
-/

namespace FieldQuery

namespace Reading

variable {α β γ δ : Type}

/-- Whatever was read before, the result has the property. -/
def Ensures (P : α → Prop) (m : Reading α) : Prop :=
  ∀ ledger, P (m.run ledger).1

theorem ensures_pure {P : α → Prop} {a : α} (h : P a) : Ensures P (pure a) := by
  intro ledger
  exact h

theorem Ensures.bind {P : α → Prop} {Q : β → Prop} {m : Reading α} {f : α → Reading β}
    (hm : Ensures P m) (hf : ∀ a, P a → Ensures Q (f a)) : Ensures Q (m >>= f) := by
  intro ledger
  exact hf _ (hm ledger) _

theorem Ensures.mono {P Q : α → Prop} {m : Reading α} (hm : Ensures P m)
    (hPQ : ∀ a, P a → Q a) : Ensures Q m := by
  intro ledger
  exact hPQ _ (hm ledger)

theorem ensures_true (m : Reading α) : Ensures (fun _ => True) m := by
  intro ledger
  trivial

/-- Two readings, each whatever was read before it, have related results. -/
def Agree (R : α → β → Prop) (m : Reading α) (m' : Reading β) : Prop :=
  ∀ ledger ledger', R (m.run ledger).1 (m'.run ledger').1

theorem agree_pure {R : α → β → Prop} {a : α} {b : β} (h : R a b) :
    Agree R (pure a) (pure b) := by
  intro ledger ledger'
  exact h

theorem Agree.bind {R : α → β → Prop} {S : γ → δ → Prop} {m : Reading α} {m' : Reading β}
    {f : α → Reading γ} {g : β → Reading δ} (hm : Agree R m m')
    (hf : ∀ a b, R a b → Agree S (f a) (g b)) : Agree S (m >>= f) (m' >>= g) := by
  intro ledger ledger'
  exact hf _ _ (hm ledger ledger') _ _

theorem Agree.mono {R S : α → β → Prop} {m : Reading α} {m' : Reading β} (hm : Agree R m m')
    (hRS : ∀ a b, R a b → S a b) : Agree S m m' := by
  intro ledger ledger'
  exact hRS _ _ (hm ledger ledger')

/-- Readings whose results are known agree as far as what is known of them says so. -/
theorem Ensures.agree {P : α → Prop} {Q : β → Prop} {R : α → β → Prop} {m : Reading α}
    {m' : Reading β} (hm : Ensures P m) (hm' : Ensures Q m')
    (hR : ∀ a b, P a → Q b → R a b) : Agree R m m' := by
  intro ledger ledger'
  exact hR _ _ (hm ledger) (hm' ledger')

/-- Any two readings agree where nothing is asked of their results. -/
theorem agree_true (m : Reading α) (m' : Reading β) : Agree (fun _ _ => True) m m' := by
  intro ledger ledger'
  trivial

/-- What is known of one result may be added. -/
theorem Agree.and {P : α → Prop} {R : α → β → Prop} {m : Reading α} {m' : Reading β}
    (hm : Agree R m m') (hP : Ensures P m) : Agree (fun a b => R a b ∧ P a) m m' := by
  intro ledger ledger'
  exact ⟨hm ledger ledger', hP ledger⟩

/-- What agrees with itself has a result that is related to itself. -/
theorem Agree.ensures {R : α → α → Prop} {m : Reading α} (hm : Agree R m m) :
    Ensures (fun a => R a a) m := by
  intro ledger
  exact hm ledger ledger

end Reading

open Reading

/-! ## Readings that can fail -/

namespace Judging

variable {ε α β γ δ : Type}

/-- Both outcomes are the same failure, or both are successes with related results. -/
inductive Outcomes (R : α → β → Prop) : Except ε α → Except ε β → Prop where
  /-- Two successes. -/
  | ok {a : α} {b : β} (related : R a b) : Outcomes R (.ok a) (.ok b)
  /-- One failure, twice. -/
  | error (e : ε) : Outcomes R (.error e) (.error e)

theorem outcomes_eq {x y : Except ε α} : Outcomes Eq x y ↔ x = y := by
  constructor
  · rintro (⟨⟨⟩⟩ | _) <;> rfl
  · rintro rfl
    cases x with
    | ok a => exact .ok rfl
    | error e => exact .error e

/-- Two computations, each whatever was read before it, fail in the same way or succeed with
related results. -/
def Concur (R : α → β → Prop) (m : ExceptT ε Reading α) (m' : ExceptT ε Reading β) : Prop :=
  Agree (Outcomes R) m.run m'.run

theorem concur_pure {R : α → β → Prop} {a : α} {b : β} (h : R a b) :
    Concur (ε := ε) R (pure a) (pure b) :=
  agree_pure (.ok h)

theorem concur_throw {R : α → β → Prop} (e : ε) :
    Concur R (throw e : ExceptT ε Reading α) (throw e : ExceptT ε Reading β) :=
  agree_pure (.error e)

theorem Concur.bind {R : α → β → Prop} {S : γ → δ → Prop} {m : ExceptT ε Reading α}
    {m' : ExceptT ε Reading β} {f : α → ExceptT ε Reading γ} {g : β → ExceptT ε Reading δ}
    (hm : Concur R m m') (hf : ∀ a b, R a b → Concur S (f a) (g b)) :
    Concur S (m >>= f) (m' >>= g) := by
  unfold Concur
  rw [ExceptT.run_bind, ExceptT.run_bind]
  refine Agree.bind hm fun x y hxy => ?_
  cases hxy with
  | ok related => exact hf _ _ related
  | error e => exact agree_pure (.error e)

theorem Concur.mono {R S : α → β → Prop} {m : ExceptT ε Reading α} {m' : ExceptT ε Reading β}
    (hm : Concur R m m') (hRS : ∀ a b, R a b → S a b) : Concur S m m' := by
  refine Agree.mono hm fun x y hxy => ?_
  cases hxy with
  | ok related => exact .ok (hRS _ _ related)
  | error e => exact .error e

/-- Computations with the same known outcome concur. -/
theorem concur_of_ensures {x : Except ε α} {m m' : ExceptT ε Reading α}
    (hm : Ensures (· = x) m.run) (hm' : Ensures (· = x) m'.run) : Concur Eq m m' := by
  refine hm.agree hm' ?_
  rintro _ _ rfl rfl
  exact outcomes_eq.2 rfl

/-- Readings that agree may come first. -/
theorem concur_lift {R : α → β → Prop} {S : γ → δ → Prop} {m : Reading α} {m' : Reading β}
    {f : α → ExceptT ε Reading γ} {g : β → ExceptT ε Reading δ} (hm : Agree R m m')
    (hf : ∀ a b, R a b → Concur S (f a) (g b)) :
    Concur S (liftM m >>= f) (liftM m' >>= g) := by
  intro ledger ledger'
  exact hf _ _ (hm ledger ledger') _ _

/-- A reading may come first. -/
theorem ensures_lift {P : α → Prop} {Q : Except ε β → Prop} {m : Reading α}
    {f : α → ExceptT ε Reading β} (hm : Ensures P m) (hf : ∀ a, P a → Ensures Q (f a).run) :
    Ensures Q (liftM m >>= f).run := by
  intro ledger
  exact hf _ (hm ledger) _

/-- What is done with the result of a reading need be the same only for results that there are. -/
theorem lift_bind_congr {P : α → Prop} {m : Reading α} {f g : α → ExceptT ε Reading β}
    (hm : Ensures P m) (hf : ∀ a, P a → f a = g a) :
    (liftM m >>= f : ExceptT ε Reading β) = liftM m >>= g := by
  refine funext fun ledger => ?_
  change (f (m.run ledger).1).run (m.run ledger).2 = (g (m.run ledger).1).run (m.run ledger).2
  rw [hf _ (hm ledger)]

/-- What is noted on the way does not matter. -/
theorem concur_modify {S : γ → δ → Prop} {note note' : Ledger → Ledger}
    {f : PUnit → ExceptT ε Reading γ} {g : PUnit → ExceptT ε Reading δ}
    (hf : Concur S (f ⟨⟩) (g ⟨⟩)) : Concur S (modify note >>= f) (modify note' >>= g) := by
  intro ledger ledger'
  exact hf _ _

/-- A reading that comes first never fails. -/
theorem run_lift_bind (m : Reading α) (f : α → ExceptT ε Reading β) (ledger : Ledger) :
    (liftM m >>= f).run ledger = (f (m.run ledger).1).run (m.run ledger).2 := rfl

theorem run_bind_of_ok {m : ExceptT ε Reading α} {f : α → ExceptT ε Reading β}
    {ledger ledger' : Ledger} {a : α} (h : m.run ledger = (.ok a, ledger')) :
    (m >>= f).run ledger = (f a).run ledger' := by
  show (match m.run ledger with | (x, after) => ExceptT.bindCont f x after) = _
  rw [h]
  rfl

theorem run_bind_of_error {m : ExceptT ε Reading α} {f : α → ExceptT ε Reading β}
    {ledger ledger' : Ledger} {e : ε} (h : m.run ledger = (.error e, ledger')) :
    (m >>= f).run ledger = (.error e, ledger') := by
  show (match m.run ledger with | (x, after) => ExceptT.bindCont f x after) = _
  rw [h]
  rfl

/-- Where the second of two computations succeeds, so has the first before it. -/
theorem run_bind_eq_ok {m : ExceptT ε Reading α} {f : α → ExceptT ε Reading β}
    {ledger ledger₂ : Ledger} {b : β} (h : (m >>= f).run ledger = (.ok b, ledger₂)) :
    ∃ a ledger₁, m.run ledger = (.ok a, ledger₁) ∧ (f a).run ledger₁ = (.ok b, ledger₂) := by
  rcases hm : m.run ledger with ⟨e | a, ledger₁⟩
  · rw [run_bind_of_error hm] at h
    cases h
  · exact ⟨a, ledger₁, rfl, (run_bind_of_ok hm).symm.trans h⟩

/-- Where two computations fail, the first one does, or it succeeds and the second one does. -/
theorem run_bind_eq_error {m : ExceptT ε Reading α} {f : α → ExceptT ε Reading β}
    {ledger after : Ledger} {e : ε} (h : (m >>= f).run ledger = (.error e, after)) :
    m.run ledger = (.error e, after) ∨
      ∃ a middle, m.run ledger = (.ok a, middle) ∧ (f a).run middle = (.error e, after) := by
  rcases hm : m.run ledger with ⟨e' | a, middle⟩
  · rw [run_bind_of_error hm] at h
    cases h
    exact .inl rfl
  · exact .inr ⟨a, middle, rfl, (run_bind_of_ok hm).symm.trans h⟩

/-- Where one of two computations that concur fails, so does the other at any time. -/
theorem Concur.error {R : α → β → Prop} {m : ExceptT ε Reading α} {m' : ExceptT ε Reading β}
    (h : Concur R m m') {ledger after : Ledger} {e : ε} (hm : m.run ledger = (.error e, after))
    (ledger' : Ledger) : (m'.run ledger').1 = .error e := by
  have hboth : Outcomes R (m.run ledger).1 (m'.run ledger').1 := h ledger ledger'
  rw [hm] at hboth
  generalize (m'.run ledger').1 = outcome at hboth
  cases hboth with
  | error => rfl

/-- Where one of two computations that concur succeeds, so does the other at any time. -/
theorem Concur.ok {R : α → β → Prop} {m : ExceptT ε Reading α} {m' : ExceptT ε Reading β}
    (h : Concur R m m') {ledger after : Ledger} {a : α} (hm : m.run ledger = (.ok a, after))
    (ledger' : Ledger) : ∃ b, (m'.run ledger').1 = .ok b ∧ R a b := by
  have hboth : Outcomes R (m.run ledger).1 (m'.run ledger').1 := h ledger ledger'
  rw [hm] at hboth
  generalize (m'.run ledger').1 = outcome at hboth
  cases hboth with
  | ok related => exact ⟨_, rfl, related⟩

/-! ## The outcome for a list of candidates -/

/-- Does an outcome settle a search, either way? -/
def decides : Except Fault Bool → Bool
  | .ok false => false
  | _ => true

/-- The first outcome that settles a search; without one nothing is found. -/
def firstDecided (outcomes : List (Except Fault Bool)) : Except Fault Bool :=
  (outcomes.find? decides).getD (.ok false)

@[simp] theorem firstDecided_nil : firstDecided [] = .ok false := rfl

@[simp] theorem firstDecided_cons_false (outcomes : List (Except Fault Bool)) :
    firstDecided (.ok false :: outcomes) = firstDecided outcomes := rfl

theorem firstDecided_cons {x : Except Fault Bool} (h : x ≠ .ok false)
    (outcomes : List (Except Fault Bool)) : firstDecided (x :: outcomes) = x := by
  unfold firstDecided
  rw [List.find?_cons_of_pos]
  · rfl
  · unfold decides
    split
    · contradiction
    · rfl

@[simp] theorem firstDecided_singleton (x : Except Fault Bool) : firstDecided [x] = x := by
  by_cases h : x = .ok false
  · rw [h, firstDecided_cons_false, firstDecided_nil]
  · exact firstDecided_cons h []

/-- A search may be split anywhere. -/
theorem firstDecided_append (xs ys : List (Except Fault Bool)) :
    firstDecided (xs ++ ys) = firstDecided (firstDecided xs :: ys) := by
  induction xs with
  | nil => simp
  | cons x xs ih =>
    by_cases h : x = .ok false
    · subst h
      simpa using ih
    · rw [List.cons_append, firstDecided_cons h, firstDecided_cons h, firstDecided_cons h]

/-- A search through lists of lists goes through their elements. -/
theorem firstDecided_flatMap {α : Type} (f : α → List (Except Fault Bool)) (xs : List α) :
    firstDecided (xs.map fun x => firstDecided (f x)) = firstDecided (xs.flatMap f) := by
  induction xs with
  | nil => rfl
  | cons x xs ih =>
    rw [List.map_cons, List.flatMap_cons, firstDecided_append]
    by_cases h : firstDecided (f x) = .ok false
    · simp only [h, firstDecided_cons_false, ih]
    · rw [firstDecided_cons h, firstDecided_cons h]

theorem firstDecided_of_forall {xs : List (Except Fault Bool)} (h : ∀ x ∈ xs, x = .ok false) :
    firstDecided xs = .ok false := by
  induction xs with
  | nil => rfl
  | cons x xs ih =>
    obtain rfl := h x (by simp)
    exact ih fun y hy => h y (by simp [hy])

/-- A search without failures finds something if it is there. -/
theorem firstDecided_ok {α : Type} (p : α → Bool) (xs : List α) :
    firstDecided (xs.map fun x => .ok (p x)) = .ok (xs.any p) := by
  induction xs with
  | nil => rfl
  | cons x xs ih =>
    rw [List.map_cons, List.any_cons]
    cases p x with
    | false => simpa using ih
    | true => exact firstDecided_cons (by simp) _

/-! ## Looking for the first candidate -/

/-- Goes through candidates, taking each, until one passes the test. -/
def firstTrue (take : Reading Unit) (test : α → Judging Bool) : List α → Judging Bool
  | [] => return false
  | candidate :: rest => do
    take
    if ← test candidate then return true else firstTrue take test rest

theorem ensures_firstTrue {take : Reading Unit} {test : α → Judging Bool}
    {outcome : α → Except Fault Bool} {candidates : List α}
    (htest : ∀ c ∈ candidates, Ensures (· = outcome c) (test c).run) :
    Ensures (· = firstDecided (candidates.map outcome)) (firstTrue take test candidates).run := by
  induction candidates with
  | nil => exact ensures_pure rfl
  | cons c cs ih =>
    refine ensures_lift (ensures_true take) fun _ _ => ?_
    rw [ExceptT.run_bind, List.map_cons]
    refine (htest c (by simp)).bind ?_
    rintro _ rfl
    have hcs := ih fun d hd => htest d (by simp [hd])
    cases hx : outcome c with
    | error e => exact ensures_pure (firstDecided_cons (by simp) _).symm
    | ok found =>
      cases found with
      | true => exact ensures_pure (firstDecided_cons (by simp) _).symm
      | false => exact hcs

theorem concur_firstTrue {take take' : Reading Unit} {test test' : α → Judging Bool}
    {candidates : List α} (htest : ∀ c ∈ candidates, Concur Eq (test c) (test' c)) :
    Concur Eq (firstTrue take test candidates) (firstTrue take' test' candidates) := by
  induction candidates with
  | nil => exact concur_pure rfl
  | cons c cs ih =>
    refine concur_lift (agree_true take take') fun _ _ _ => ?_
    refine (htest c (by simp)).bind ?_
    rintro found _ rfl
    cases found with
    | true => exact concur_pure rfl
    | false => exact ih fun d hd => htest d (by simp [hd])

theorem firstTrue_congr {take : Reading Unit} {test test' : α → Judging Bool}
    {candidates : List α} (h : ∀ c ∈ candidates, test c = test' c) :
    firstTrue take test candidates = firstTrue take test' candidates := by
  induction candidates with
  | nil => rfl
  | cons c cs ih => rw [firstTrue, firstTrue, h c (by simp), ih fun d hd => h d (by simp [hd])]

end Judging

end FieldQuery
