import FieldQuery.Proofs.Precedence

/-!
# What an expression begins with

An expression is read from its first operand on, and what is read behind an operand depends on
where the operand ends and not on what it is.  So a different operand that ends at the same token
can take its place.

* `Grammar.chained` — an operand in conjunctions with others, and these in disjunctions.
* `Grammar.Derives.operands` — an expression is its first operand chained with others.
* `Grammar.Derives.primary_of_negation` — the operand begins with something without operands, and
  is no more than that where no operator follows that binds tighter than `not`.
* `Grammar.Derives.ne_sign` — behind a sum there is no sign.
-/

namespace FieldQuery

namespace Grammar

variable {fault : Option LexError} {level : Chain} {ps mid rest : List Piece} {e left : Expr}

/-! ## Chains -/

/-- A chain goes on only with an operator that its operands withstand. -/
theorem Derives.loose_of_extend (d : Derives fault (.extend level left) ps e rest)
    (h : Loose (strength level) rest) : Loose (strength level + 1) ps := by
  cases d with
  | stop _ => exact h.mono (Nat.le_succ _)
  | more hj _ _ _ => exact loose_cons (Nat.le_of_eq (grip_of_join? hj))

/-- A chain is over where none of its operators follows. -/
theorem Derives.eq_of_headNot (d : Derives fault (.extend level left) ps e rest)
    (h : HeadNot (joins level) ps) : e = left ∧ rest = ps := by
  cases d with
  | stop _ => exact ⟨rfl, rfl⟩
  | more hj _ _ _ =>
    rw [headNot_cons, joins, hj] at h
    cases h

/-- Where all operators of a chain make the same node, what is read is folded with it, whatever
the chain begins with. -/
theorem Derives.foldl_of_extend {join : Expr → Expr → Expr}
    (hjoin : ∀ kind f, join? level kind = some f → f = join)
    (d : Derives fault (.extend level left) ps e rest) :
    ∃ more : List Expr, e = more.foldl join left ∧
      ∀ left', Derives fault (.extend level left') ps (more.foldl join left') rest := by
  generalize hphrase : Phrase.extend level left = phrase at d
  induction d generalizing left with
  | stop hn =>
    cases hphrase
    exact ⟨[], rfl, fun _ => .stop hn⟩
  | @more _ _ _ _ _ right _ _ _ hj hc hright _ _ ih =>
    cases hphrase
    obtain rfl := hjoin _ _ hj
    obtain ⟨more, rfl, hmore⟩ := ih rfl
    exact ⟨right :: more, rfl, fun left' => .more hj hc hright (hmore _)⟩
  | _ => cases hphrase

/-- An operand in a conjunction with others, and this in a disjunction with others. -/
def chained (operand : Expr) (ands ors : List Expr) : Expr :=
  ors.foldl .or (ands.foldl .and operand)

theorem Derives.foldl_of_or (d : Derives fault (.extend .or left) ps e rest) :
    ∃ more : List Expr, e = more.foldl .or left ∧
      ∀ left', Derives fault (.extend .or left') ps (more.foldl .or left') rest := by
  refine d.foldl_of_extend fun kind f h => ?_
  unfold join? at h
  split at h <;> simp_all

theorem Derives.foldl_of_and (d : Derives fault (.extend .and left) ps e rest) :
    ∃ more : List Expr, e = more.foldl .and left ∧
      ∀ left', Derives fault (.extend .and left') ps (more.foldl .and left') rest := by
  refine d.foldl_of_extend fun kind f h => ?_
  unfold join? at h
  split at h <;> simp_all

/-- **An expression is its first operand chained with others.**  What follows the operand binds no
tighter than `and`, and any other operand before it is chained with the same expressions. -/
theorem Derives.operands (d : Derives fault (.chain .or) ps e rest) (hl : Loose 0 rest) :
    ∃ n mid ands ors, Derives fault .negation ps n mid ∧ Loose 2 mid ∧ e = chained n ands ors ∧
      ∀ qs m, Derives fault .negation qs m mid →
        Derives fault (.chain .or) qs (chained m ands ors) rest := by
  cases d with
  | chain hconjunction hors =>
    cases hconjunction with
    | orOperand hconjunction =>
      cases hconjunction with
      | chain hnegation hands =>
        cases hnegation with
        | andOperand hnegation =>
          have hloose := hands.loose_of_extend (hors.loose_of_extend hl)
          obtain ⟨ands, rfl, hwithAnds⟩ := hands.foldl_of_and
          obtain ⟨ors, rfl, hwithOrs⟩ := hors.foldl_of_or
          exact ⟨_, _, ands, ors, hnegation, hloose, rfl, fun qs m hm =>
            .chain (.orOperand (.chain (.andOperand hm) (hwithAnds m))) (hwithOrs _)⟩

/-! ## Operands -/

/-- A sum begins with something without operands. -/
theorem Derives.primary_of_sum (d : Derives fault (.chain .sum) ps e rest)
    (hminus : HeadNot isMinus ps) :
    ∃ first mid, Derives fault .primary ps first mid ∧
      (HeadNot (joins .product) mid → HeadNot (joins .sum) mid → e = first ∧ rest = mid) := by
  cases d with
  | chain hsigned hsums =>
    cases hsigned with
    | sumOperand hsigned =>
      cases hsigned with
      | minus hk _ _ => simp [hk, isMinus] at hminus
      | unsigned _ hproduct =>
        cases hproduct with
        | chain hprimary hproducts =>
          cases hprimary with
          | productOperand hprimary =>
            refine ⟨_, _, hprimary, fun hproduct hsum => ?_⟩
            obtain ⟨rfl, rfl⟩ := hproducts.eq_of_headNot hproduct
            exact hsums.eq_of_headNot hsum

theorem continuesComparison_of_isNavigator {kind : TokenKind} (h : isNavigator kind = true) :
    continuesComparison kind = true := by
  unfold isNavigator at h
  split at h
  · rfl
  · cases h

/-- No chain goes on with navigation. -/
theorem joins_of_isNavigator {kind : TokenKind} (h : isNavigator kind = true) (level : Chain) :
    joins level kind = false := by
  unfold isNavigator at h
  split at h
  · cases level <;> rfl
  · cases h

/-- A comparison begins with a sum, behind which there is no navigation. -/
theorem Derives.sum_of_comparison (d : Derives fault .comparison ps e rest) :
    ∃ first mid, Derives fault (.chain .sum) ps first mid ∧ HeadNot isNavigator mid ∧
      (Loose 2 mid → e = first ∧ rest = mid) := by
  cases d with
  | sum hsum hmid =>
    refine ⟨_, _, hsum, fun p hp => ?_, fun _ => ⟨rfl, rfl⟩⟩
    exact Bool.eq_false_iff.2 fun hnavigator =>
      Bool.eq_false_iff.1 (hmid p hp) (continuesComparison_of_isNavigator hnavigator)
  | isa hsum hk _ _ =>
    refine ⟨_, _, hsum, by simp [hk, isNavigator], fun hl => ?_⟩
    have := hl _ rfl
    simp [hk, grip] at this
  | compare hsum hk _ _ _ =>
    refine ⟨_, _, hsum, by simp [hk, isNavigator], fun hl => ?_⟩
    have := hl _ rfl
    simp [hk, grip] at this

/-- **An operand begins with something without operands**, behind which there is no navigation,
and is no more than that where nothing follows that binds tighter than `and`. -/
theorem Derives.primary_of_negation (d : Derives fault .negation ps e rest)
    (hnot : HeadNot isNot ps) (hminus : HeadNot isMinus ps) :
    ∃ first mid, Derives fault .primary ps first mid ∧ HeadNot isNavigator mid ∧
      (Loose 2 mid → e = first ∧ rest = mid) := by
  cases d with
  | not hk _ _ => simp [hk, isNot] at hnot
  | unnegated _ hcomparison =>
    obtain ⟨l, after, hsum, hnavigator, hlone⟩ := hcomparison.sum_of_comparison
    obtain ⟨first, mid, hprimary, hends⟩ := hsum.primary_of_sum hminus
    refine ⟨first, mid, hprimary, fun p hp => ?_, fun hl => ?_⟩
    · refine Bool.eq_false_iff.2 fun hp' => ?_
      -- neither a product nor a sum goes on with navigation, so it would stand behind the sum
      have hjoins (level : Chain) : HeadNot (joins level) mid := by
        rintro q hq
        cases Option.mem_unique hp hq
        exact joins_of_isNavigator hp' level
      obtain ⟨-, rfl⟩ := hends (hjoins .product) (hjoins .sum)
      exact Bool.eq_false_iff.1 (hnavigator p hp) hp'
    · obtain ⟨rfl, rfl⟩ := hends ((hl.mono (by decide)).headNot fun _ => grip_of_joins)
        ((hl.mono (by decide)).headNot fun _ => grip_of_joins)
      exact hlone hl

/-! ## What is left behind a sum -/

/-- What the parts of a sum leave is no operator that they go on with. -/
def Phrase.Leaves : Phrase → List Piece → List Piece → Prop
  | .chain .sum, _, rest => HeadNot (joins .product) rest ∧ HeadNot (joins .sum) rest
  | .extend .sum _, ps, rest =>
    HeadNot (joins .product) ps → HeadNot (joins .product) rest ∧ HeadNot (joins .sum) rest
  | .operand .sum, _, rest | .signed, _, rest | .chain .product, _, rest
  | .extend .product _, _, rest => HeadNot (joins .product) rest
  | _, _, _ => True

theorem Derives.leaves {phrase : Phrase} (d : Derives fault phrase ps e rest) :
    phrase.Leaves ps rest := by
  induction d with
  | @chain level _ _ _ _ _ _ _ ihFirst ihRest =>
    cases level with
    | sum => exact ihRest ihFirst
    | product => exact ihRest
    | _ => trivial
  | @stop level _ _ hn =>
    cases level with
    | sum => exact fun hproduct => ⟨hproduct, hn⟩
    | product => exact hn
    | _ => trivial
  | @more level _ _ _ _ _ _ _ _ _ _ _ _ ihRight ihRest =>
    cases level with
    | sum => exact fun _ => ihRest ihRight
    | product => exact ihRest
    | _ => trivial
  | sumOperand _ ih | minus _ _ _ ih | unsigned _ _ ih => exact ih
  | _ => trivial

/-- Behind a sum there is no sign. -/
theorem Derives.ne_sign {p : Piece}
    (d : Derives fault (.chain .sum) ps e (p :: rest)) (sign : Sign) :
    p.token.kind ≠ .operator (.sign sign) := by
  intro hk
  obtain ⟨hproduct, hsum⟩ := d.leaves
  rw [headNot_cons, hk] at hproduct hsum
  cases sign <;> simp [joins, join?] at hproduct hsum

end Grammar

end FieldQuery
