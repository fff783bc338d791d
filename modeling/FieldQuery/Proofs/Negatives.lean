import FieldQuery.Proofs.NearDecimals
import FieldQuery.Proofs.Readings
import FieldQuery.Proofs.Spacing
import FieldQuery.Solve

/-!
# Three ways to write a negative number

In parentheses and in a list, a minus sign and a number behind it are one negative number.
Anywhere else they are a product with minus one, and a product of an integer and a float goes
through the decimal near the float.  So the three agree on integers, and on floats that are large
or whose decimal has places and is read as the float again.

* `Scans.number_append` — a number is read in the same way before what is no part of it.
* `Arithmetic.minusOne_integer`, `Arithmetic.minusOne_decimal` — minus one times a number.
* `Query.Evaluates` — the value of a text, whatever the data.
* `Query.evaluates_negatives` — what the three texts come to.
* `Query.negatives_differ` — for some floats they differ, in kind or in value.
-/

namespace FieldQuery

open Text Number Grammar Judging

/-! ## Numbers in a text -/

/-- A number begins with a digit. -/
theorem isDigit_of_scan {c : Char} {cs : List Char} {v : Value} {n : Nat}
    (h : scan c cs = .found (.literal v) n) (hv : negate? v ≠ none) : isDigit c = true := by
  unfold scan at h
  split at h
  case h_18 =>
    unfold scanPlaceholder at h
    dsimp only at h
    split at h <;> cases h
  case h_19 | h_20 =>
    unfold scanString at h
    dsimp only at h
    split at h
    · cases h
      exact absurd rfl hv
    · cases h
  case h_21 =>
    split at h
    · assumption
    · split at h
      · unfold scanWord at h
        dsimp only at h
        split at h <;> (try split at h) <;> cases h
      · cases h
  all_goals cases h

/-- **A number is read in the same way before what is no part of it**, with the white space
around it. -/
theorem Scans.number_append {text after : List Char} {v : Value} {ks : List TokenKind}
    (h : Scans text [.literal v]) (hv : negate? v ≠ none) (ha : Stops after)
    (hks : Scans after ks) : Scans (text ++ after) (.literal v :: ks) := by
  generalize hkinds : [TokenKind.literal v] = kinds at h
  induction h with
  | nil => cases hkinds
  | blank hb _ ih => exact .blank hb (ih hkinds)
  | @token c cs k n _ hb hscan hrest =>
    cases hkinds
    have hdigit := isDigit_of_scan hscan hv
    have hlength := scan_taken_le c cs
    rw [hscan] at hlength
    refine .token hb (hscan ▸ ha.scan_append hdigit cs) ?_
    show Scans ((c :: cs ++ after).drop n) ks
    rw [List.drop_append_of_le_length hlength]
    exact (scans_blanks_append hrest.isBlank_of_nil).2 hks

/-- A text that is one token. -/
theorem kinds?_of_single {s : String} {c : Char} {cs : List Char} {k : TokenKind}
    (hs : s.toList = c :: cs) (hb : isBlank c = false)
    (hscan : scan c cs = .found k (cs.length + 1)) : kinds? s = some [k] := by
  have hnil : (c :: cs).drop (cs.length + 1) = "".toList := List.drop_length
  rw [kinds?_of_scan hs hb hscan hnil, kinds?_of_blanks (by simp), Option.map_some]

/-- A minus sign before what does not make it an arrow. -/
theorem Scans.minus {cs : List Char} {ks : List TokenKind} (h : Scans cs ks)
    (hks : ∀ c tail, ks ≠ .operator (.comparison c) :: tail) :
    Scans ('-' :: cs) (.operator (.sign .minus) :: ks) := by
  refine .token (n := 1) (by decide) ?_ h
  rw [scan]
  · rfl
  · rintro rest rfl
    obtain ⟨c, tail, heq, -⟩ := h.head_of_greater
    exact hks c tail heq

/-! ## Kinds of floats -/

namespace Number

/-- What a whole float amounts to. -/
theorem eq_floor_of_isWhole {x : Float} (h : isWhole x = true) : x.isFinite = true ∧
    (Binary.ofFloat x).mantissa * 2 ^ (Binary.ofFloat x).exponent.toNat =
      (Binary.ofFloat x).floor * 2 ^ (-(Binary.ofFloat x).exponent).toNat := by
  rw [isWhole, Bool.and_eq_true, Binary.isWhole, decide_eq_true_eq, Binary.ratio_eq] at h
  refine ⟨h.1, ?_⟩
  rw [Binary.floor, Binary.ratio_eq, Nat.div_mul_cancel (Nat.dvd_of_mod_eq_zero h.2)]

/-- A finite float that is not whole has binary places. -/
theorem exponent_of_not_whole {x : Float} (hfinite : x.isFinite = true)
    (h : isWhole x = false) : (Binary.ofFloat x).exponent < 0 := by
  refine Int.not_le.1 fun he => Bool.eq_false_iff.1 h ?_
  have hone : (-(Binary.ofFloat x).exponent).toNat = 0 := by omega
  rw [isWhole, hfinite, Binary.isWhole, Binary.ratio_eq, hone, Nat.pow_zero, Nat.mod_one]
  rfl

/-- What is infinite is not finite. -/
theorem isFinite_of_isInf {x : Float} (h : x.isInf = true) : x.isFinite = false := by
  rw [isInf_eq] at h
  rw [isFinite_eq]
  cases hx : unpacked x <;> rw [hx] at h <;> first | rfl | cases h

end Number

/-! ## Minus one times a number -/

namespace Arithmetic

/-- No literal is too small for its product with minus one. -/
theorem minusOne_integer {i : Int64} (h : 0 ≤ i) :
    multiply.apply (.integer (-1)) (.integer i) = .ok (.integer (-i)) := by
  have hi : 0 ≤ i.toInt := Int64.le_iff_toInt_le.1 h
  have hlt := i.toInt_lt
  have hroom : Int64.minValue.toInt ≤ -i.toInt ∧ -i.toInt ≤ Int64.maxValue.toInt := by
    rw [Int64.toInt_minValue, Int64.toInt_maxValue]
    omega
  show integer (-1 * i.toInt) = _
  rw [Int.neg_mul, Int.one_mul, integer, Value.ofInt?, if_pos hroom, Int64.ofInt_neg,
    Int64.ofInt_toInt]

/-- **The product with a float is that with the decimal near it.** -/
theorem minusOne_decimal {x : Float} {d : Scaled} (h : Scaled.ofFloat? x = some d) :
    multiply.apply (.integer (-1)) (.float x) = .ok (ofResult d.neg) := by
  have hproduct : multiply.ofScaled? (Scaled.ofInt (-1)) d = some d.neg :=
    Scaled.mul?_minusOne (Scaled.ofFloat?_eq_some h).2
  have hexact : (do multiply.ofScaled? (← (mixedInteger (-1)).1) (← (mixedFloat x).1)) =
      some d.neg := by
    rw [mixedFloat, h]
    exact hproduct
  show Except.ok (ofMixed multiply (mixedInteger (-1)) (mixedFloat x)) = _
  rw [ofMixed, hexact]

/-- Where there is no decimal, it is a product of floats. -/
theorem minusOne_float {x : Float} (h : Scaled.ofFloat? x = none) :
    multiply.apply (.integer (-1)) (.float x) = .ok (.float (-x)) := by
  show Except.ok (ofMixed multiply (mixedInteger (-1)) (mixedFloat x)) = _
  rw [ofMixed, mixedFloat, h, ← minusOne_mul x]
  rfl

section

variable {d : Scaled} (hsign : d.negative = false)

include hsign

/-- A negated decimal that is not whole is a float. -/
theorem ofResult_neg_of_not_whole (h : d.isWhole = false) :
    ofResult d.neg = .float (-d.toFloat) := by
  rw [ofResult, Scaled.isWhole_neg, h, Scaled.toFloat_neg hsign]
  rfl

theorem ofInt?_neg_toInt : Value.ofInt? d.neg.toInt =
    if d.coefficient / 10 ^ d.scale ≤ 2 ^ 63 then some (.integer (Int64.ofInt (-d.toInt)))
    else none := by
  have hint : d.toInt = (d.coefficient / 10 ^ d.scale : Nat) := by simp [Scaled.toInt, hsign]
  rw [Scaled.toInt_neg hsign, hint, Value.ofInt?, Int64.toInt_minValue, Int64.toInt_maxValue]
  generalize d.coefficient / 10 ^ d.scale = k
  by_cases hk : k ≤ 2 ^ 63
  · rw [if_pos hk, if_pos (by omega)]
  · rw [if_neg hk, if_neg (by omega)]

/-- A negated decimal that is whole is an integer as long as there is room for it. -/
theorem ofResult_neg_of_room (hwhole : d.isWhole = true)
    (hroom : d.coefficient / 10 ^ d.scale ≤ 2 ^ 63) :
    ofResult d.neg = .integer (Int64.ofInt (-d.toInt)) := by
  rw [ofResult, Scaled.isWhole_neg, if_pos hwhole, ofInt?_neg_toInt hsign, if_pos hroom]

theorem ofResult_neg_of_large (hlarge : 2 ^ 63 < d.coefficient / 10 ^ d.scale) :
    ofResult d.neg = .float (-d.toFloat) := by
  have hnone : (if d.neg.isWhole = true then Value.ofInt? d.neg.toInt else none) = none := by
    rw [ofInt?_neg_toInt hsign, if_neg (Nat.not_le.2 hlarge), ite_self]
  rw [ofResult, hnone, Scaled.toFloat_neg hsign]

end

/-- **A whole float that there is room for** is negated as an integer. -/
theorem minusOne_whole {x : Float} (hsign : isNegative x = false) (hwhole : isWhole x = true)
    (hsmall : (Binary.ofFloat x).floor ≤ 2 ^ 63) : multiply.apply (.integer (-1)) (.float x) =
      .ok (.integer (Int64.ofInt (-(Binary.ofFloat x).floor))) := by
  obtain ⟨hfinite, hvalue⟩ := eq_floor_of_isWhole hwhole
  generalize (Binary.ofFloat x).floor = k at hvalue hsmall ⊢
  have hdecimal := Scaled.ofFloat?_whole hfinite hvalue (Nat.lt_of_le_of_lt hsmall (by decide))
  have hk : (⟨false, k, 0⟩ : Scaled).toInt = k := congrArg Nat.cast (Nat.div_one k)
  rw [hsign] at hdecimal
  rw [minusOne_decimal hdecimal, ofResult_neg_of_room rfl (Scaled.isWhole_ofNat k), hk]
  exact (Nat.div_one k).trans_le hsmall

/-- **A whole float that there is no room for** is negated as a float. -/
theorem minusOne_large {x : Float} (hsign : isNegative x = false) (hnan : x.isNaN = false)
    (hwhole : isWhole x = true) (hlarge : 2 ^ 63 < (Binary.ofFloat x).floor) :
    multiply.apply (.integer (-1)) (.float x) = .ok (.float (-x)) := by
  obtain ⟨hfinite, hvalue⟩ := eq_floor_of_isWhole hwhole
  have hinf : x.isInf = false := by
    refine Bool.eq_false_iff.2 fun hinf => ?_
    rw [isFinite_of_isInf hinf] at hfinite
    cases hfinite
  rcases zero_or_positive hsign hnan hinf with hzero | ⟨m, e, hm, hx⟩
  · rw [Binary.floor, Binary.ratio_eq, ofFloat_of_zero hzero, Nat.zero_mul, Nat.zero_div] at hlarge
    exact absurd hlarge (Nat.not_lt_zero _)
  · obtain ⟨hmantissa, hexponent⟩ := ofFloat_of_finite hx
    rw [hmantissa, hexponent] at hvalue
    rcases Scaled.ofFloat?_whole_large hx hvalue hlarge with hnone | ⟨c, hdecimal, hc, hread⟩
    · exact minusOne_float hnone
    · have hread' : (⟨false, c, 0⟩ : Scaled).toFloat = x := hread
      rw [hsign] at hdecimal
      rw [minusOne_decimal hdecimal, ofResult_neg_of_large rfl, hread']
      exact hc.trans_eq (Nat.div_one c).symm

theorem minusOne_infinite {x : Float} (h : x.isInf = true) :
    multiply.apply (.integer (-1)) (.float x) = .ok (.float (-x)) :=
  minusOne_float (Scaled.ofFloat?_of_not_finite (isFinite_of_isInf h))

end Arithmetic

/-! ## What a text comes to -/

namespace Query

/-- Is the text a query that has the value wherever it is solved? -/
def Evaluates (source : String) (value : Value) : Prop :=
  ∃ query, parse source none = .ok query ∧ ∀ app data ledger,
    ((query.solve app data).run ledger).1 = .ok (.plain value)

/-- A text has one value. -/
theorem Evaluates.unique {source : String} {v w : Value} (h : Evaluates source v)
    (h' : Evaluates source w) : v = w := by
  obtain ⟨query, hquery, hv⟩ := h
  obtain ⟨query', hquery', hw⟩ := h'
  obtain rfl : query = query' := Except.ok.inj (hquery.symm.trans hquery')
  have hsame := (hv .standard .null ⟨0, []⟩).symm.trans (hw .standard .null ⟨0, []⟩)
  exact congrArg Solution.value (Except.ok.inj hsame)

theorem evaluates_literal {source : String} {v : Value}
    (h : parse source none = .ok ⟨.literal v⟩) : Evaluates source v :=
  ⟨_, h, fun _ _ _ => rfl⟩

theorem evaluates_negation {source : String} {v w : Value}
    (h : parse source none = .ok ⟨.negation (.literal v)⟩)
    (hproduct : Arithmetic.multiply.apply (.integer (-1)) v = .ok w) : Evaluates source w := by
  refine ⟨_, h, fun app data ledger => ?_⟩
  have hvalues : Arithmetic.multiply.apply (Solution.plain (.integer (-1))).value
      (Solution.plain v).value = .ok w := hproduct
  have hsolve (start : Ledger) :
      (((Expr.negation (.literal v)).solve app data).run start).1 = .ok (.plain w) := by
    have hminusOne : ((Expr.literal (.integer (-1))).solve app data).run start =
        (.ok (.plain (.integer (-1))), start) := rfl
    have hnumber : ((Expr.literal v).solve app data).run start = (.ok (.plain v), start) := rfl
    rw [Expr.negation, Expr.solve, run_bind_of_ok hminusOne, run_bind_of_ok hnumber, hvalues]
    rfl
  exact hsolve _

section

variable {n : String} {v w : Value} (hn : kinds? n = some [.literal v])
  (hw : negate? v = some w)

include hn hw

/-- A sign and a number are two tokens. -/
theorem scans_negative {after : List Char} {ks : List TokenKind} (ha : Stops after)
    (hks : Scans after ks) :
    Scans ('-' :: (n.toList ++ after)) (.operator (.sign .minus) :: .literal v :: ks) := by
  have hnumber := kinds?_eq_some_iff.1 hn
  have hv : negate? v ≠ none := by simp [hw]
  exact (hnumber.number_append hv ha hks).minus (by simp)

/-- **In parentheses** a number with a sign is a negative number. -/
theorem evaluates_parenthesized : Evaluates ("(-" ++ n ++ ")") w := by
  have hclose : Scans [')'] [.closeParen] := .token (n := 1) (by decide) rfl .nil
  have hstops : Stops [')'] := by
    rintro c ⟨⟩
    decide
  have htext : ("(-" ++ n ++ ")").toList = '(' :: '-' :: (n.toList ++ [')']) := by simp
  refine evaluates_literal (parse_of_scans ?_ (isOperand_negative hw).whole)
  rw [htext]
  exact .token (n := 1) (by decide) rfl (scans_negative hn hw hstops hclose)

/-- **In a list** a number with a sign is a negative number. -/
theorem evaluates_listed : Evaluates ("(-" ++ n ++ ", 0)") (.array [w, .integer 0]) := by
  have hrest : Scans [',', ' ', '0', ')'] [.comma, .literal (.integer 0), .closeParen] := by
    refine .token (n := 1) (by decide) rfl (.blank (by decide) ?_)
    exact .token (n := 1) (by decide) rfl (.token (n := 1) (by decide) rfl .nil)
  have hstops : Stops [',', ' ', '0', ')'] := by
    rintro c ⟨⟩
    decide
  have htext : ("(-" ++ n ++ ", 0)").toList =
      '(' :: '-' :: (n.toList ++ [',', ' ', '0', ')']) := by simp
  have hzero : SpellsItem [.literal (.integer 0)] (.integer 0) :=
    Value.spellsItem_of_isOperand (isOperand_literal (.integer 0))
  refine evaluates_literal (parse_of_scans ?_
    (isOperand_list (Value.spellsItem_negated hw) (.item hzero .close) (by simp)).whole)
  rw [htext]
  exact .token (n := 1) (by decide) rfl (scans_negative hn hw hstops hrest)

/-- **On its own** a number with a sign is a product. -/
theorem evaluates_product {u : Value}
    (hproduct : Arithmetic.multiply.apply (.integer (-1)) v = .ok u) :
    Evaluates ("-" ++ n) u := by
  have hstops : Stops [] := by simp [Stops]
  have htext : ("-" ++ n).toList = '-' :: (n.toList ++ []) := by simp
  refine evaluates_negation (parse_of_scans ?_
    (spells_minus (isOperand_literal v).signed).sum.comparison.unnegated.conjunction.whole) hproduct
  rw [htext]
  exact scans_negative hn hw hstops .nil

end

/-- **A negative number, three times.**  With a sign, in parentheses or as the first element of a
list, a number is the number negated, of the same kind.  On its own, with a sign, it is the same
if it is an integer, in base ten or sixteen, or a float that is infinite or a whole number above
`2 ^ 63`.  A whole float up to there comes back as an integer.  Any other float comes back as the
decimal near it, negated: as an integer if the decimal is whole, and as a float otherwise. -/
theorem evaluates_negatives {n : String} {v w : Value} (hn : kinds? n = some [.literal v])
    (hw : negate? v = some w) :
    Evaluates ("(-" ++ n ++ ")") w ∧
    Evaluates ("(-" ++ n ++ ", 0)") (.array [w, .integer 0]) ∧
    (∀ i, v = .integer i → Evaluates ("-" ++ n) w) ∧
    ∀ x, v = .float x →
      (x.isInf = true → Evaluates ("-" ++ n) w) ∧
      (isWhole x = true → 2 ^ 63 < (Binary.ofFloat x).floor → Evaluates ("-" ++ n) w) ∧
      (isWhole x = true → (Binary.ofFloat x).floor ≤ 2 ^ 63 →
        Evaluates ("-" ++ n) (.integer (Int64.ofInt (-(Binary.ofFloat x).floor)))) ∧
      (x.isFinite = true → isWhole x = false → ∃ d, Scaled.ofFloat? x = some d ∧
        |d.size - size x| ≤ size x / 10 ^ 14 + 1 / 10 ^ 28 ∧
        (d.isWhole = true → Evaluates ("-" ++ n) (.integer (Int64.ofInt (-d.toInt)))) ∧
        (d.isWhole = false → Evaluates ("-" ++ n) (.float (-d.toFloat)))) := by
  have hlexical : v.IsLexical :=
    (kinds?_eq_some_iff.1 hn).isLexical (.literal v) (List.mem_singleton.2 rfl)
  refine ⟨evaluates_parenthesized hn hw, evaluates_listed hn hw, ?integer, ?float⟩
  case integer =>
    rintro i rfl
    cases hw
    exact evaluates_product hn rfl (Arithmetic.minusOne_integer hlexical)
  case float =>
    rintro x rfl
    cases hw
    obtain ⟨hsign, hnan⟩ : isNegative x = false ∧ x.isNaN = false := hlexical
    refine ⟨fun hinf => ?infinite, fun hwhole hlarge => ?large, fun hwhole hsmall => ?small,
      fun hfinite hwhole => ?places⟩
    case infinite => exact evaluates_product hn rfl (Arithmetic.minusOne_infinite hinf)
    case large =>
      exact evaluates_product hn rfl (Arithmetic.minusOne_large hsign hnan hwhole hlarge)
    case small => exact evaluates_product hn rfl (Arithmetic.minusOne_whole hsign hwhole hsmall)
    case places =>
      have he := exponent_of_not_whole hfinite hwhole
      obtain ⟨d, hd⟩ := Scaled.exists_ofFloat? hfinite he
      have hpositive : d.negative = false := (Scaled.ofFloat?_eq_some hd).1.trans hsign
      have hroom := Nat.le_of_lt (Scaled.ofFloat?_small he hd)
      have hproduct := evaluates_product hn rfl (Arithmetic.minusOne_decimal hd)
      refine ⟨d, hd, Scaled.ofFloat?_near he hd, fun hint => ?_, fun hplaces => ?_⟩
      · rwa [Arithmetic.ofResult_neg_of_room hpositive hint hroom] at hproduct
      · rwa [Arithmetic.ofResult_neg_of_not_whole hpositive hplaces] at hproduct

/-- Two and a half with a sign, which is negated without loss. -/
theorem evaluates_negatives_fraction : Evaluates "(-2.5)" (.float (-2.5)) ∧
    Evaluates "(-2.5, 0)" (.array [.float (-2.5), .integer 0]) ∧
    Evaluates "-2.5" (.float (-2.5)) := by
  have hn : kinds? "2.5" = some [.literal (.float 2.5)] :=
    kinds?_of_single (c := '2') (by rfl) (by decide) rfl
  obtain ⟨hgroup, hlist, -, hfloat⟩ := evaluates_negatives hn rfl
  obtain ⟨-, -, -, hplaces⟩ := hfloat 2.5 rfl
  have hdecimal : Scaled.ofFloat? 2.5 = some ⟨false, 25, 1⟩ := by decide +kernel
  have hread : (⟨false, 25, 1⟩ : Scaled).toFloat = 2.5 := Float.toBits_inj.1 (by decide +kernel)
  obtain ⟨d, hd, -, -, hproduct⟩ := hplaces (by decide +kernel) (by decide +kernel)
  obtain rfl : d = ⟨false, 25, 1⟩ := Option.some.inj (hd.symm.trans hdecimal)
  rw [hread] at hproduct
  exact ⟨hgroup, hlist, hproduct (by decide)⟩

/-- Without parentheses a whole float becomes an integer, and a float with more digits than its
decimal another float.  So the texts with a sign do not always agree. -/
theorem negatives_differ :
    (kinds? "5.0" = some [.literal (.float 5.0)] ∧ Evaluates "-5.0" (.integer (-5)) ∧
      Evaluates "(-5.0)" (.float (-5.0))) ∧
    (kinds? "0.30000000000000004" = some [.literal (.float 0.30000000000000004)] ∧
      Evaluates "-0.30000000000000004" (.float (-0.3)) ∧
      Evaluates "(-0.30000000000000004)" (.float (-0.30000000000000004))) ∧
    ¬ ∀ n v w, kinds? n = some [.literal v] → negate? v = some w →
      ∃ u, Evaluates ("-" ++ n) u ∧ Evaluates ("(-" ++ n ++ ")") u := by
  have hfive : kinds? "5.0" = some [.literal (.float 5.0)] :=
    kinds?_of_single (c := '5') (by rfl) (by decide) rfl
  have hlong : kinds? "0.30000000000000004" = some [.literal (.float 0.30000000000000004)] :=
    kinds?_of_single (c := '0') (by rfl) (by decide) rfl
  have hinteger : Evaluates "-5.0" (.integer (-5)) := by
    have hdecimal : Scaled.ofFloat? 5.0 = some ⟨false, 5, 0⟩ := by decide +kernel
    have hproduct := evaluates_product hfive rfl (Arithmetic.minusOne_decimal hdecimal)
    rwa [Arithmetic.ofResult_neg_of_room rfl (by decide) (by decide)] at hproduct
  have hfloat : Evaluates "(-5.0)" (.float (-5.0)) :=
    evaluates_parenthesized (n := "5.0") hfive rfl
  have hnear : Evaluates "-0.30000000000000004" (.float (-0.3)) := by
    have hdecimal : Scaled.ofFloat? 0.30000000000000004 = some ⟨false, 3, 1⟩ := by decide +kernel
    have hread : (⟨false, 3, 1⟩ : Scaled).toFloat = 0.3 := Float.toBits_inj.1 (by decide +kernel)
    have hproduct := evaluates_product hlong rfl (Arithmetic.minusOne_decimal hdecimal)
    rwa [Arithmetic.ofResult_neg_of_not_whole rfl (by decide), hread] at hproduct
  have hkept : Evaluates "(-0.30000000000000004)" (.float (-0.30000000000000004)) :=
    evaluates_parenthesized (n := "0.30000000000000004") hlong rfl
  refine ⟨⟨hfive, hinteger, hfloat⟩, ⟨hlong, hnear, hkept⟩, fun h => ?_⟩
  obtain ⟨u, hproduct, hgroup⟩ := h "5.0" _ _ hfive rfl
  cases (hinteger.unique hproduct).trans (hgroup.unique hfloat)

end Query

end FieldQuery
