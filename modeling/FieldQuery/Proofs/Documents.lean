import FieldQuery.Json.Reader
import FieldQuery.Proofs.Finite

/-!
# The numbers of documents

The integers of a document that is read are those of 64 bits, with or without a sign, and its floats
are finite: a number that is beyond the floats is not read at all.

* `Json.NumbersAre` — the integers and floats of a document are of given kinds.
* `Json.WithinRange` — the integers have 64 bits of room and the floats are finite.
* `scaleFloat_finite`, `makeFloat_finite` — a power of ten leaves a float finite or is refused.
* `withinRange_of_readNumber` — the numbers that are read.
* `withinRange_of_ofText?` — so the numbers of a document that is read are within range.
-/

namespace FieldQuery.Json

open Number

/-- Are all integers and floats of a document of the given kinds? -/
inductive NumbersAre (whole : Int → Prop) (real : Float → Prop) : Json → Prop where
  /-- No number. -/
  | null : NumbersAre whole real .null
  /-- A truth value is no number. -/
  | bool (b : Bool) : NumbersAre whole real (.bool b)
  /-- An integer of the kind. -/
  | integer {n : Int} (h : whole n) : NumbersAre whole real (.integer n)
  /-- A float of the kind. -/
  | float {x : Float} (h : real x) : NumbersAre whole real (.float x)
  /-- A string is no number. -/
  | string (s : String) : NumbersAre whole real (.string s)
  /-- An array of such documents. -/
  | array {items : List Json} (h : ∀ json ∈ items, NumbersAre whole real json) :
    NumbersAre whole real (.array items)
  /-- An object of such documents. -/
  | object {members : List (String × Json)} (h : ∀ member ∈ members, NumbersAre whole real member.2) :
    NumbersAre whole real (.object members)

/-! ## Floats -/

/-- The digits that are kept have 64 bits of room. -/
theorem keepDigits_lt {n : Nat} (hn : n < significandLimit) (cs : List Char) :
    (keepDigits n cs).1 < significandLimit := by
  induction cs generalizing n with
  | nil => exact hn
  | cons c cs ih =>
    rw [keepDigits]
    split
    · rename_i hmore
      exact ih hmore
    · exact hn

/-- **A power of ten leaves a float finite**, or is refused. -/
theorem scaleFloat_finite {fuel : Nat} {x y : Float} {power : Int} (hx : x.isFinite = true)
    (h : scaleFloat fuel x power = some y) : y.isFinite = true := by
  induction fuel generalizing x power with
  | zero => cases h
  | succ fuel ih =>
    unfold scaleFloat at h
    dsimp only at h
    split at h
    · rename_i hsmall
      split at h
      · split at h
        · cases h
        · rename_i hinf
          cases h
          exact isFinite_mul hx (isFinite_powerOfTen hsmall) (Bool.not_eq_true _ ▸ hinf)
      · cases h
        exact isFinite_div_powerOfTen hx (by omega) hsmall
    · split at h
      · cases h
        exact hx
      · split at h
        · cases h
        · exact ih (isFinite_div_powerOfTen hx (by decide) (Nat.le_refl _)) h

theorem makeFloat_finite {negative : Bool} {significand : Nat} {power : Int} {x : Float}
    (hlt : significand < significandLimit) (h : makeFloat negative significand power = some x) :
    x.isFinite = true := by
  obtain ⟨size, hsize, h⟩ := Option.bind_eq_some_iff.1 h
  have hfinite : size.isFinite = true := scaleFloat_finite (isFinite_ofNat hlt) hsize
  cases h
  split
  · exact isFinite_neg hfinite
  · exact hfinite

theorem readPower_finite {negative : Bool} {significand : Nat} {start : Int}
    {cs rest : List Char} {x : Float} (hlt : significand < significandLimit)
    (h : readPower negative significand start cs = some (x, rest)) : x.isFinite = true := by
  have hzero : (0.0 : Float).isFinite = true := by decide +kernel
  unfold readPower at h
  -- with either sign of the power, or none
  split at h
  all_goals
    dsimp only at h
    split at h
    · cases h
    split at h
    · obtain ⟨y, hy, h⟩ := Option.bind_eq_some_iff.1 h
      cases h
      exact makeFloat_finite hlt hy
    split at h
    · cases h
    · cases h
      split
      · exact isFinite_neg hzero
      · exact hzero

theorem readFloat_finite {negative : Bool} {significand dropped : Nat} {cs rest : List Char}
    {x : Float} (hlt : significand < significandLimit)
    (h : readFloat negative significand dropped cs = some (x, rest)) : x.isFinite = true := by
  unfold readFloat at h
  split at h
  · rename_i cs
    dsimp only at h
    split at h
    · cases h
    · have hmore := keepDigits_lt hlt (cs.takeWhile isDigit)
      split at h
      · exact readPower_finite hmore h
      · exact readPower_finite hmore h
      · obtain ⟨y, hy, h⟩ := Option.bind_eq_some_iff.1 h
        cases h
        exact makeFloat_finite hmore hy
  · exact readPower_finite hlt h
  · exact readPower_finite hlt h
  · obtain ⟨y, hy, h⟩ := Option.bind_eq_some_iff.1 h
    cases h
    exact makeFloat_finite hlt hy

/-! ## Documents -/

/-- Does an integer have 64 bits of room, with or without a sign? -/
def Fits (n : Int) : Prop :=
  -2 ^ 63 ≤ n ∧ n < 2 ^ 64

/-- Are the numbers of a document such as are read? -/
abbrev WithinRange : Json → Prop :=
  NumbersAre Fits fun x => x.isFinite = true

/-- **The numbers that are read** are integers of 64 bits and finite floats. -/
theorem withinRange_of_readNumber {negative : Bool} {cs rest : List Char} {json : Json}
    (h : readNumber negative cs = some (json, rest)) : json.WithinRange := by
  unfold readNumber at h
  dsimp only at h
  split at h
  · cases h
  · have hlt := keepDigits_lt (n := 0) (by decide) (cs.takeWhile isDigit)
    generalize keepDigits 0 (cs.takeWhile isDigit) = kept at h hlt
    obtain ⟨significand, dropped⟩ := kept
    have hbound : significand < 2 ^ 64 := hlt
    dsimp only at h
    split at h
    · split at h
      · cases h
        exact .integer ⟨by omega, by omega⟩
      · split at h
        · rename_i hsmall
          cases h
          simp only [Bool.and_eq_true, decide_eq_true_eq] at hsmall
          have hle : significand ≤ 2 ^ 63 := hsmall.2
          exact .integer ⟨by omega, by omega⟩
        · cases h
          exact .float (isFinite_neg (isFinite_ofNat hlt))
    · obtain ⟨⟨x, rest⟩, hread, h⟩ := Option.bind_eq_some_iff.1 h
      cases h
      exact .float (readFloat_finite hlt hread)

theorem withinRange_of_readWord {word : String} {json result : Json} {cs rest : List Char}
    (hjson : json.WithinRange) (h : readWord word json cs = some (result, rest)) : result.WithinRange := by
  unfold readWord at h
  split at h
  · cases h
    exact hjson
  · cases h

theorem mem_insertMember {name : String} {json : Json} {members : List (String × Json)}
    {member : String × Json} (h : member ∈ insertMember name json members) :
    member = (name, json) ∨ member ∈ members := by
  induction members with
  | nil => exact .inl (List.mem_singleton.1 h)
  | cons first rest ih =>
    obtain ⟨key, other⟩ := first
    rw [insertMember] at h
    split at h
    · exact List.mem_cons.1 h
    · split at h
      · exact (List.mem_cons.1 h).imp_right (List.mem_cons_of_mem _)
      · rcases List.mem_cons.1 h with h | h
        · exact .inr (List.mem_cons.2 (.inl h))
        · exact (ih h).imp_right (List.mem_cons_of_mem _)

/-- An object has the members that it is made of, as far as no later one replaces them. -/
theorem withinRange_ofMembers {members : List (String × Json)}
    (h : ∀ member ∈ members, member.2.WithinRange) : (ofMembers members).WithinRange := by
  let AllWithin (sorted : List (String × Json)) : Prop := ∀ member ∈ sorted, member.2.WithinRange
  have hnone : AllWithin [] := List.forall_mem_nil _
  refine .object (List.foldlRecOn (motive := AllWithin) members _ hnone ?_)
  intro sorted hsorted member hmember m hm
  rcases mem_insertMember hm with rfl | hm
  · exact h member hmember
  · exact hsorted m hm

/-- What is read of a text, whole documents and the elements and members of larger ones, has the
numbers of documents; the induction is on the fuel that the three readers share. -/
theorem withinRange_of_read (fuel : Nat) :
    (∀ {depth cs json rest}, readValue fuel depth cs = some (json, rest) → json.WithinRange) ∧
    (∀ {depth cs items rest}, readItems fuel depth cs = some (items, rest) →
      ∀ json ∈ items, json.WithinRange) ∧
    (∀ {depth cs members rest}, readMembers fuel depth cs = some (members, rest) →
      ∀ member ∈ members, member.2.WithinRange) := by
  induction fuel with
  | zero => exact ⟨nofun, nofun, nofun⟩
  | succ fuel ih =>
    obtain ⟨ihvalue, ihitems, ihmembers⟩ := ih
    refine ⟨fun {depth cs json rest} h => ?_, fun {depth cs items rest} h => ?_,
      fun {depth cs members rest} h => ?_⟩
    · rw [readValue] at h
      split at h
      · exact withinRange_of_readWord .null h
      · exact withinRange_of_readWord (.bool true) h
      · exact withinRange_of_readWord (.bool false) h
      · exact withinRange_of_readNumber h
      · obtain ⟨⟨s, rest⟩, -, h⟩ := Option.bind_eq_some_iff.1 h
        cases h
        exact .string s
      · split at h
        · cases h
        · split at h
          · cases h
            exact .array (List.forall_mem_nil _)
          · obtain ⟨⟨items, rest⟩, hitems, h⟩ := Option.bind_eq_some_iff.1 h
            cases h
            exact .array (ihitems hitems)
      · split at h
        · cases h
        · split at h
          · cases h
            exact .object (List.forall_mem_nil _)
          · obtain ⟨⟨members, rest⟩, hmembers, h⟩ := Option.bind_eq_some_iff.1 h
            cases h
            exact withinRange_ofMembers (ihmembers hmembers)
      · exact withinRange_of_readNumber h
    · rw [readItems] at h
      obtain ⟨⟨json, rest⟩, hjson, h⟩ := Option.bind_eq_some_iff.1 h
      have hfirst := ihvalue hjson
      dsimp only at h
      split at h
      · obtain ⟨⟨more, rest⟩, hmore, h⟩ := Option.bind_eq_some_iff.1 h
        cases h
        exact List.forall_mem_cons.2 ⟨hfirst, ihitems hmore⟩
      · cases h
        exact List.forall_mem_singleton.2 hfirst
      · cases h
    · rw [readMembers] at h
      split at h
      · obtain ⟨⟨name, rest⟩, -, h⟩ := Option.bind_eq_some_iff.1 h
        dsimp only at h
        split at h
        · obtain ⟨⟨json, rest⟩, hjson, h⟩ := Option.bind_eq_some_iff.1 h
          have hfirst := ihvalue hjson
          dsimp only at h
          split at h
          · obtain ⟨⟨more, rest⟩, hmore, h⟩ := Option.bind_eq_some_iff.1 h
            cases h
            exact List.forall_mem_cons.2 ⟨hfirst, ihmembers hmore⟩
          · cases h
            exact List.forall_mem_singleton.2 hfirst
          · cases h
        · cases h
      · cases h

/-- **The numbers of a document that is read** are integers of 64 bits and finite floats. -/
theorem withinRange_of_ofText? {source : String} {json : Json} (h : ofText? source = some json) :
    json.WithinRange := by
  obtain ⟨⟨json, rest⟩, hread, h⟩ := Option.bind_eq_some_iff.1 h
  dsimp only at h
  split at h
  · cases h
    exact (withinRange_of_read _).1 hread
  · cases h

end FieldQuery.Json
