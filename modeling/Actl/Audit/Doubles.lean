import Actl.Audit.Numbers

/-!
# Integers as doubles

RFC 8785 has one kind of number, the double, so an implementation of it writes an
integer as the double nearest to it. `jcs` writes all its digits. A value has one form
under both exactly when each integer in it is written with its own digits
(`canonical_doubles_iff`), as every one below 2⁵³ is (`exact_of_small`).
-/

set_option autoImplicit false

namespace Actl.Audit

open Foundation (Shortest Double Prints RoundsTo decimal decimalValue exists_double prints_whole
  roundsTo_value)

/-- The sign, the digits and the exponent a number is written with. -/
structure Written where
  negative : Bool
  digits : List Nat
  exponent : Int

/-- What is written for an integer is the shortest decimal of the double nearest to it. -/
structure WritesNearest (n : Int) (written : Written) : Prop where
  sign : written.negative = decide (n < 0)
  nearest : ∃ x : Double, RoundsTo n.natAbs x ∧ Prints x written.digits written.exponent

/-- An integer that is written with its own digits. -/
def Exact (write : Int → Written) (n : Int) : Prop :=
  n.natAbs < 10 ^ 21 ∧ decimalValue (write n).digits (write n).exponent = n.natAbs

mutual
/-- A value with its integers as doubles. -/
def doubles (write : Int → Written) : JSONValue → JSONValue
  | .int n => .float (write n).negative (write n).digits (write n).exponent
  | .arr items => .arr (doublesItems write items)
  | .obj members => .obj (doublesMembers write members)
  | value => value

def doublesItems (write : Int → Written) : List JSONValue → List JSONValue
  | [] => []
  | item :: items => doubles write item :: doublesItems write items

def doublesMembers (write : Int → Written) : List (String × JSONValue) → List (String × JSONValue)
  | [] => []
  | (key, value) :: members => (key, doubles write value) :: doublesMembers write members
end

/-- The canonical form of RFC 8785. -/
def rfc8785 (write : Int → Written) (value : JSONValue) : Bytes := jcs (doubles write value)

variable {write : Int → Written}

theorem doublesItems_eq_map (items : List JSONValue) :
    doublesItems write items = items.map (doubles write) := by
  induction items with
  | nil => rfl
  | cons item items ih => rw [doublesItems, ih, List.map_cons]

theorem doublesMembers_eq_map (members : List (String × JSONValue)) :
    doublesMembers write members = members.map fun m => (m.1, doubles write m.2) := by
  induction members with
  | nil => rfl
  | cons m members ih => rw [doublesMembers, ih, List.map_cons]

theorem WritesNearest.shortest {n : Int} (writes : WritesNearest n (write n)) :
    Shortest (write n).digits := by
  obtain ⟨x, -, prints⟩ := writes.nearest
  exact prints.shortest

/-- The sign of an integer. -/
theorem cast_eq_sign_mul (n : Int) : (n : ℚ) = signOf (decide (n < 0)) * (n.natAbs : ℚ) := by
  rcases Int.lt_or_le n 0 with below | above
  · rw [decide_eq_true below, signOf, if_pos rfl, Nat.cast_natAbs, abs_of_neg below]
    push_cast
    ring
  · rw [decide_eq_false (Int.not_lt.mpr above), signOf, if_neg Bool.false_ne_true,
      Nat.cast_natAbs, abs_of_nonneg above, one_mul]

theorem signOf_ne_zero (negative : Bool) : signOf negative ≠ 0 := by
  cases negative <;> norm_num [signOf]

/-- An integer keeps its canonical form as a double exactly when it is written with its
own digits. -/
theorem canonical_written_iff {n : Int} (writes : WritesNearest n (write n)) :
    canonical (doubles write (.int n)) = .int n ↔ Exact write n := by
  rw [doubles, canonical, readNumber_eq_int_iff writes.shortest, writes.sign]
  have same : (n : ℚ) = signOf (decide (n < 0)) *
      decimalValue (write n).digits (write n).exponent ↔
        decimalValue (write n).digits (write n).exponent = n.natAbs := by
    nth_rewrite 1 [cast_eq_sign_mul n]
    rw [mul_right_inj' (signOf_ne_zero _)]
    exact eq_comm
  rw [same, Exact]
  refine and_congr_left fun value => ?_
  rw [value]
  norm_cast

/-- An integer below 2⁵³ is written with its own digits. -/
theorem exact_of_small {n : Int} (writes : WritesNearest n (write n)) (small : n.natAbs < 2 ^ 53) :
    Exact write n := by
  obtain ⟨x, reads, prints⟩ := writes.nearest
  refine ⟨by omega, ?_⟩
  obtain ⟨y, whole⟩ := exists_double (le_of_lt small) 0 (by decide) (by decide)
  have value : x.value = n.natAbs := by
    have closest := reads.nearest y
    rw [whole, zpow_zero, mul_one, sub_self, abs_zero] at closest
    exact (sub_eq_zero.mp (abs_nonpos_iff.mp closest)).symm
  rcases Nat.eq_zero_or_pos n.natAbs with zero | positive
  · have none : x.mantissa = 0 := by
      rw [zero, Nat.cast_zero, Double.value, mul_eq_zero] at value
      rcases value with mantissa | power
      · exact_mod_cast mantissa
      · exact absurd power (ne_of_gt (zpow_pos (by norm_num) _))
    rw [zero, prints.zero.mpr none, decimalValue]
    norm_num [decimal]
  · exact prints_whole positive small value prints

/-- The integers of a value are written as the doubles nearest to them. -/
def WritesWithin (write : Int → Written) (value : JSONValue) : Prop :=
  ∀ n, Within (.int n) value → WritesNearest n (write n)

theorem serialisable_doubles {value : JSONValue} (formed : Serialisable value)
    (writes : WritesWithin write value) : Serialisable (doubles write value) := by
  induction value using JSONValue.induction with
  | int n => exact .float _ _ (writes n (.refl _)).shortest
  | arr items ih =>
      cases formed with
      | arr formed =>
        rw [doubles, doublesItems_eq_map]
        refine .arr fun item member => ?_
        obtain ⟨item, present, rfl⟩ := List.mem_map.mp member
        exact ih item present (formed item present) fun n inside => writes n (.item present inside)
  | obj members ih =>
      cases formed with
      | obj unique formed =>
        rw [doubles, doublesMembers_eq_map]
        refine .obj ?_ fun m member => ?_
        · rwa [List.map_map]
        · obtain ⟨m, present, rfl⟩ := List.mem_map.mp member
          exact ih m present (formed m present) fun n inside =>
            writes n (.member present inside)
  | _ => exact formed

/-- A value keeps its canonical form exactly when each integer in it is written with its
own digits. -/
theorem canonical_doubles_iff {value : JSONValue} (formed : Serialisable value)
    (writes : WritesWithin write value) : canonical (doubles write value) = canonical value ↔
      ∀ n, Within (.int n) value → Exact write n := by
  induction value using JSONValue.induction with
  | int n =>
      refine (canonical_written_iff (writes n (.refl _))).trans ⟨fun exact m inside => ?_,
        fun exact => exact n (.refl _)⟩
      cases inside
      exact exact
  | arr items ih =>
      cases formed with
      | arr formed =>
        rw [doubles, doublesItems_eq_map, canonical, canonical, canonicalItems_eq_map,
          canonicalItems_eq_map, JSONValue.arr.injEq, List.map_map, List.map_inj_left]
        constructor
        · intro each n inside
          cases inside with
          | item member inside =>
              exact (ih _ member (formed _ member) fun n inside =>
                writes n (.item member inside)).mp (each _ member) n inside
        · intro exact item member
          exact (ih item member (formed item member) fun n inside =>
            writes n (.item member inside)).mpr fun n inside => exact n (.item member inside)
  | obj members ih =>
      cases formed with
      | obj unique formed =>
        rw [doubles, doublesMembers_eq_map, canonical, canonical, canonicalMembers_eq_map,
          canonicalMembers_eq_map, sortKeys_map, sortKeys_map, sortKeys_map, JSONValue.obj.injEq,
          List.map_map, List.map_inj_left]
        simp only [Function.comp_apply, Prod.mk.injEq, true_and, mem_sortKeys]
        constructor
        · intro each n inside
          cases inside with
          | member member inside =>
              exact (ih _ member (formed _ member) fun n inside =>
                writes n (.member member inside)).mp (each _ member) n inside
        · intro exact m member
          exact (ih m member (formed m member) fun n inside =>
            writes n (.member member inside)).mpr fun n inside => exact n (.member member inside)
  | _ =>
      refine ⟨fun _ n inside => ?_, fun _ => rfl⟩
      cases inside

end Actl.Audit
