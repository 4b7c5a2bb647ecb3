import Mathlib.Algebra.BigOperators.Group.List.Basic
import Mathlib.Algebra.Order.Field.Basic
import Mathlib.Tactic.Linarith
import Mathlib.Tactic.Ring

/-!
# Draws from what refills

Something of a bounded capacity refills at a rate, and is drawn from at readings of a
clock. A draw leaves at most what was left before and has refilled since, less what it
grants (`Drawn`). However the draws are spread, a window of the clock is never granted
more than the capacity and what refills in it, as long as the level stays above its floor
(`Drawn.granted_le`).
-/

set_option autoImplicit false

namespace Actl.Foundation

/-- What is granted at a reading of the clock. -/
structure Draw (K : Type) where
  reading : K
  amount : K

section Refill

variable {K : Type} [Field K] [LinearOrder K]

/-- What the draws of a window of the clock are granted together. -/
def granted (first final : K) (draws : List (Draw K)) : K :=
  ((draws.filter fun draw => first ≤ draw.reading ∧ draw.reading ≤ final).map Draw.amount).sum

@[simp] theorem granted_nil (first final : K) : granted first final [] = 0 := rfl

theorem granted_cons (first final : K) (draw : Draw K) (draws : List (Draw K)) :
    granted first final (draw :: draws)
      = (if first ≤ draw.reading ∧ draw.reading ≤ final then draw.amount else 0)
        + granted first final draws := by
  by_cases inside : first ≤ draw.reading ∧ draw.reading ≤ final
  · simp only [granted, List.filter_cons, decide_eq_true inside, if_true, if_pos inside,
      List.map_cons, List.sum_cons]
  · simp only [granted, List.filter_cons, decide_eq_false inside, if_neg inside, zero_add,
      Bool.false_eq_true, if_false]

theorem granted_append (first final : K) (draws draws' : List (Draw K)) :
    granted first final (draws ++ draws')
      = granted first final draws + granted first final draws' := by
  rw [granted, List.filter_append, List.map_append, List.sum_append]
  rfl

variable (capacity rate floor : K)

/-- Draws at readings that do not go back, from a level that was reached at a reading. -/
inductive Drawn : K → K → List (Draw K) → Prop where
  | nil (level reading : K) : Drawn level reading []
  | cons {level reading level' : K} {draw : Draw K} {draws : List (Draw K)}
      (later : reading ≤ draw.reading)
      (leaves : level' + draw.amount ≤ min capacity (level + rate * (draw.reading - reading)))
      (above : floor ≤ level') (rest : Drawn level' draw.reading draws) :
      Drawn level reading (draw :: draws)

variable {capacity rate floor}

/-- Draws are no part of a window that has ended. -/
theorem Drawn.granted_eq_zero {level reading : K} {draws : List (Draw K)}
    (drawn : Drawn capacity rate floor level reading draws) {first final : K}
    (past : final < reading) : granted first final draws = 0 := by
  induction drawn with
  | nil level reading => rfl
  | cons later leaves above rest ih =>
      have after := lt_of_lt_of_le past later
      rw [granted_cons, if_neg fun inside => absurd inside.2 (not_le.mpr after), ih after, add_zero]

variable [IsStrictOrderedRing K]

/-- From a level on, a window is granted at most what there is above the floor and what
refills until it ends. -/
theorem Drawn.granted_le_level (refills : 0 ≤ rate) {level reading : K} {draws : List (Draw K)}
    (drawn : Drawn capacity rate floor level reading draws) {first final : K}
    (begun : first ≤ reading) (open' : reading ≤ final) (above : floor ≤ level) :
    granted first final draws ≤ level + rate * (final - reading) - floor := by
  induction drawn with
  | nil level reading =>
      have refilled := mul_nonneg refills (sub_nonneg.mpr open')
      rw [granted_nil]
      linarith
  | @cons level reading level' draw draws later leaves kept rest ih =>
      by_cases ends : draw.reading ≤ final
      · have rest' := ih (begun.trans later) ends kept
        have left := leaves.trans (min_le_right _ _)
        have whole : rate * (draw.reading - reading) + rate * (final - draw.reading)
            = rate * (final - reading) := by ring
        rw [granted_cons, if_pos ⟨begun.trans later, ends⟩]
        linarith
      · have refilled := mul_nonneg refills (sub_nonneg.mpr open')
        rw [granted_cons, if_neg fun inside => ends inside.2,
          rest.granted_eq_zero (not_le.mp ends)]
        linarith

/-- A window is granted at most the capacity and what refills in it. -/
theorem Drawn.granted_le (refills : 0 ≤ rate) (room : floor ≤ capacity) {level reading : K}
    {draws : List (Draw K)} (drawn : Drawn capacity rate floor level reading draws)
    {first final : K} (window : first ≤ final) :
    granted first final draws ≤ capacity + rate * (final - first) - floor := by
  have empty : (0 : K) ≤ capacity + rate * (final - first) - floor := by
    have refilled := mul_nonneg refills (sub_nonneg.mpr window)
    linarith
  induction drawn with
  | nil level reading => exact empty
  | @cons level reading level' draw draws later leaves kept rest ih =>
      by_cases begun : first ≤ draw.reading
      · by_cases ends : draw.reading ≤ final
        · have rest' := rest.granted_le_level refills begun ends kept
          have left := leaves.trans (min_le_left _ _)
          have shorter : rate * (final - draw.reading) ≤ rate * (final - first) :=
            mul_le_mul_of_nonneg_left (sub_le_sub_left begun final) refills
          rw [granted_cons, if_pos ⟨begun, ends⟩]
          linarith
        · rw [granted_cons, if_neg fun inside => ends inside.2,
            rest.granted_eq_zero (not_le.mp ends), add_zero]
          exact empty
      · rw [granted_cons, if_neg fun inside => begun inside.1, zero_add]
        exact ih

end Refill

end Actl.Foundation
