import Mathlib.Data.List.Induction
import Mathlib.Data.List.Nodup

/-!
# Rows under a key

A table seen through one unique key: a list of rows no two of which have the same
key. A row is put in place of the row with its key, or added when there is none, and
rows are modified along a function that leaves the key alone.

Reasoning goes through the lookup. It tells what every operation does
(`get?_put`, `get?_modify`, `get?_putAll`), key by key. A dictionary that is made of pairs
is such a table (`dictOf`).
-/

set_option autoImplicit false

namespace Actl.Foundation

/-- Rows in insertion order, no two of which have the same key. -/
structure Keyed (ρ κ : Type) (key : ρ → κ) where
  rows : List ρ
  unique : (rows.map key).Nodup

namespace Keyed

variable {ρ κ : Type} {key : ρ → κ} [DecidableEq κ]

/-- The table without rows. -/
def empty : Keyed ρ κ key where
  rows := []
  unique := List.nodup_nil

/-- The row with the key. -/
def get? (t : Keyed ρ κ key) (k : κ) : Option ρ := t.rows.find? fun r => key r = k

theorem get?_eq_some_iff {t : Keyed ρ κ key} {k : κ} {r : ρ} :
    t.get? k = some r ↔ r ∈ t.rows ∧ key r = k := by
  constructor
  · intro found
    exact ⟨List.mem_of_find?_eq_some found, by simpa using List.find?_some found⟩
  · rintro ⟨member, rfl⟩
    cases found : t.get? (key r) with
    | none =>
        have absent := List.find?_eq_none.mp found r member
        exact absurd (decide_eq_true rfl) absent
    | some r' =>
        have member' := List.mem_of_find?_eq_some found
        have same : key r' = key r := by simpa using List.find?_some found
        exact congrArg some (List.inj_on_of_nodup_map t.unique member' member same)

theorem mem_rows_iff {t : Keyed ρ κ key} {r : ρ} : r ∈ t.rows ↔ t.get? (key r) = some r := by
  rw [get?_eq_some_iff]
  exact (and_iff_left rfl).symm

theorem get?_eq_none_iff {t : Keyed ρ κ key} {k : κ} :
    t.get? k = none ↔ ∀ r ∈ t.rows, key r ≠ k := by
  simp [get?, List.find?_eq_none]

/-! ## Modifying rows -/

/-- The selected rows, modified in place. -/
def modify (t : Keyed ρ κ key) (selected : ρ → Bool) (f : ρ → ρ) (keeps : ∀ r, key (f r) = key r) :
    Keyed ρ κ key where
  rows := t.rows.map fun r => if selected r then f r else r
  unique := by
    have same : (key ∘ fun r => if selected r = true then f r else r) = key := by
      funext r
      by_cases chosen : selected r = true
      · simp [chosen, keeps]
      · simp [chosen]
    rw [List.map_map, same]
    exact t.unique

theorem get?_modify {t : Keyed ρ κ key} {selected : ρ → Bool} {f : ρ → ρ}
    {keeps : ∀ r, key (f r) = key r} (k : κ) :
    (t.modify selected f keeps).get? k
      = (t.get? k).map fun r => if selected r then f r else r := by
  have named : ∀ r, key (if selected r = true then f r else r) = key r := by
    intro r
    split
    next => exact keeps r
    next => rfl
  rw [get?, modify, List.find?_map]
  refine congrArg (Option.map _) (congrArg (t.rows.find? ·) ?_)
  funext r
  exact decide_eq_decide.mpr (by rw [named])

/-! ## Putting rows -/

/-- The row in place of the one with its key, or at the end. -/
def put (t : Keyed ρ κ key) (row : ρ) : Keyed ρ κ key :=
  match found : t.get? (key row) with
  | some _ =>
      { rows := t.rows.map fun r => if key r = key row then row else r
        unique := by
          have same : (key ∘ fun r => if key r = key row then row else r) = key := by
            funext r
            by_cases mine : key r = key row
            · simp [mine]
            · simp [mine]
          rw [List.map_map, same]
          exact t.unique }
  | none =>
      { rows := t.rows ++ [row]
        unique := by
          rw [List.map_append, List.map_singleton, List.nodup_append]
          refine ⟨t.unique, List.nodup_singleton _, fun k listed k' here same => ?_⟩
          obtain ⟨r, member, rfl⟩ := List.mem_map.mp listed
          rw [List.mem_singleton.mp here] at same
          exact get?_eq_none_iff.mp found r member same }

theorem mem_put {t : Keyed ρ κ key} {row r : ρ} :
    r ∈ (t.put row).rows ↔ r = row ∨ (r ∈ t.rows ∧ key r ≠ key row) := by
  unfold put
  split
  next old found =>
    obtain ⟨present, named⟩ := get?_eq_some_iff.mp found
    simp only [List.mem_map]
    constructor
    · rintro ⟨r', member, rfl⟩
      by_cases mine : key r' = key row
      · exact .inl (if_pos mine)
      · rw [if_neg mine]
        exact .inr ⟨member, mine⟩
    · rintro (rfl | ⟨member, other⟩)
      · exact ⟨old, present, if_pos named⟩
      · exact ⟨r, member, if_neg other⟩
  next found =>
    simp only [List.mem_append, List.mem_singleton]
    constructor
    · rintro (member | rfl)
      · exact .inr ⟨member, get?_eq_none_iff.mp found r member⟩
      · exact .inl rfl
    · rintro (rfl | ⟨member, -⟩)
      · exact .inr rfl
      · exact .inl member

theorem get?_put {t : Keyed ρ κ key} (row : ρ) (k : κ) :
    (t.put row).get? k = if key row = k then some row else t.get? k := by
  by_cases mine : key row = k
  · rw [if_pos mine, get?_eq_some_iff]
    exact ⟨mem_put.mpr (.inl rfl), mine⟩
  · rw [if_neg mine]
    ext r
    rw [get?_eq_some_iff, get?_eq_some_iff, mem_put]
    constructor
    · rintro ⟨rfl | ⟨member, -⟩, named⟩
      · exact absurd named mine
      · exact ⟨member, named⟩
    · rintro ⟨member, named⟩
      exact ⟨.inr ⟨member, fun same => mine (same.symm.trans named)⟩, named⟩

/-- Several rows put one after the other, the first of the list last. -/
def putAll (t : Keyed ρ κ key) (writes : List ρ) : Keyed ρ κ key := writes.foldr (fun row t => t.put row) t

/-- Of the rows put under a key the first of the list stays. -/
theorem get?_putAll (t : Keyed ρ κ key) (writes : List ρ) (k : κ) :
    (t.putAll writes).get? k = (writes.find? fun r => key r = k).or (t.get? k) := by
  induction writes with
  | nil => rfl
  | cons row writes ih =>
      show ((t.putAll writes).put row).get? k = _
      rw [get?_put, ih, List.find?_cons]
      by_cases mine : key row = k
      · simp [mine]
      · simp [mine]

/-- A row with a new key goes to the end. -/
theorem rows_put_of_absent {t : Keyed ρ κ key} {row : ρ} (absent : ∀ r ∈ t.rows, key r ≠ key row) :
    (t.put row).rows = t.rows ++ [row] := by
  unfold put
  split
  next old found =>
    obtain ⟨present, named⟩ := get?_eq_some_iff.mp found
    exact absurd named (absent old present)
  next => rfl

end Keyed

/-! ## Dictionaries -/

section Dictionaries

variable {κ α β : Type} [DecidableEq κ]

/-- A dictionary made of pairs: a pair takes the place of an earlier one with its key. -/
def dictOf (pairs : List (κ × α)) : List (κ × α) :=
  ((Keyed.empty : Keyed (κ × α) κ Prod.fst).putAll pairs.reverse).rows

theorem nodup_dictOf (pairs : List (κ × α)) : ((dictOf pairs).map Prod.fst).Nodup :=
  Keyed.unique _

/-- What is under a key is the last that was put there. -/
theorem mem_dictOf {pairs : List (κ × α)} {pair : κ × α} :
    pair ∈ dictOf pairs ↔ pairs.reverse.find? (fun p => p.1 = pair.1) = some pair := by
  rw [dictOf, Keyed.mem_rows_iff, Keyed.get?_putAll]
  simp [Keyed.empty, Keyed.get?]

theorem mem_of_mem_dictOf {pairs : List (κ × α)} {pair : κ × α} (member : pair ∈ dictOf pairs) :
    pair ∈ pairs :=
  List.mem_reverse.mp (List.mem_of_find?_eq_some (mem_dictOf.mp member))

theorem dictOf_functional {pairs : List (κ × α)} {k : κ} {value value' : α}
    (member : (k, value) ∈ dictOf pairs) (member' : (k, value') ∈ dictOf pairs) : value = value' := by
  have here : pairs.reverse.find? (fun p => p.1 = k) = some (k, value) := mem_dictOf.mp member
  have here' : pairs.reverse.find? (fun p => p.1 = k) = some (k, value') := mem_dictOf.mp member'
  rw [here, Option.some.injEq, Prod.mk.injEq] at here'
  exact here'.2

/-- Something is under every key that was put. -/
theorem exists_mem_dictOf {pairs : List (κ × α)} {pair : κ × α} (member : pair ∈ pairs) :
    ∃ value, (pair.1, value) ∈ dictOf pairs := by
  cases found : pairs.reverse.find? fun p => p.1 = pair.1 with
  | none =>
      have absent := List.find?_eq_none.mp found pair (List.mem_reverse.mpr member)
      exact absurd (decide_eq_true rfl) absent
  | some final =>
      have named : final.1 = pair.1 := by simpa using List.find?_some found
      exact ⟨final.2, mem_dictOf.mpr (by simp only [← named] at found ⊢; exact found)⟩

/-- Values that are computed key by key may be computed before or after. -/
theorem mem_dictOf_map {f : κ → α → β} {pairs : List (κ × α)} {k : κ} {value : β} :
    (k, value) ∈ dictOf (pairs.map fun p => (p.1, f p.1 p.2)) ↔
      ∃ old, (k, old) ∈ dictOf pairs ∧ value = f k old := by
  have keyed : ((fun p : κ × β => decide (p.1 = k)) ∘ fun p : κ × α => (p.1, f p.1 p.2))
      = fun p => decide (p.1 = k) := rfl
  rw [mem_dictOf, ← List.map_reverse, List.find?_map, keyed]
  constructor
  · intro found
    obtain ⟨⟨k', old⟩, here, same⟩ := Option.map_eq_some_iff.mp found
    cases same
    exact ⟨old, mem_dictOf.mpr here, rfl⟩
  · rintro ⟨old, here, rfl⟩
    rw [mem_dictOf.mp here]
    rfl

/-- Pairs with different keys are a dictionary. -/
theorem dictOf_of_nodup {pairs : List (κ × α)} (distinct : (pairs.map Prod.fst).Nodup) :
    dictOf pairs = pairs := by
  induction pairs using List.reverseRecOn with
  | nil => rfl
  | append_singleton pairs pair ih =>
      rw [List.map_append, List.map_singleton, List.nodup_append] at distinct
      have before : dictOf pairs = pairs := ih distinct.1
      have put : dictOf (pairs ++ [pair])
          = (((Keyed.empty : Keyed (κ × α) κ Prod.fst).putAll pairs.reverse).put pair).rows := by
        rw [dictOf, List.reverse_append]
        rfl
      rw [put, Keyed.rows_put_of_absent, ← dictOf, before]
      intro p member
      rw [← dictOf, before] at member
      exact distinct.2.2 _ (List.mem_map_of_mem member) _ (List.mem_singleton.mpr rfl)

end Dictionaries

end Actl.Foundation
