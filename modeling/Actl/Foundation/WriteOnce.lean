import Mathlib.Data.List.Basic
import Mathlib.Logic.Function.Basic

/-!
# Write-once registers

A family of registers, each of which is written at most once, with the log of the
writes. Later states extend earlier ones (`Extends`): what somebody has once seen in a
register stays true. The log has one entry for each register that is set
(`Logged`).
-/

set_option autoImplicit false

namespace Actl.Foundation

/-- Registers and the log of the writes to them, in order. -/
structure WriteOnce (κ ν : Type) where
  value : κ → Option ν
  writes : List (κ × ν)

namespace WriteOnce

variable {κ ν : Type}

def empty : WriteOnce κ ν := ⟨fun _ => none, []⟩

/-- A write to a register that is not set yet; a register that is set keeps its
value. -/
def write [DecidableEq κ] (m : WriteOnce κ ν) (key : κ) (value : ν) : WriteOnce κ ν :=
  match m.value key with
  | some _ => m
  | none => ⟨Function.update m.value key (some value), m.writes ++ [(key, value)]⟩

/-- Registers that are set have kept their values. -/
def Extends (m m' : WriteOnce κ ν) : Prop :=
  ∀ key value, m.value key = some value → m'.value key = some value

theorem Extends.refl (m : WriteOnce κ ν) : m.Extends m := fun _ _ => id

theorem Extends.trans {m m' m'' : WriteOnce κ ν} (first : m.Extends m') (second : m'.Extends m'') :
    m.Extends m'' := fun key value set => second key value (first key value set)

/-- The log has every register that is set, once, with its value. -/
structure Logged (m : WriteOnce κ ν) : Prop where
  once : (m.writes.map Prod.fst).Nodup
  logged : ∀ key value, m.value key = some value ↔ (key, value) ∈ m.writes

theorem logged_empty : (empty : WriteOnce κ ν).Logged :=
  ⟨List.nodup_nil, fun key value => by simp [empty]⟩

section Write

variable [DecidableEq κ] {m : WriteOnce κ ν} {key : κ} {value : ν}

theorem write_of_set {old : ν} (set : m.value key = some old) : m.write key value = m := by
  rw [write, set]

theorem write_of_unset (unset : m.value key = none) :
    m.write key value = ⟨Function.update m.value key (some value), m.writes ++ [(key, value)]⟩ := by
  rw [write, unset]

theorem write_extends : m.Extends (m.write key value) := by
  cases old : m.value key with
  | some _ =>
      rw [write_of_set old]
      exact .refl m
  | none =>
      rw [write_of_unset old]
      intro key' value' set
      have other : key' ≠ key := by
        rintro rfl
        rw [old] at set
        cases set
      exact (Function.update_of_ne other _ _).trans set

/-- After a write the register has the new value or the one it had. -/
theorem write_value : (m.write key value).value key = some ((m.value key).getD value) := by
  cases old : m.value key with
  | some _ =>
      rw [write_of_set old]
      exact old
  | none =>
      rw [write_of_unset old]
      exact Function.update_self ..

theorem Logged.write (logged : m.Logged) : (m.write key value).Logged := by
  cases old : m.value key with
  | some _ =>
      rw [write_of_set old]
      exact logged
  | none =>
      rw [write_of_unset old]
      have new : key ∉ m.writes.map Prod.fst := by
        intro listed
        obtain ⟨⟨_, value'⟩, written, rfl⟩ := List.mem_map.mp listed
        rw [(logged.logged _ value').mpr written] at old
        cases old
      refine ⟨?_, fun key' value' => ?_⟩
      · rw [List.map_append, List.nodup_append]
        refine ⟨logged.once, by simp, fun written listed key' last same => new ?_⟩
        rw [same, List.mem_singleton.mp last] at listed
        exact listed
      · by_cases same : key' = key
        · subst same
          have absent : (key', value') ∉ m.writes := fun written =>
            new (List.mem_map_of_mem written)
          simp [absent, eq_comm]
        · simp [logged.logged, same]

end Write

end WriteOnce

end Actl.Foundation
