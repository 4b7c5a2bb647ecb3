import Mathlib.Order.Lattice
import Mathlib.Data.List.Basic

/-!
# Claims that expire

A store of keys with the time each is kept until, under the one operation that
sets a key when it is not set and says whether it did. A key is forgotten once its
time has come.

What the store promises is `KeptUntil`: from a claim that won until the time it is
kept for, no claim of the key wins, whatever else is claimed meanwhile.
-/

set_option autoImplicit false

namespace Actl.Foundation

/-- The keys that were set, the last first, with the time each is kept until. -/
abbrev Expiring (κ τ : Type) : Type := List (κ × τ)

namespace Expiring

variable {κ τ : Type} [DecidableEq κ] [LinearOrder τ]

/-- The key is set at a time. -/
def held (store : Expiring κ τ) (key : κ) (now : τ) : Bool :=
  (store.lookup key).any fun expires => now < expires

/-- Set the key if it is not set, until a time. -/
def claim (store : Expiring κ τ) (key : κ) (now expires : τ) : Bool × Expiring κ τ :=
  if store.held key now then (false, store) else (true, (key, expires) :: store)

/-- The key is set until a time, if not longer. -/
def KeptUntil (store : Expiring κ τ) (key : κ) (time : τ) : Prop :=
  ∃ expires, store.lookup key = some expires ∧ time ≤ expires

variable {store : Expiring κ τ} {key other : κ} {now time expires : τ}

theorem KeptUntil.held (kept : store.KeptUntil key time) (early : now < time) :
    store.held key now = true := by
  obtain ⟨expires, found, later⟩ := kept
  have before : now < expires := lt_of_lt_of_le early later
  rw [Expiring.held, found]
  simpa using before

/-- A claim that wins keeps the key. -/
theorem keptUntil_claim (won : (store.claim key now expires).1 = true) :
    (store.claim key now expires).2.KeptUntil key expires := by
  rw [claim] at won ⊢
  split at won
  next => cases won
  next free =>
    rw [if_neg free]
    exact ⟨expires, List.lookup_cons_self, le_refl expires⟩

/-- While a key is kept no claim of it wins. -/
theorem KeptUntil.denies (kept : store.KeptUntil key time) (early : now < time) :
    (store.claim key now expires).1 = false := by
  rw [claim, if_pos (kept.held early)]

/-- A key stays kept, whatever is claimed. -/
theorem KeptUntil.claim (kept : store.KeptUntil key time) (early : now < time) :
    (store.claim other now expires).2.KeptUntil key time := by
  rw [Expiring.claim]
  split
  next => exact kept
  next free =>
    by_cases same : key = other
    · subst same
      exact absurd (kept.held early) free
    · obtain ⟨until_, found, later⟩ := kept
      have unequal : (key == other) = false := by simpa using same
      exact ⟨until_, by rw [List.lookup_cons, unequal]; exact found, later⟩

end Expiring

end Actl.Foundation
