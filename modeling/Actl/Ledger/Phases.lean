import Actl.Ledger.Book

/-!
# The phase of a reservation

The part of the ledger that does not look at amounts: the reference types posted
for a reference determine the phase of its reservation, and each operation moves
one reference from one phase to the next or does nothing. What is posted for a
reference is always orderly (`Orderly`): a reversal follows a capture, and what
was captured is neither released nor expired.
-/

set_option autoImplicit false

namespace Actl.Ledger

/-- The reference types posted for a reference. -/
def refTypes (db : Database) (refId : String) : List RefType :=
  (db.listForRefId refId).map LedgerEntryRecord.refType

/-- The phase that goes with a list of types: the state the code derives from
them, with captured and reversed reservations told apart. -/
def phaseOfTypes (types : List RefType) : Option Phase :=
  if .expire ∈ types then some .expired
  else if .release ∈ types then some .released
  else if .capture ∈ types then if .reverse ∈ types then some .reversed else some .captured
  else if .reservation ∈ types then some .held
  else none

/-- The phase of a reservation, nothing when it was never made. -/
def phaseOf (db : Database) (refId : String) : Option Phase := phaseOfTypes (refTypes db refId)

theorem stateOfRef_eq_map_phaseOf (db : Database) (refId : String) :
    stateOfRef db refId = (phaseOf db refId).map Phase.state := by
  unfold stateOfRef stateOf phaseOf phaseOfTypes refTypes
  dsimp only
  repeat' split
  all_goals rfl

theorem stateOfRef_eq_held {db : Database} {refId : String} :
    stateOfRef db refId = some .held ↔ phaseOf db refId = some .held := by
  rw [stateOfRef_eq_map_phaseOf]
  rcases phaseOf db refId with _ | phase
  · simp
  · cases phase <;> simp [Phase.state]

theorem refTypes_congr {db db' : Database} (same : db'.ledgerEntries = db.ledgerEntries)
    (refId : String) : refTypes db' refId = refTypes db refId := by
  simp only [refTypes, Database.listForRefId, same]

theorem phaseOf_congr {db db' : Database} (same : db'.ledgerEntries = db.ledgerEntries)
    (refId : String) : phaseOf db' refId = phaseOf db refId :=
  congrArg phaseOfTypes (refTypes_congr same refId)

theorem stateOfRef_congr {db db' : Database} (same : db'.ledgerEntries = db.ledgerEntries)
    (refId : String) : stateOfRef db' refId = stateOfRef db refId := by
  rw [stateOfRef_eq_map_phaseOf, stateOfRef_eq_map_phaseOf, phaseOf_congr same]

/-- A reversal follows a capture, and a captured reservation is neither released
nor expired. -/
def OrderlyTypes (types : List RefType) : Prop :=
  (.reverse ∈ types → .capture ∈ types) ∧
    (.capture ∈ types → .expire ∉ types ∧ .release ∉ types)

def Orderly (db : Database) : Prop := ∀ refId, OrderlyTypes (refTypes db refId)

theorem orderly_of_empty {db : Database} (empty : db.ledgerEntries = []) : Orderly db := by
  intro refId
  simp [OrderlyTypes, refTypes, Database.listForRefId, empty]

theorem Orderly.congr {db db' : Database} (orderly : Orderly db)
    (same : db'.ledgerEntries = db.ledgerEntries) : Orderly db' := by
  intro refId
  rw [refTypes_congr same]
  exact orderly refId

theorem OrderlyTypes.phaseOfTypes_eq_none {types : List RefType} (orderly : OrderlyTypes types) :
    phaseOfTypes types = none ↔ types = [] := by
  refine ⟨fun absent => ?_, fun empty => by simp [phaseOfTypes, empty]⟩
  unfold phaseOfTypes at absent
  obtain ⟨follows, -⟩ := orderly
  refine List.eq_nil_iff_forall_not_mem.mpr fun t member => ?_
  cases t <;> grind

theorem Orderly.phaseOf_eq_none {db : Database} (orderly : Orderly db) {refId : String} :
    phaseOf db refId = none ↔ db.listForRefId refId = [] :=
  (orderly refId).phaseOfTypes_eq_none.trans List.map_eq_nil_iff

/-! ## The operations -/

section Posting

variable (db : Database) (source target : Bucket) (mandateId : String) (amountMinor : Int)
variable (refType : RefType) (refId : String) (now : Nat → Time)

theorem refTypes_addMovements (ref : String) :
    refTypes (addMovements db (movements source target mandateId amountMinor) refType refId now) ref
      = refTypes db ref ++ if ref = refId then [refType, refType] else [] := by
  by_cases mine : ref = refId
  · simp [refTypes, Database.listForRefId, addMovements, movements, mine]
  · have other : ¬ refId = ref := fun same => mine same.symm
    simp [refTypes, Database.listForRefId, addMovements, movements, mine, other]

theorem phaseOf_addMovements_of_ne {ref : String} (other : ref ≠ refId) :
    phaseOf (addMovements db (movements source target mandateId amountMinor) refType refId now) ref
      = phaseOf db ref := by
  rw [phaseOf, refTypes_addMovements, if_neg other, List.append_nil]
  rfl

end Posting

/-! ### Types and phases -/

section Types

variable {types : List RefType}

/-- Opening a hold. -/
theorem OrderlyTypes.reserve (orderly : OrderlyTypes types) (fresh : phaseOfTypes types = none) :
    phaseOfTypes (types ++ [.reservation, .reservation]) = some .held ∧
      OrderlyTypes (types ++ [.reservation, .reservation]) := by
  rw [orderly.phaseOfTypes_eq_none.mp fresh]
  simp [phaseOfTypes, OrderlyTypes]

/-- Moving a hold on. -/
theorem OrderlyTypes.leave_held (orderly : OrderlyTypes types)
    (held : phaseOfTypes types = some .held) {next : RefType} {phase : Phase}
    (leads : next = .capture ∧ phase = .captured ∨ next = .release ∧ phase = .released ∨
      next = .expire ∧ phase = .expired) :
    phaseOfTypes (types ++ [next, next]) = some phase ∧ OrderlyTypes (types ++ [next, next]) := by
  obtain ⟨follows, excludes⟩ := orderly
  unfold phaseOfTypes at held ⊢
  unfold OrderlyTypes
  simp only [List.mem_append, List.mem_cons, List.not_mem_nil, or_false, or_self]
  rcases leads with ⟨rfl, rfl⟩ | ⟨rfl, rfl⟩ | ⟨rfl, rfl⟩ <;> grind

/-- Reversing what was captured. -/
theorem OrderlyTypes.reverse (orderly : OrderlyTypes types) (captured : .capture ∈ types)
    (unreversed : .reverse ∉ types) :
    phaseOfTypes types = some .captured ∧
      phaseOfTypes (types ++ [.reverse, .reverse]) = some .reversed ∧
      OrderlyTypes (types ++ [.reverse, .reverse]) := by
  obtain ⟨follows, excludes⟩ := orderly
  unfold phaseOfTypes OrderlyTypes
  simp only [List.mem_append, List.mem_cons, List.not_mem_nil, or_false, or_self]
  grind

end Types

/-! ### Moves -/

/-- One reference moves along one edge and the others stay where they are. -/
structure Moves (db db' : Database) (refId : String) (source target : Option Phase) : Prop where
  before : phaseOf db refId = source
  after : phaseOf db' refId = target
  others : ∀ ref, ref ≠ refId → phaseOf db' ref = phaseOf db ref
  orderly : Orderly db'

/-- A posting that takes the types of its reference along an edge is a move. -/
theorem moves_addMovements {db : Database} {source target : Bucket} {mandateId : String}
    {amountMinor : Int} {refType : RefType} {refId : String} {now : Nat → Time}
    {leaves reaches : Option Phase} (orderly : Orderly db)
    (before : phaseOfTypes (refTypes db refId) = leaves)
    (after : phaseOfTypes (refTypes db refId ++ [refType, refType]) = reaches ∧
      OrderlyTypes (refTypes db refId ++ [refType, refType])) :
    Moves db (addMovements db (movements source target mandateId amountMinor) refType refId now)
      refId leaves reaches := by
  have types := refTypes_addMovements db source target mandateId amountMinor refType refId now
  refine ⟨before, ?_, fun ref other => ?_, fun ref => ?_⟩
  · rw [phaseOf, types, if_pos rfl]
    exact after.1
  · rw [phaseOf, types, if_neg other, List.append_nil]
    rfl
  · rw [types]
    split
    · rename_i mine
      exact mine ▸ after.2
    · rw [List.append_nil]
      exact orderly ref

section Operations

variable {db : Database} (now : Nat → Time) (mandateId refId : String) (amountMinor : Int)

theorem reserve_moves (orderly : Orderly db) (maxTotalMinor : Int) :
    (reserve db now mandateId amountMinor maxTotalMinor refId).2 = db ∨
      Moves db (reserve db now mandateId amountMinor maxTotalMinor refId).2 refId none
        (some .held) := by
  unfold reserve
  split
  · exact .inl rfl
  · dsimp only
    split
    · exact .inl rfl
    · rename_i fresh
      split
      · exact .inl rfl
      · have absent := orderly.phaseOf_eq_none.mpr (not_not.mp fresh)
        exact .inr (moves_addMovements orderly absent ((orderly refId).reserve absent))

theorem capture_moves (orderly : Orderly db) :
    (capture db now mandateId amountMinor refId).2 = db ∨
      Moves db (capture db now mandateId amountMinor refId).2 refId (some .held)
        (some .captured) := by
  unfold capture
  split
  · exact .inl rfl
  · split
    · exact .inl rfl
    · rename_i state
      have held := stateOfRef_eq_held.mp state
      exact .inr (moves_addMovements orderly held ((orderly refId).leave_held held (by simp)))
    · exact .inl rfl

theorem release_moves (orderly : Orderly db) :
    (release db now mandateId amountMinor refId).2 = db ∨
      Moves db (release db now mandateId amountMinor refId).2 refId (some .held)
        (some .released) := by
  unfold release
  split
  · exact .inl rfl
  · split
    · exact .inl rfl
    · rename_i state
      have held := stateOfRef_eq_held.mp state
      exact .inr (moves_addMovements orderly held ((orderly refId).leave_held held (by simp)))
    · exact .inl rfl

theorem reverseSettlement_moves (orderly : Orderly db) :
    (reverseSettlement db now mandateId amountMinor refId).2 = db ∨
      Moves db (reverseSettlement db now mandateId amountMinor refId).2 refId (some .captured)
        (some .reversed) := by
  unfold reverseSettlement
  split
  · exact .inl rfl
  · dsimp only
    split
    · exact .inl rfl
    · rename_i unreversed
      split
      · rename_i captured
        have moved := (orderly refId).reverse captured unreversed
        exact .inr (moves_addMovements orderly moved.1 moved.2)
      · exact .inl rfl

theorem sweepReservation_moves (orderly : Orderly db) {P : Platform} {traceId : String}
    {expired : Bool} {db' : Database}
    (done : sweepReservation P db now traceId refId = .ok (expired, db')) :
    db' = db ∨ Moves db db' refId (some .held) (some .expired) := by
  unfold sweepReservation at done
  dsimp only at done
  split at done
  · cases done
    exact .inl rfl
  · rename_i state
    split at done
    · cases done
    · rename_i entry _
      split at done
      · cases done
        exact .inl rfl
      · cases done
        have held := stateOfRef_eq_held.mp (not_not.mp state)
        have moved : Moves db (addMovements db (releaseMovements
            (mandateIdFromAccount entry.account) entry.amountMinor) .expire refId now) refId
            (some .held) (some .expired) :=
          moves_addMovements orderly held ((orderly refId).leave_held held (by simp))
        exact .inr ⟨moved.before, moved.after, moved.others, moved.orderly⟩

/-- A release for a mandate that is there leaves no hold. -/
theorem stateOfRef_release_ne_held {row : MandateRow} (found : db.getMandate mandateId = some row) :
    stateOfRef (release db now mandateId amountMinor refId).2 refId ≠ some .held := by
  simp only [release, found]
  split
  · rename_i state
    simp [state]
  · rename_i state
    intro held
    have held' := stateOfRef_eq_held.mp held
    rw [phaseOf, releaseMovements, refTypes_addMovements, if_pos rfl] at held'
    simp only [phaseOfTypes, List.mem_append, List.mem_cons] at held'
    split at held' <;> simp at held'
  · rename_i elsewhere
    exact elsewhere

end Operations

end Actl.Ledger
