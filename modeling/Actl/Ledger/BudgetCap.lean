import Actl.Fixture
import Actl.Foundation.Program
import Actl.Ledger.Refinement

/-!
# The budget cap

A run of the ledger is any sequence of its operations, for any mandates and
references. The sweeper is there twice: as a whole, and as one candidate at a
time, since each candidate is expired under the lock of its own mandate and
other operations can come in between.

The invariant is that the entries keep a book within every cap. Every operation
carries it, since each is an operation of the book.
-/

set_option autoImplicit false

namespace Actl.Ledger

open Foundation (Table ok_bind bind_eq_ok)

inductive Operation where
  | reserve (mandateId : String) (amountMinor : Int) (refId : String) (now : Nat → Time)
  | capture (mandateId : String) (amountMinor : Int) (refId : String) (now : Nat → Time)
  | release (mandateId : String) (amountMinor : Int) (refId : String) (now : Nat → Time)
  | reverseSettlement (mandateId : String) (amountMinor : Int) (refId : String) (now : Nat → Time)
  | sweepReservation (refId traceId : String) (now : Nat → Time)
  | sweep (now : Nat → Nat → Time) (traceId : Nat → String) (reservationTtlS : Int)

namespace Operation

variable (P : Platform)

/-- The store after an operation. `reserve` is called with the cap of the
mandate row, and an operation that raises is rolled back. -/
def apply (db : Database) : Operation → Database
  | .reserve mandateId amountMinor refId now =>
      match db.getMandate mandateId with
      | none => db
      | some row =>
          (Ledger.reserve db now mandateId amountMinor row.mandate.bounds.maxTotalMinor refId).2
  | .capture mandateId amountMinor refId now =>
      (Ledger.capture db now mandateId amountMinor refId).2
  | .release mandateId amountMinor refId now =>
      (Ledger.release db now mandateId amountMinor refId).2
  | .reverseSettlement mandateId amountMinor refId now =>
      (Ledger.reverseSettlement db now mandateId amountMinor refId).2
  | .sweepReservation refId traceId now =>
      match Ledger.sweepReservation P db now traceId refId with
      | .ok (_, db') => db'
      | .error _ => db
  | .sweep now traceId reservationTtlS =>
      match Ledger.sweep P now traceId reservationTtlS db with
      | .ok (_, db') => db'
      | .error _ => db

/-- Amounts are positive and a call for a reference carries the mandate and the
amount its reservation was made with. -/
def Proper (db : Database) : Operation → Prop
  | .reserve mandateId amountMinor refId _ | .capture mandateId amountMinor refId _
  | .release mandateId amountMinor refId _ | .reverseSettlement mandateId amountMinor refId _ =>
      0 < amountMinor ∧ Carries db refId mandateId amountMinor
  | .sweepReservation .. | .sweep .. => True

instance (db : Database) : (op : Operation) → Decidable (op.Proper db)
  | .reserve .. | .capture .. | .release .. | .reverseSettlement .. =>
      inferInstanceAs (Decidable (_ ∧ _))
  | .sweepReservation .. | .sweep .. => inferInstanceAs (Decidable True)

/-- The store after a run. -/
def run (db : Database) (ops : List Operation) : Database := ops.foldl (apply P) db

/-- Every operation of the run is proper when its turn comes. -/
def ProperRun : Database → List Operation → Prop
  | _, [] => True
  | db, op :: ops => op.Proper db ∧ ProperRun (op.apply P db) ops

instance decidableProperRun :
    (db : Database) → (ops : List Operation) → Decidable (ProperRun P db ops)
  | _, [] => .isTrue trivial
  | db, op :: ops =>
      haveI := decidableProperRun (op.apply P db) ops
      inferInstanceAs (Decidable (op.Proper db ∧ ProperRun P (op.apply P db) ops))

end Operation

/-! ## The invariant -/

/-- The entries keep a book that is within the cap of every mandate. -/
def Budgeted (db : Database) : Prop :=
  ∃ book, Keeps db book ∧
    ∀ row ∈ db.mandates, book.committed row.id ≤ row.mandate.bounds.maxTotalMinor

theorem budgeted_of_empty {db : Database} (empty : db.ledgerEntries = []) : Budgeted db := by
  refine ⟨.empty, ⟨by simp [empty, Table.empty], fun h member => ?_, fun h member => ?_⟩, ?_⟩
  · exact absurd member (Table.not_mem_empty h)
  · exact absurd member (Table.not_mem_empty h)
  · intro row _
    simpa [Book.committed, Table.empty] using row.capPositive.le

/-- A hold that is moved on without coming back to life stays within the cap. -/
theorem budgeted_of_advance {db db' : Database} {book : Book} {refId : String}
    {source target : Phase} (kept : Keeps db book)
    (within : ∀ row ∈ db.mandates, book.committed row.id ≤ row.mandate.bounds.maxTotalMinor)
    (kept' : Keeps db' (book.advance refId source target)) (mandates : db'.mandates = db.mandates)
    (lively : target.isLive → source.isLive) : Budgeted db' := by
  refine ⟨_, kept', fun row member => ?_⟩
  exact (Book.committed_advance_le kept.positive lively row.id).trans
    (within row (mandates ▸ member))

section Mandates

variable (db : Database) (now : Nat → Time) (mandateId refId : String) (amountMinor : Int)

@[simp] theorem mandates_addMovements (ms : List LedgerMovement) (refType : RefType) :
    (addMovements db ms refType refId now).mandates = db.mandates := rfl

@[simp] theorem mandates_reserve (maxTotalMinor : Int) :
    (reserve db now mandateId amountMinor maxTotalMinor refId).2.mandates = db.mandates := by
  unfold reserve
  dsimp only
  repeat' split
  all_goals rfl

@[simp] theorem mandates_capture :
    (capture db now mandateId amountMinor refId).2.mandates = db.mandates := by
  unfold capture
  repeat' split
  all_goals rfl

@[simp] theorem mandates_release :
    (release db now mandateId amountMinor refId).2.mandates = db.mandates := by
  unfold release
  repeat' split
  all_goals rfl

@[simp] theorem mandates_reverseSettlement :
    (reverseSettlement db now mandateId amountMinor refId).2.mandates = db.mandates := by
  unfold reverseSettlement
  dsimp only
  repeat' split
  all_goals rfl

end Mandates

section Operations

variable {db : Database} {mandateId refId : String} {amountMinor : Int}

/-- A reservation against the mandate's own cap. -/
theorem Budgeted.reserve (budgeted : Budgeted db) {row : MandateRow}
    (found : db.getMandate mandateId = some row) (positive : 0 < amountMinor) (now : Nat → Time) :
    Budgeted
      (reserve db now mandateId amountMinor row.mandate.bounds.maxTotalMinor refId).2 := by
  obtain ⟨book, kept, within⟩ := budgeted
  refine ⟨_, kept.reserve found positive _ now, fun row' member => ?_⟩
  rw [mandates_reserve] at member
  refine Book.committed_reserve_le (within row' member) fun own => ?_
  have same : row = row' := by
    obtain ⟨present, id⟩ := Table.get?_mem found
    exact Table.eq_of_col_eq MandateRow.id (by simp) present member (id.trans own)
  rw [same]

theorem Budgeted.capture (budgeted : Budgeted db)
    (carries : Carries db refId mandateId amountMinor) (now : Nat → Time) :
    Budgeted (capture db now mandateId amountMinor refId).2 := by
  obtain ⟨book, kept, within⟩ := budgeted
  exact budgeted_of_advance kept within (kept.capture carries now) (mandates_capture ..)
    (by simp [Phase.isLive])

theorem Budgeted.release (budgeted : Budgeted db)
    (carries : Carries db refId mandateId amountMinor) (now : Nat → Time) :
    Budgeted (release db now mandateId amountMinor refId).2 := by
  obtain ⟨book, kept, within⟩ := budgeted
  exact budgeted_of_advance kept within (kept.release carries now) (mandates_release ..)
    (by simp [Phase.isLive])

theorem Budgeted.reverseSettlement (budgeted : Budgeted db)
    (carries : Carries db refId mandateId amountMinor) (now : Nat → Time) :
    Budgeted (reverseSettlement db now mandateId amountMinor refId).2 := by
  obtain ⟨book, kept, within⟩ := budgeted
  exact budgeted_of_advance kept within (kept.reverseSettlement carries now)
    (mandates_reverseSettlement ..) (by simp [Phase.isLive])

theorem Budgeted.sweepReservation (budgeted : Budgeted db) (P : Platform) (now : Nat → Time)
    (traceId refId : String) :
    ∃ expired db', sweepReservation P db now traceId refId = .ok (expired, db') ∧
      Budgeted db' ∧ db'.mandates = db.mandates := by
  obtain ⟨book, kept, within⟩ := budgeted
  obtain ⟨expired, db', done, kept', same⟩ := kept.sweepReservation P now traceId refId
  exact ⟨expired, db', done,
    budgeted_of_advance kept within kept' same (by simp [Phase.isLive]), same⟩

end Operations

/-- A sweep over any candidates keeps the book within the caps. -/
theorem Budgeted.sweepAll (P : Platform) (now : Nat → Nat → Time) (traceId : Nat → String)
    (refIds : List String) (i : Nat) {db : Database} (budgeted : Budgeted db) :
    ∃ swept db', sweepAll P now traceId i refIds db = .ok (swept, db') ∧ Budgeted db' ∧
      db'.mandates = db.mandates := by
  induction refIds generalizing i db with
  | nil => exact ⟨[], db, rfl, budgeted, rfl⟩
  | cons refId refIds ih =>
      obtain ⟨expired, db', done, budgeted', same⟩ :=
        budgeted.sweepReservation P (now i) (traceId i) refId
      obtain ⟨swept, db'', rest, budgeted'', same'⟩ := ih (i + 1) budgeted'
      refine ⟨if expired then refId :: swept else swept, db'', ?_, budgeted'', same'.trans same⟩
      simp only [Ledger.sweepAll, done, ok_bind, rest]
      rfl

/-- A sweep that commits keeps the book within the caps. -/
theorem Budgeted.sweep {P : Platform} {now : Nat → Nat → Time} {traceId : Nat → String}
    {reservationTtlS : Int} {db db' : Database} {swept : List String} (budgeted : Budgeted db)
    (done : sweep P now traceId reservationTtlS db = .ok (swept, db')) :
    Budgeted db' ∧ db'.mandates = db.mandates := by
  obtain ⟨_, -, rest⟩ := bind_eq_ok.mp done
  obtain ⟨swept', db'', all, budgeted', same⟩ := budgeted.sweepAll P (fun i => now (i + 1)) traceId
    (db.listReservationsOlderThan (now 0 0 - seconds reservationTtlS)) 0
  rw [all] at rest
  cases rest
  exact ⟨budgeted', same⟩

namespace Operation

variable (P : Platform)

theorem apply_mandates_and_budgeted {db : Database} {op : Operation} (budgeted : Budgeted db)
    (proper : op.Proper db) :
    Budgeted (op.apply P db) ∧ (op.apply P db).mandates = db.mandates := by
  cases op with
  | reserve mandateId amountMinor refId now =>
      simp only [apply]
      cases found : db.getMandate mandateId with
      | none => exact ⟨budgeted, rfl⟩
      | some row => exact ⟨budgeted.reserve found proper.1 now, mandates_reserve ..⟩
  | capture mandateId amountMinor refId now =>
      exact ⟨budgeted.capture proper.2 now, mandates_capture ..⟩
  | release mandateId amountMinor refId now =>
      exact ⟨budgeted.release proper.2 now, mandates_release ..⟩
  | reverseSettlement mandateId amountMinor refId now =>
      exact ⟨budgeted.reverseSettlement proper.2 now, mandates_reverseSettlement ..⟩
  | sweepReservation refId traceId now =>
      obtain ⟨expired, db', done, budgeted', same⟩ := budgeted.sweepReservation P now traceId refId
      simp only [apply, done]
      exact ⟨budgeted', same⟩
  | sweep now traceId reservationTtlS =>
      simp only [apply]
      split
      · rename_i done
        exact budgeted.sweep done
      · exact ⟨budgeted, rfl⟩

/-- The invariant holds after every proper run. -/
theorem run_budgeted {db : Database} (budgeted : Budgeted db) {ops : List Operation}
    (proper : ProperRun P db ops) :
    Budgeted (run P db ops) ∧ (run P db ops).mandates = db.mandates := by
  induction ops generalizing db with
  | nil => exact ⟨budgeted, rfl⟩
  | cons op ops ih =>
      obtain ⟨first, same⟩ := apply_mandates_and_budgeted P budgeted proper.1
      obtain ⟨rest, same'⟩ := ih first proper.2
      exact ⟨rest, same'.trans same⟩

end Operation

/-- The balances of a mandate in a store that keeps a book within the caps. -/
theorem Budgeted.balances {db : Database} (budgeted : Budgeted db) {row : MandateRow}
    (member : row ∈ db.mandates) :
    0 ≤ balance db (account row.id .reserved) ∧ 0 ≤ balance db (account row.id .settled) ∧
      balance db (account row.id .reserved) + balance db (account row.id .settled)
        ≤ row.mandate.bounds.maxTotalMinor ∧
      balance db (account row.id .available) + balance db (account row.id .reserved)
        + balance db (account row.id .settled) = 0 := by
  obtain ⟨book, kept, within⟩ := budgeted
  have balances : ∀ bucket, balance db (account row.id bucket) = book.balance row.id bucket :=
    fun bucket => kept.balance_eq row.plainId bucket
  simp only [balances]
  have nonneg := Book.balance_nonneg kept.positive row.id
  have cap := within row member
  rw [Book.committed_eq] at cap
  exact ⟨nonneg.1, nonneg.2, cap, book.balance_total row.id⟩

/-- In every state a proper run of the ledger reaches, no balance of a mandate
is negative, reserved and settled stay within its cap, and its three buckets
cancel. -/
theorem ledger_run_within_cap (P : Platform) (db : Database) (empty : db.ledgerEntries = [])
    (ops : List Operation) (proper : Operation.ProperRun P db ops) (row : MandateRow)
    (member : row ∈ db.mandates) :
    let reached := Operation.run P db ops
    0 ≤ balance reached (account row.id .reserved) ∧
      0 ≤ balance reached (account row.id .settled) ∧
      balance reached (account row.id .reserved) + balance reached (account row.id .settled)
        ≤ row.mandate.bounds.maxTotalMinor ∧
      balance reached (account row.id .available) + balance reached (account row.id .reserved)
        + balance reached (account row.id .settled) = 0 := by
  obtain ⟨budgeted, same⟩ := Operation.run_budgeted P (budgeted_of_empty empty) proper
  exact budgeted.balances (same ▸ member)

/-- Two purchases at once: the first is captured and then reversed, the second
expires, and a third one takes the whole cap. -/
def fixtureRun : List Operation :=
  [.reserve "mdt_1" 420000 "ik_1" fun _ => 0, .reserve "mdt_1" 285000 "ik_2" fun _ => 1000000,
    .capture "mdt_1" 420000 "ik_1" fun _ => 2000000, .sweep (fun _ _ => 301000000) (fun _ => "trc_1") 300,
    .reverseSettlement "mdt_1" 420000 "ik_1" fun _ => 3000000, .release "mdt_1" 285000 "ik_2" fun _ => 4000000,
    .sweepReservation "ik_2" "trc_2" fun _ => 5000000, .reserve "mdt_1" 900000 "ik_3" fun _ => 6000000]

theorem ledger_run_within_cap_fixture :
    Operation.ProperRun Fixture.platform Fixture.database fixtureRun ∧
      balance (Operation.run Fixture.platform Fixture.database fixtureRun)
        (account "mdt_1" .reserved) = 900000 ∧
      balance (Operation.run Fixture.platform Fixture.database fixtureRun)
          (account "mdt_1" .reserved)
        + balance (Operation.run Fixture.platform Fixture.database fixtureRun)
          (account "mdt_1" .settled) ≤ 900000 := by
  have proper : Operation.ProperRun Fixture.platform Fixture.database fixtureRun := by
    decide +kernel
  refine ⟨proper, by decide +kernel, ?_⟩
  exact (ledger_run_within_cap Fixture.platform Fixture.database rfl fixtureRun proper Fixture.row
    List.mem_cons_self).2.2.1

end Actl.Ledger
