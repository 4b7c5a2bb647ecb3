import Actl.Store

/-!
# Ledger reservations

The operations of `application/ledger_service.py`. Each looks up the mandate row
first, as the code locks it, and derives the state of a reservation from the
entries posted against its reference. Nothing is ever deleted: a reservation
ends by a further pair of entries.
-/

set_option autoImplicit false

namespace Actl.Ledger

structure Reservation where
  refId : String
  mandateId : String
  amountMinor : Int
  deriving DecidableEq

def stateOf (entries : List LedgerEntryRecord) : Option ReservationState :=
  let refTypes := entries.map LedgerEntryRecord.refType
  if .expire ∈ refTypes then some .expired
  else if .release ∈ refTypes then some .released
  else if .capture ∈ refTypes then some .captured
  else if .reservation ∈ refTypes then some .held
  else none

/-- The state of a reservation in the store. -/
def stateOfRef (db : Database) (refId : String) : Option ReservationState :=
  stateOf (db.listForRefId refId)

/-- `_add_movements`: one entry for each movement, at successive clock
readings. -/
def addMovements (db : Database) (ms : List LedgerMovement) (refType : RefType) (refId : String)
    (now : Nat → Time) : Database :=
  { db with ledgerEntries := db.ledgerEntries ++ ms.mapIdx fun i m =>
      { account := m.account, direction := m.direction, amountMinor := m.amountMinor
        refType := refType, refId := refId, createdAt := now i } }

def balance (db : Database) (acct : String) : Int :=
  netBalance ((db.listForAccount acct).map fun e => (e.direction, e.amountMinor))

/-- Reserved plus settled, as the merchant's advisory pre-check reads it. -/
def committedTotal (db : Database) (mandateId : String) : Int :=
  balance db (account mandateId .reserved) + balance db (account mandateId .settled)

def reserve (db : Database) (now : Nat → Time) (mandateId : String)
    (amountMinor maxTotalMinor : Int) (refId : String) : Option Reservation × Database :=
  match db.getMandate mandateId with
  | none => (none, db)
  | some _ =>
      if db.listForRefId refId ≠ [] then (some ⟨refId, mandateId, amountMinor⟩, db)
      else
        let held := balance db (account mandateId .reserved)
        let spent := balance db (account mandateId .settled)
        if maxTotalMinor < held + spent + amountMinor then (none, db)
        else (some ⟨refId, mandateId, amountMinor⟩,
          addMovements db (reserveMovements mandateId amountMinor) .reservation refId now)

def capture (db : Database) (now : Nat → Time) (mandateId : String) (amountMinor : Int)
    (refId : String) : Bool × Database :=
  match db.getMandate mandateId with
  | none => (false, db)
  | some _ =>
      match stateOfRef db refId with
      | some .captured => (true, db)
      | some .held =>
          (true, addMovements db (captureMovements mandateId amountMinor) .capture refId now)
      | _ => (false, db)

def reverseSettlement (db : Database) (now : Nat → Time) (mandateId : String)
    (amountMinor : Int) (refId : String) : Bool × Database :=
  match db.getMandate mandateId with
  | none => (false, db)
  | some _ =>
      let refTypes := (db.listForRefId refId).map LedgerEntryRecord.refType
      if .reverse ∈ refTypes then (true, db)
      else if .capture ∈ refTypes then
        (true, addMovements db (reverseMovements mandateId amountMinor) .reverse refId now)
      else (false, db)

def release (db : Database) (now : Nat → Time) (mandateId : String) (amountMinor : Int)
    (refId : String) : Bool × Database :=
  match db.getMandate mandateId with
  | none => (false, db)
  | some _ =>
      match stateOfRef db refId with
      | some .released => (true, db)
      | some .held =>
          (true, addMovements db (releaseMovements mandateId amountMinor) .release refId now)
      | _ => (false, db)

/-! ## The sweeper -/

/-- One candidate of `sweep`. The reservation is looked at before and after the
mandate row is locked, which in one atomic step is the same look. -/
def sweepReservation (P : Platform) (db : Database) (now : Nat → Time) (traceId refId : String) :
    Except Failure (Bool × Database) :=
  let entries := db.listForRefId refId
  if stateOf entries ≠ some .held then .ok (false, db)
  else
    match entries.find? fun e => e.refType = .reservation ∧ e.direction = .debit with
    | none => .error .stopIteration
    | some entry =>
        let mandateId := mandateIdFromAccount entry.account
        match db.getMandate mandateId with
        | none => .ok (false, db)
        | some _ =>
            let db := addMovements db (releaseMovements mandateId entry.amountMinor) .expire refId
              now
            .ok (true, db.appendEntry P traceId "system" "sweeper" .reservationExpired
              (.ofStrings [("mandate_id", mandateId), ("ref_id", refId)])
              (.obj [("mandate_id", .str mandateId), ("ref_id", .str refId),
                ("amount_minor", .int entry.amountMinor)]))

/-- The loop of `sweep` over its candidates, each with its own clock readings
and trace id. -/
def sweepAll (P : Platform) (now : Nat → Nat → Time) (traceId : Nat → String) :
    Nat → List String → Database → Except Failure (List String × Database)
  | _, [], db => .ok ([], db)
  | i, refId :: refIds, db => do
      let (expired, db) ← sweepReservation P db (now i) (traceId i) refId
      let (swept, db) ← sweepAll P now traceId (i + 1) refIds db
      return (if expired then refId :: swept else swept, db)

/-- `sweep`. The readings `now 0` decide the cutoff; candidate `i` is posted at
the readings `now (i + 1)`. -/
def sweep (P : Platform) (now : Nat → Nat → Time) (traceId : Nat → String)
    (reservationTtlS : Int) (db : Database) : Except Failure (List String × Database) := do
  db.raiseIfHalted
  let cutoff := now 0 0 - seconds reservationTtlS
  sweepAll P (fun i => now (i + 1)) traceId 0 (db.listReservationsOlderThan cutoff) db

end Actl.Ledger
