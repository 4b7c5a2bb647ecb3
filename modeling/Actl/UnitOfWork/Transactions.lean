import Actl.Gate.Service
import Actl.UnitOfWork.Statements

/-!
# Transactions, statement by statement

The ledger operations, gates G1 to G5, the compensations and the settlement as the
source sends them to the database. `Ledger.Service`, `Gate.Service` and
`Saga.Service` give what these come to when nobody else is about.
-/

set_option autoImplicit false

namespace Actl.UnitOfWork

open Foundation (Code Program)
open Audit (AppendRequest AuditAction)
open Gate (GateExit MoneyActionRequest MoneyActionResult Compensation)
open Ledger (LedgerMovement RefType Reservation account netBalance stateOf)
open Mandates (Mandate MandateStatus transition verifySpecHash verifySignature)

/-! ## The ledger -/

def addMovements (refType : RefType) (refId : String) : List LedgerMovement → Work Unit
  | [] => pure ()
  | movement :: movements => do
      let now ← send .now
      send (.addLedgerEntry
        { account := movement.account, direction := movement.direction
          amountMinor := movement.amountMinor, refType := refType, refId := refId
          createdAt := now })
      addMovements refType refId movements

/-- The balance of the entries of an account. -/
def balanceOf (entries : List LedgerEntryRecord) : Int :=
  netBalance (entries.map fun e => (e.direction, e.amountMinor))

def reserve (mandateId : String) (amountMinor maxTotalMinor : Int) (refId : String) :
    Work (Option Reservation) := do
  match ← send (.getMandateForUpdate mandateId) with
  | none => return none
  | some _ =>
      let existing ← send (.listForRefId refId)
      if existing ≠ [] then return some ⟨refId, mandateId, amountMinor⟩
      else
        let reserved ← send (.listForAccount (account mandateId .reserved))
        let settled ← send (.listForAccount (account mandateId .settled))
        if maxTotalMinor < balanceOf reserved + balanceOf settled + amountMinor then return none
        else
          addMovements .reservation refId (Ledger.reserveMovements mandateId amountMinor)
          return some ⟨refId, mandateId, amountMinor⟩

def capture (mandateId : String) (amountMinor : Int) (refId : String) : Work Bool := do
  match ← send (.getMandateForUpdate mandateId) with
  | none => return false
  | some _ =>
      let entries ← send (.listForRefId refId)
      match stateOf entries with
      | some .captured => return true
      | some .held =>
          addMovements .capture refId (Ledger.captureMovements mandateId amountMinor)
          return true
      | _ => return false

def reverseSettlement (mandateId : String) (amountMinor : Int) (refId : String) : Work Bool := do
  match ← send (.getMandateForUpdate mandateId) with
  | none => return false
  | some _ =>
      let entries ← send (.listForRefId refId)
      let refTypes := entries.map LedgerEntryRecord.refType
      if .reverse ∈ refTypes then return true
      else if .capture ∈ refTypes then
        addMovements .reverse refId (Ledger.reverseMovements mandateId amountMinor)
        return true
      else return false

def release (mandateId : String) (amountMinor : Int) (refId : String) : Work Bool := do
  match ← send (.getMandateForUpdate mandateId) with
  | none => return false
  | some _ =>
      let entries ← send (.listForRefId refId)
      match stateOf entries with
      | some .released => return true
      | some .held =>
          addMovements .release refId (Ledger.releaseMovements mandateId amountMinor)
          return true
      | _ => return false

/-! ## G1 to G5 -/

abbrev GateWork (α : Type) : Type := Code Statement Statement.Reply GateExit α

/-- Work inside the gates: an exception leaves them. -/
def inGate {α : Type} (body : Work α) : GateWork α :=
  Program.bind body fun outcome => .done (outcome.mapError .raise)

def check (ok : Bool) (code : Policy.ReasonCode) : GateWork Unit :=
  if ok then pure () else throw (.deny code)

def g1 (P : Platform) (req : MoneyActionRequest) : GateWork MandateRow := do
  match ← inGate (send (.getMandate req.mandateId)) with
  | none => throw (.deny .mandateInvalid)
  | some row =>
      let mandate := row.mandate
      check (row.status ≠ .revoked) .mandateRevoked
      check (row.status = .locked ∨ row.status = .executing) .mandateInvalid
      check (verifySpecHash P mandate) .mandateTampered
      match mandate.specHash, mandate.signature with
      | some specHash, some signature =>
          check (verifySignature P specHash P.settings.mandateSigningKey signature.value)
            .mandateUnsigned
      | _, _ => throw (.deny .mandateUnsigned)
      let now ← inGate (send .now)
      check (now < mandate.temporal.expiresAt) .mandateExpired
      return row

def g2g3 (req : MoneyActionRequest) (mandate : Mandate) : GateWork Unit := do
  match ← inGate (send (.getDecision req.decisionId)) with
  | none => throw (.deny .intentMismatch)
  | some decision =>
      check (decision.intentHash = req.intentHash) .intentMismatch
      check (some decision.mandateSpecHash = mandate.specHash) .intentMismatch
      let now ← inGate (send .now)
      check (now - decision.evaluatedAt ≤ seconds decision.ttlS) .decisionStale
      if decision.verdict ≠ .allow then
        match decision.reasonCodes with
        | code :: _ => throw (.deny code)
        | [] => throw (.raise (.other "list index out of range"))

def g5 (req : MoneyActionRequest) : GateWork Unit := do
  match ← inGate (send (.getQuote req.quoteId)) with
  | none => throw (.deny .quoteExpired)
  | some quote =>
      let now ← inGate (send .now)
      check (now < quote.expiresAt) .quoteExpired
      let version ← inGate (send .currentVersion)
      check (quote.catalogVersion = version) .stalePrice

/-- `mandates.update_status`: the row of the session, or the row from the database
if it has none. -/
def updateStatus (mandateId : String) (status : MandateStatus) : Work Unit := do
  match ← send (.getMandate mandateId) with
  | none => throw .keyError
  | some _ => send (.setMandateStatus mandateId status)

/-- The status is the one that was read for G1. -/
def markExecuting (req : MoneyActionRequest) (row : MandateRow) : GateWork Unit := do
  if row.status = .locked then
    let now ← inGate (send .now)
    match transition row.status .propose
      { now := some now, expiresAt := some row.mandate.temporal.expiresAt, txnCount := 0
        maxTransactions := row.mandate.bounds.maxTransactions } with
    | .ok status => inGate (updateStatus req.mandateId status)
    | .error failure => throw (.raise failure)

/-- The audit entry of a passed gate. -/
def budgetReserved (req : MoneyActionRequest) (key : String) : AppendRequest where
  traceId := req.traceId
  actorType := "system"
  actorId := req.actorId
  action := .budgetReserved
  subject := .ofStrings [("mandate_id", req.mandateId), ("ref_id", key)]
  payload := .obj [("mandate_id", .str req.mandateId), ("ref_id", .str key),
    ("amount_minor", .int req.amountMinor), ("currency", .str req.currency)]

/-- The gates from G4 on, with the row that was read for G1. -/
def runG4AndG5 (req : MoneyActionRequest) (key : String) (row : MandateRow) : GateWork Unit := do
  let reservation ← inGate (reserve req.mandateId req.amountMinor
    row.mandate.bounds.maxTotalMinor key)
  check reservation.isSome .budgetExceeded
  g5 req
  markExecuting req row
  inGate (send (.appendEntry (budgetReserved req key)))

/-- `_run_g1_through_g5`. -/
def runG1ThroughG5 (P : Platform) (req : MoneyActionRequest) (key : String) : GateWork Unit := do
  let row ← g1 P req
  g2g3 req row.mandate
  runG4AndG5 req key row

/-- How the attempt ends: only the pass reaches the commit. -/
def leaveGate (req : MoneyActionRequest) : Except GateExit Unit → Work (Option MoneyActionResult)
  | .ok () => do
      send .commit
      return none
  | .error (.deny code) => return some (Gate.deny code req.traceId)
  | .error (.raise failure) => throw failure

/-- `_attempt_g1_through_g5`. -/
def attemptG1ThroughG5 (P : Platform) (req : MoneyActionRequest) (key : String) :
    Work (Option MoneyActionResult) :=
  Program.bind (runG1ThroughG5 P req key) (leaveGate req)

/-! ## Compensations -/

/-- `payments.transition_status`, on the row of the session. -/
def transitionStatus (orderId : String) (status : OrderStatus)
    (providerPaymentId declineReason : Option String) : Work Unit := do
  match ← send (.getOrder orderId) with
  | none => throw .keyError
  | some _ => send (.setOrderPayment orderId status providerPaymentId declineReason)

def failOrder (leftAlone : OrderStatus → Bool) (orderId reason : String) : Work Unit := do
  match ← send (.getOrder orderId) with
  | none => pure ()
  | some order =>
      if leftAlone order.status then pure ()
      else transitionStatus orderId .failed none (some reason)

/-- A status change of the mandate that is only made from EXECUTING. -/
def leaveExecuting (mandateId : String) (trigger : Mandates.Trigger)
    (ctx : Mandates.TransitionGuardContext) : Work Unit := do
  match ← send (.getMandate mandateId) with
  | none => pure ()
  | some row =>
      if row.status = .executing then
        match transition .executing trigger ctx with
        | .ok status => updateStatus mandateId status
        | .error failure => throw failure
      else pure ()

/-- `_mark_compensated`. -/
def markCompensated (mandateId : String) : Work Unit :=
  leaveExecuting mandateId .failure { allCompensationsConfirmed := true }

/-- The audit entry of a compensation. -/
def compensationApplied (c : Compensation) (orderId : Option String) (outcomeName : String)
    (outcome : Bool) : AppendRequest :=
  let order := match orderId with
    | some orderId => [("order_id", orderId)]
    | none => []
  let names := [("mandate_id", c.mandateId)] ++ order ++ [("ref_id", c.refId)]
  { traceId := c.traceId
    actorType := "system"
    actorId := c.actorId
    action := .compensationApplied
    subject := .ofStrings names
    payload := .obj (names.map (fun (name, value) => (name, .str value)) ++
      [("amount_minor", .int c.amountMinor), ("reason", .str c.reason),
        (outcomeName, .bool outcome)]) }

/-- A compensation from its ledger operation on. -/
def compensate (c : Compensation) (orderId : Option String) (outcomeName : String)
    (operation : Work Bool) : Work Unit := do
  let outcome ← operation
  send (.appendEntry (compensationApplied c orderId outcomeName outcome))
  markCompensated c.mandateId
  send .commit

def releaseReservationAndMarkCompensated (c : Compensation) : Work Unit :=
  compensate c none "released" (release c.mandateId c.amountMinor c.refId)

def voidOrderAndReleaseReservation (c : Compensation) (orderId : String) : Work Unit := do
  failOrder OrderStatus.isTerminal orderId c.reason
  compensate c (some orderId) "released" (release c.mandateId c.amountMinor c.refId)

/-- The transaction of `refund_and_reverse_settlement`. -/
def reverseSettlementAfterRefund (c : Compensation) (orderId : String) : Work Unit := do
  failOrder (· = .failed) orderId c.reason
  compensate c (some orderId) "reversed" (reverseSettlement c.mandateId c.amountMinor c.refId)

/-! ## Settlement and revocation -/

/-- The audit entry of a settlement. -/
def settlementClosed (saga : SagaRecord) (orderId providerPaymentId actorId traceId : String) :
    AppendRequest where
  traceId := traceId
  actorType := "system"
  actorId := actorId
  action := .settlementClosed
  subject := .ofStrings [("order_id", orderId), ("mandate_id", saga.mandateId)]
  payload := .obj [("order_id", .str orderId), ("mandate_id", .str saga.mandateId),
    ("amount_minor", .int saga.amountMinor), ("provider_payment_id", .str providerPaymentId)]

/-- S5 of `complete_purchase`. -/
def settle (saga : SagaRecord) (orderId providerPaymentId actorId traceId : String) :
    Work Unit := do
  let captured ← capture saga.mandateId saga.amountMinor saga.id
  if captured then
    leaveExecuting saga.mandateId .captured
      { reservedMinor := saga.amountMinor, capturedMinor := saga.amountMinor }
    send (.appendEntry (settlementClosed saga orderId providerPaymentId actorId traceId))
    send (.updateSaga saga.id "S5_SETTLE" .completed)
    send .commit
  else send .commit

/-- A revocation sets the status and commits. -/
def revoke (mandateId : String) : Work Unit := do
  updateStatus mandateId .revoked
  send .commit

end Actl.UnitOfWork
