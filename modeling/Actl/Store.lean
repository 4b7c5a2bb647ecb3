import Actl.Foundation.Table
import Actl.Audit.Chain
import Actl.Mandates.StateMachine
import Actl.Policy.Rules
import Actl.Ledger.Model

/-!
# The store

The tables the money path reads and writes, with the constraints the database
enforces: primary and unique keys are the unique columns of each table, the
checks on a mandate's cap and id are fields of its row, and the foreign keys of
an order and of a saga are checked when the row goes in.

Every function on the store here is one a repository offers.
-/

set_option autoImplicit false

namespace Actl

open Foundation (Table)
open Audit (AuditAction AuditLog)
open Mandates (Mandate MandateStatus)
open Policy (DecisionRecord)
open Ledger (Direction RefType)

/-! ## Records -/

/-- A row of `mandates`. Ids are prefixed ULIDs, which have no colon, and the
table checks that the cap is positive. -/
structure MandateRow where
  mandate : Mandate
  status : MandateStatus
  plainId : ':' ∉ mandate.mandateId.toList
  capPositive : 0 < mandate.bounds.maxTotalMinor

def MandateRow.id (row : MandateRow) : String := row.mandate.mandateId

structure QuoteRecord where
  id : String
  mandateId : String
  sku : String
  unitPriceMinor : Int
  nights : Int
  totalMinor : Int
  currency : String
  catalogVersion : Int
  refundable : Bool
  quoteHash : String
  expiresAt : Time
  deriving DecidableEq

/-- The columns of `catalog_items` that an order depends on. -/
structure CatalogItemRecord where
  sku : String
  category : String
  merchantId : String
  unitPriceMinor : Int
  availableUnits : Int
  refundable : Bool
  deriving DecidableEq

inductive OrderStatus where
  | created
  | authorized
  | captured
  | failed
  | compensated
  deriving DecidableEq, Repr

/-- `TERMINAL_STATUSES`. -/
def OrderStatus.isTerminal : OrderStatus → Bool
  | .captured | .failed | .compensated => true
  | _ => false

structure OrderRecord where
  id : String
  mandateId : String
  decisionId : String
  quoteId : String
  status : OrderStatus
  amountMinor : Int
  currency : String
  attemptNo : Int
  idempotencyKey : String
  providerOrderId : Option String
  providerPaymentId : Option String
  declineReason : Option String
  createdAt : Time
  deriving DecidableEq

structure LedgerEntryRecord where
  account : String
  direction : Direction
  amountMinor : Int
  refType : RefType
  refId : String
  createdAt : Time
  deriving DecidableEq

inductive SagaStatus where
  | running
  | awaitingAuthorization
  | completed
  | compensating
  | compensated
  | failed
  deriving DecidableEq, Repr

/-- The statuses in which the orchestrator leaves a saga alone. -/
def SagaStatus.isTerminal : SagaStatus → Bool
  | .completed | .compensated | .failed => true
  | _ => false

structure SagaRecord where
  id : String
  mandateId : String
  decisionId : String
  quoteId : String
  amountMinor : Int
  currency : String
  step : String
  status : SagaStatus
  orderId : Option String
  deriving DecidableEq

inductive KeyState where
  | inFlight
  | completed
  | failed
  deriving DecidableEq, Repr

structure IdempotencyKeyRecord where
  key : String
  requestHash : String
  state : KeyState
  expiresAt : Time
  deriving DecidableEq

structure WebhookEventRecord where
  providerEventId : String
  eventType : String
  signatureValid : Bool
  payload : JSONValue
  processedAt : Option Time

/-- What `get_state` reads of the integrity halt. -/
structure HaltState where
  halted : Bool
  reason : Option String
  trippedAt : Option Time
  deriving DecidableEq

/-- The single row of `integrity_halt`. -/
structure IntegrityHaltRow extends HaltState where
  trippedSeq : Option Int
  deriving DecidableEq

/-! ## The database -/

structure Database where
  mandates : Table MandateRow [MandateRow.id]
  decisions : Table DecisionRecord [DecisionRecord.decisionId]
  quotes : Table QuoteRecord [QuoteRecord.id]
  items : Table CatalogItemRecord [CatalogItemRecord.sku]
  catalogVersion : Int
  orders : Table OrderRecord [OrderRecord.id, OrderRecord.idempotencyKey]
  ledgerEntries : List LedgerEntryRecord
  sagas : Table SagaRecord [SagaRecord.id]
  idempotencyKeys : Table IdempotencyKeyRecord [IdempotencyKeyRecord.key]
  webhookEvents : Table WebhookEventRecord [WebhookEventRecord.providerEventId]
  auditLog : AuditLog
  integrity : IntegrityHaltRow

namespace Database

variable (db : Database)

/-! ### Mandates -/

def getMandate (mandateId : String) : Option MandateRow := db.mandates.get? MandateRow.id mandateId

def updateMandateStatus (mandateId : String) (status : MandateStatus) : Database :=
  let mandates := db.mandates.modify (fun row => row.id = mandateId)
    (fun row => { row with status := status }) (by simp [MandateRow.id])
  { db with mandates }

/-! ### Orders -/

def getOrder (orderId : String) : Option OrderRecord := db.orders.get? OrderRecord.id orderId

def getOrderByIdempotencyKey (key : String) : Option OrderRecord :=
  db.orders.get? OrderRecord.idempotencyKey key

/-- `scalar_one_or_none`: the column is not unique, and two rows raise. -/
def getOrderByProviderOrderId (providerOrderId : String) : Except Failure (Option OrderRecord) :=
  match db.orders.rows.filter fun o => o.providerOrderId = some providerOrderId with
  | [] => .ok none
  | [order] => .ok (some order)
  | _ => .error .multipleResultsFound

/-- The foreign keys and the positive amount of an order or saga row. -/
def AdmitsPurchase (mandateId decisionId quoteId : String) (amountMinor : Int) : Prop :=
  (∃ row ∈ db.mandates.rows, row.id = mandateId) ∧
    (∃ row ∈ db.decisions.rows, row.decisionId = decisionId) ∧
    (∃ row ∈ db.quotes.rows, row.id = quoteId) ∧ 0 < amountMinor

instance (mandateId decisionId quoteId : String) (amountMinor : Int) :
    Decidable (db.AdmitsPurchase mandateId decisionId quoteId amountMinor) :=
  inferInstanceAs (Decidable (_ ∧ _ ∧ _ ∧ _))

/-- `orders.add`; a violated constraint is a `DBAPIError`. -/
def addOrder (order : OrderRecord) : Except Failure Database :=
  if db.AdmitsPurchase order.mandateId order.decisionId order.quoteId order.amountMinor then
    match db.orders.insert? order with
    | some orders => .ok { db with orders }
    | none => .error .dbapiError
  else .error .dbapiError

def modifyOrder (orderId : String) (f : OrderRecord → OrderRecord)
    (keeps : ∀ col ∈ [OrderRecord.id, OrderRecord.idempotencyKey], ∀ o, col (f o) = col o) :
    Database :=
  { db with orders := db.orders.modify (fun o => o.id = orderId) f keeps }

/-- `payments.transition_status`: the fields that are given are written, the
others stay. -/
def transitionStatus (orderId : String) (status : OrderStatus)
    (providerPaymentId declineReason : Option String) : Except Failure Database :=
  match db.getOrder orderId with
  | none => .error .keyError
  | some _ => .ok (db.modifyOrder orderId (fun o =>
      { o with
        status := status
        providerPaymentId := providerPaymentId.or o.providerPaymentId
        declineReason := declineReason.or o.declineReason }) (by simp))

def setProviderOrderId (orderId providerOrderId : String) : Except Failure Database :=
  match db.getOrder orderId with
  | none => .error .keyError
  | some _ => .ok (db.modifyOrder orderId
      (fun o => { o with providerOrderId := some providerOrderId }) (by simp))

def listNonTerminalOlderThan (cutoff : Time) : List OrderRecord :=
  db.orders.rows.filter fun o => !o.status.isTerminal && o.createdAt < cutoff

/-! ### Idempotency keys -/

def getIdempotencyKey (key : String) : Option IdempotencyKeyRecord :=
  db.idempotencyKeys.get? IdempotencyKeyRecord.key key

/-- `INSERT .. ON CONFLICT (key) DO NOTHING`; no result when the key is taken. -/
def claimIdempotencyKey (record : IdempotencyKeyRecord) : Option Database :=
  (db.idempotencyKeys.insert? record).map fun idempotencyKeys => { db with idempotencyKeys }

def completeIdempotencyKey (key : String) (state : KeyState) : Except Failure Database :=
  match db.getIdempotencyKey key with
  | none => .error .keyError
  | some _ =>
      let idempotencyKeys := db.idempotencyKeys.modify (fun r => r.key = key)
        (fun r => { r with state := state }) (by simp)
      .ok { db with idempotencyKeys }

/-! ### Sagas -/

def getSaga (sagaId : String) : Option SagaRecord := db.sagas.get? SagaRecord.id sagaId

def addSaga (saga : SagaRecord) : Except Failure Database :=
  if db.AdmitsPurchase saga.mandateId saga.decisionId saga.quoteId saga.amountMinor then
    match db.sagas.insert? saga with
    | some sagas => .ok { db with sagas }
    | none => .error .dbapiError
  else .error .dbapiError

/-- `sagas.update`, which writes whatever status the row has. -/
def updateSaga (sagaId step : String) (status : SagaStatus) (orderId : Option String) :
    Except Failure Database :=
  match db.getSaga sagaId with
  | none => .error .keyError
  | some _ =>
      let sagas := db.sagas.modify (fun s => s.id = sagaId)
        (fun s => { s with step := step, status := status, orderId := orderId.or s.orderId })
        (by simp)
      .ok { db with sagas }

/-! ### Ledger entries -/

def listForAccount (account : String) : List LedgerEntryRecord :=
  db.ledgerEntries.filter fun e => e.account = account

def listForRefId (refId : String) : List LedgerEntryRecord :=
  db.ledgerEntries.filter fun e => e.refId = refId

/-- The distinct reservations made before the cutoff. -/
def listReservationsOlderThan (cutoff : Time) : List String :=
  ((db.ledgerEntries.filter fun e => e.refType = .reservation && e.createdAt < cutoff).map
    LedgerEntryRecord.refId).dedup

/-! ### Webhook events -/

def claimWebhookEvent (event : WebhookEventRecord) : Option Database :=
  (db.webhookEvents.insert? event).map fun webhookEvents => { db with webhookEvents }

def listUnprocessed : List WebhookEventRecord :=
  db.webhookEvents.rows.filter fun e => e.processedAt.isNone && e.signatureValid

def markProcessed (providerEventId : String) (processedAt : Time) : Except Failure Database :=
  match db.webhookEvents.get? WebhookEventRecord.providerEventId providerEventId with
  | none => .error .keyError
  | some _ =>
      let webhookEvents := db.webhookEvents.modify (fun e => e.providerEventId = providerEventId)
        (fun e => { e with processedAt := some processedAt }) (by simp)
      .ok { db with webhookEvents }

/-! ### Audit -/

def appendEntry (P : Platform) (traceId actorType actorId : String) (action : AuditAction)
    (subject payload : JSONValue) : Database :=
  { db with auditLog := db.auditLog.appendEntry P traceId actorType actorId action subject payload }

/-! ### Integrity -/

/-- `trip`, which writes only while the row is not halted. -/
def tripIntegrity (reason : String) (trippedSeq : Option Int) (now : Time) : Database :=
  if db.integrity.halted then db
  else { db with integrity := ⟨⟨true, some reason, some now⟩, trippedSeq⟩ }

/-- `raise_if_halted`. -/
def raiseIfHalted : Except Failure Unit :=
  if db.integrity.halted then .error (.integrityHalted (db.integrity.reason.getD "unknown"))
  else .ok ()

/-- The store before anything has happened, with the given mandates. -/
def empty (mandates : Table MandateRow [MandateRow.id]) : Database where
  mandates := mandates
  decisions := .empty
  quotes := .empty
  items := .empty
  catalogVersion := 1
  orders := .empty
  ledgerEntries := []
  sagas := .empty
  idempotencyKeys := .empty
  webhookEvents := .empty
  auditLog := .empty
  integrity := ⟨⟨false, none, none⟩, none⟩

end Database

end Actl
