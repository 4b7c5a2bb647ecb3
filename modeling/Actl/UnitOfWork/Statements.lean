import Actl.Audit.Append
import Actl.Foundation.Session
import Actl.Payments.Service

/-!
# The statements of a unit of work

What the repositories send to the database, one statement at a time, and what the
session of a unit of work remembers. The session keeps the mandate and order rows
it has read: reading such a row again gives the row as it was read, also when the
row is locked meanwhile, because a locking select does not refresh a row that the
session has. An attribute that is set to the value it was read with is not written.

Writes become visible to others when the session commits. A row that is written, a
mandate that is selected for update and the head of the audit chain stay locked
until the transaction ends.

A clock reading and a call of the provider are statements too, so that other
sessions can come in between.
-/

set_option autoImplicit false

namespace Actl.UnitOfWork

open Foundation (Code Engine)
open Audit (AppendRequest)
open Mandates (MandateStatus)
open Payments (ProviderPayment)
open Policy (DecisionRecord)

/-! ## Statements -/

inductive Statement where
  | now
  | getMandate (mandateId : String)
  | getMandateForUpdate (mandateId : String)
  | setMandateStatus (mandateId : String) (status : MandateStatus)
  | getDecision (decisionId : String)
  | getQuote (quoteId : String)
  | currentVersion
  | listForRefId (refId : String)
  | listForAccount (account : String)
  | addLedgerEntry (record : LedgerEntryRecord)
  | appendEntry (request : AppendRequest)
  | getOrder (orderId : String)
  | getOrderByProviderOrderId (providerOrderId : String)
  | listNonTerminalOlderThan (cutoff : Time)
  | setOrderPayment (orderId : String) (status : OrderStatus)
      (providerPaymentId declineReason : Option String)
  | updateSaga (sagaId step : String) (status : SagaStatus)
  | listUnprocessed
  | markProcessed (providerEventId : String) (processedAt : Time)
  | getHaltState
  | fetchPayments (providerOrderId : String)
  | capturePayment (paymentId : String) (amountMinor : Int)
  | commit

/-- What a statement that does not fail answers. -/
@[reducible] def Statement.Value : Statement → Type
  | .now => Time
  | .getMandate _ | .getMandateForUpdate _ => Option MandateRow
  | .getDecision _ => Option DecisionRecord
  | .getQuote _ => Option QuoteRecord
  | .currentVersion => Int
  | .listForRefId _ | .listForAccount _ => List LedgerEntryRecord
  | .getOrder _ | .getOrderByProviderOrderId _ => Option OrderRecord
  | .listNonTerminalOlderThan _ => List OrderRecord
  | .listUnprocessed => List WebhookEventRecord
  | .getHaltState => HaltState
  | .fetchPayments _ => List ProviderPayment
  | _ => Unit

abbrev Statement.Reply (statement : Statement) : Type := Except Failure statement.Value

/-- What the environment decides about a statement: whether it fails, the time, and
how the provider answers. -/
structure StatementInput where
  fault : Option Failure
  time : Time
  payments : Except Failure (List ProviderPayment)
  captured : Except Failure Unit

/-! ## Writes -/

inductive Write where
  | mandateStatus (mandateId : String) (status : MandateStatus)
  | ledgerEntry (record : LedgerEntryRecord)
  | auditEntry (request : AppendRequest)
  | order (orderId : String) (status : Option OrderStatus)
      (providerPaymentId declineReason : Option String)
  | saga (sagaId step : String) (status : SagaStatus)
  | processed (providerEventId : String) (processedAt : Time)

/-- Marking an event as processed keeps its id. -/
theorem processed_keeps (processedAt : Time) :
    ∀ col ∈ [WebhookEventRecord.providerEventId], ∀ e : WebhookEventRecord,
      col { e with processedAt := some processedAt } = col e := by
  simp

def Write.apply (P : Platform) (db : Database) : Write → Database
  | .mandateStatus mandateId status => db.updateMandateStatus mandateId status
  | .ledgerEntry record => { db with ledgerEntries := db.ledgerEntries ++ [record] }
  | .auditEntry request => { db with auditLog := db.auditLog.append P request }
  | .order orderId status providerPaymentId declineReason =>
      db.modifyOrder orderId (fun o =>
        { o with
          status := status.getD o.status
          providerPaymentId := providerPaymentId.or o.providerPaymentId
          declineReason := declineReason.or o.declineReason }) (by simp)
  | .saga sagaId step status =>
      let sagas := db.sagas.modify (fun s => s.id = sagaId)
        (fun s => { s with step := step, status := status }) (by simp)
      { db with sagas }
  | .processed providerEventId processedAt =>
      let webhookEvents := db.webhookEvents.modify (fun e => e.providerEventId = providerEventId)
        (fun e => { e with processedAt := some processedAt }) (processed_keeps processedAt)
      { db with webhookEvents }

/-! ## The memory of a session -/

/-- The rows the session has and the writes it has sent, the oldest first. -/
structure Memory where
  mandates : List MandateRow
  orders : List OrderRecord
  writes : List Write

namespace Memory

def fresh : Memory := ⟨[], [], []⟩

variable (P : Platform) (memory : Memory) (db : Database)

/-- What the session sees: what is committed, and its own writes on it. -/
def view : Database := memory.writes.foldl (Write.apply P) db

def write (w : Write) : Memory := { memory with writes := memory.writes ++ [w] }

def mandate? (mandateId : String) : Option MandateRow :=
  memory.mandates.find? fun row => row.id = mandateId

def order? (orderId : String) : Option OrderRecord :=
  memory.orders.find? fun o => o.id = orderId

/-- A mandate row comes back from the database: the row the session has is the
answer, a new one is kept. -/
def loadMandate : Option MandateRow → Option MandateRow × Memory
  | none => (none, memory)
  | some row =>
      match memory.mandate? row.id with
      | some kept => (some kept, memory)
      | none => (some row, { memory with mandates := memory.mandates ++ [row] })

def loadOrder (o : OrderRecord) : OrderRecord × Memory :=
  match memory.order? o.id with
  | some kept => (kept, memory)
  | none => (o, { memory with orders := memory.orders ++ [o] })

def loadOrders : List OrderRecord → Memory → List OrderRecord × Memory
  | [], memory => ([], memory)
  | o :: os, memory =>
      let loaded := memory.loadOrder o
      let rest := loadOrders os loaded.2
      (loaded.1 :: rest.1, rest.2)

/-- The attribute is set on the row of the session, and written when its value
changes. -/
def setMandateStatus (mandateId : String) (status : MandateStatus) : Memory :=
  match memory.mandate? mandateId with
  | none => memory
  | some row =>
      if row.status = status then memory
      else
        let mandates := memory.mandates.map fun row =>
          if row.id = mandateId then { row with status := status } else row
        { memory with mandates }.write (.mandateStatus mandateId status)

/-- The same for the payment columns of an order. -/
def setOrderPayment (orderId : String) (status : OrderStatus)
    (providerPaymentId declineReason : Option String) : Memory :=
  match memory.order? orderId with
  | none => memory
  | some kept =>
      let orders := memory.orders.map fun o =>
        if o.id = orderId then
          { o with
            status := status
            providerPaymentId := providerPaymentId.or o.providerPaymentId
            declineReason := declineReason.or o.declineReason }
        else o
      { memory with orders }.write (.order orderId (if kept.status = status then none else some status)
        providerPaymentId declineReason)

end Memory

/-! ## The engine -/

/-- What can be locked. -/
inductive Lock where
  | mandate (mandateId : String)
  | order (orderId : String)
  | chain
  deriving DecidableEq

/-- The lock a statement needs. -/
def Statement.lock (memory : Memory) : Statement → Option Lock
  | .getMandateForUpdate mandateId => some (.mandate mandateId)
  | .setMandateStatus mandateId status =>
      match memory.mandate? mandateId with
      | some row => if row.status = status then none else some (.mandate mandateId)
      | none => none
  | .setOrderPayment orderId _ _ _ => some (.order orderId)
  | .appendEntry _ => some .chain
  | _ => none

/-- A statement that does not fail in the database. -/
def Statement.perform (P : Platform) (input : StatementInput) (db : Database) (memory : Memory) :
    (statement : Statement) → statement.Reply × Memory
  | .now => (.ok input.time, memory)
  | .getMandate mandateId =>
      match memory.mandate? mandateId with
      | some row => (.ok (some row), memory)
      | none =>
          let loaded := memory.loadMandate ((memory.view P db).getMandate mandateId)
          (.ok loaded.1, loaded.2)
  | .getMandateForUpdate mandateId =>
      let loaded := memory.loadMandate ((memory.view P db).getMandate mandateId)
      (.ok loaded.1, loaded.2)
  | .setMandateStatus mandateId status => (.ok (), memory.setMandateStatus mandateId status)
  | .getDecision decisionId =>
      (.ok ((memory.view P db).decisions.get? DecisionRecord.decisionId decisionId), memory)
  | .getQuote quoteId => (.ok ((memory.view P db).quotes.get? QuoteRecord.id quoteId), memory)
  | .currentVersion => (.ok (memory.view P db).catalogVersion, memory)
  | .listForRefId refId => (.ok ((memory.view P db).listForRefId refId), memory)
  | .listForAccount account => (.ok ((memory.view P db).listForAccount account), memory)
  | .addLedgerEntry record => (.ok (), memory.write (.ledgerEntry record))
  | .appendEntry request => (.ok (), memory.write (.auditEntry request))
  | .getOrder orderId =>
      match memory.order? orderId with
      | some o => (.ok (some o), memory)
      | none =>
          match (memory.view P db).getOrder orderId with
          | none => (.ok none, memory)
          | some o => (.ok (some (memory.loadOrder o).1), (memory.loadOrder o).2)
  | .getOrderByProviderOrderId providerOrderId =>
      match (memory.view P db).getOrderByProviderOrderId providerOrderId with
      | .error failure => (.error failure, memory)
      | .ok none => (.ok none, memory)
      | .ok (some o) => (.ok (some (memory.loadOrder o).1), (memory.loadOrder o).2)
  | .listNonTerminalOlderThan cutoff =>
      let loaded := Memory.loadOrders ((memory.view P db).listNonTerminalOlderThan cutoff) memory
      (.ok loaded.1, loaded.2)
  | .setOrderPayment orderId status providerPaymentId declineReason =>
      (.ok (), memory.setOrderPayment orderId status providerPaymentId declineReason)
  | .updateSaga sagaId step status =>
      match (memory.view P db).getSaga sagaId with
      | none => (.error .keyError, memory)
      | some _ => (.ok (), memory.write (.saga sagaId step status))
  | .listUnprocessed => (.ok (memory.view P db).listUnprocessed, memory)
  | .markProcessed providerEventId processedAt =>
      match (memory.view P db).webhookEvents.get? WebhookEventRecord.providerEventId
          providerEventId with
      | none => (.error .keyError, memory)
      | some _ => (.ok (), memory.write (.processed providerEventId processedAt))
  | .getHaltState => (.ok (memory.view P db).integrity.toHaltState, memory)
  | .fetchPayments _ => (input.payments, memory)
  | .capturePayment .. => (input.captured, memory)
  | .commit => (.ok (), { memory with writes := [] })

/-- A statement that fails changes nothing. -/
def Statement.execute (P : Platform) (statement : Statement) (input : StatementInput)
    (db : Database) (memory : Memory) : statement.Reply × Memory :=
  match input.fault with
  | some failure => (.error failure, memory)
  | none => statement.perform P input db memory

def Statement.isCommit : Statement → Bool
  | .commit => true
  | _ => false

/-- The sessions of `UnitOfWork`. -/
def engine (P : Platform) :
    Engine Statement Statement.Reply StatementInput Database Memory Lock where
  fresh := .fresh
  perform := Statement.execute P
  publishes statement reply := statement.isCommit && reply.isOk
  publish memory db := memory.view P db
  lock statement memory := statement.lock memory

abbrev Work (α : Type) : Type := Code Statement Statement.Reply Failure α

/-- The code that sends one statement. -/
def send (statement : Statement) : Work statement.Value := Code.perform statement id

end Actl.UnitOfWork
