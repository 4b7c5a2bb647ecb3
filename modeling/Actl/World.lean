import Actl.Foundation.Run
import Actl.Saga.Service
import Actl.Catalog.Service
import Actl.Audit.Halt

/-!
# Actions on the world

The world is the store and the provider's side of the payments. An action is one
database transaction or one call of the provider, performed at one instant; it
carries the local values the code has at that point. The input of a step is what
the environment decides about it: the clock readings, the ids drawn, whether the
transaction fails in the database, and how the provider answers.

A transaction that fails changes nothing. A provider call may take effect and
still report an error, except that an open circuit breaker makes no call.
-/

set_option autoImplicit false

namespace Actl

open Payments (OrderArgs KeyLookup ProviderPayment WebhookDelivery WebhookReceipt)
open Gate (MoneyActionRequest MoneyActionResult Compensation)
open Saga (ProposeArgs Proposal)
open Mandates (MandateStatus)
open Catalog (QuoteArgs PriceArgs)

/-- What the provider has done: the orders it created with the idempotency keys
they were created under, and the payments it captured and refunded. -/
structure Provider where
  orders : List (String × String)
  captured : List String
  refunded : List String
  deriving DecidableEq

def Provider.fresh : Provider := ⟨[], [], []⟩

structure World where
  db : Database
  provider : Provider

/-- What a provider call can raise. -/
inductive ProviderError where
  | transient (message : String)
  | terminal (message : String)
  | circuitOpen (message : String)
  | other (message : String)
  deriving DecidableEq, Repr

def ProviderError.failure : ProviderError → Failure
  | .transient message => .transientProviderError message
  | .terminal message => .terminalProviderError message
  | .circuitOpen message => .circuitOpenError message
  | .other message => .other message

/-- What the environment decides about one step. -/
structure Input where
  /-- `now i j` is the `j`-th clock reading of the `i`-th part of the step. -/
  now : Nat → Nat → Time
  ids : Nat → String
  dbError : Bool
  answer : Except ProviderError Unit
  tookEffect : Bool
  providerOrderId : String
  payments : List ProviderPayment
  polls : Nat → Except Failure (List ProviderPayment)

inductive Action where
  | getHaltState
  | attemptG1ThroughG5 (req : MoneyActionRequest) (key : String)
  | lookupIdempotencyKey (key : String)
  | claimOrder (args : OrderArgs)
  | pollIdempotencyKey (key : String)
  | createOrder (args : OrderArgs)
  | recordOrderCreationFailed (args : OrderArgs) (message : String)
  | recordProviderOrder (args : OrderArgs) (providerOrderId : String)
  | releaseReservation (c : Compensation)
  | openSaga (req : MoneyActionRequest) (key : String)
  | resolveSaga (key : String) (result : MoneyActionResult)
  | getSaga (sagaId : String)
  | getMandateStatus (mandateId : String)
  | fetchPayments (providerOrderId : String)
  | capturePayment (paymentId : String) (amountMinor : Int)
  | recordPaymentFailed (orderId declineReason reason : String) (signature : JSONValue)
      (actorId traceId : String)
  | recordPaymentCaptured (orderId paymentId : String) (signature : JSONValue)
      (actorId traceId : String)
  | settle (saga : SagaRecord) (orderId paymentId actorId traceId : String)
  | refundPayment (paymentId : String) (amountMinor : Int) (idempotencyKey : String)
  | reverseSettlement (c : Compensation) (orderId : String)
  | voidOrder (c : Compensation) (orderId : String)
  | finalizeSaga (sagaId step : String) (status : SagaStatus)
  | proposeOrder (args : ProposeArgs)
  | getOrder (orderId : String)
  | updateMandateStatus (mandateId : String) (status : MandateStatus)
  | processWebhookDelivery (delivery : WebhookDelivery)
  | processUnprocessedWebhooks
  | reconcileNonTerminalOrders
  | sweep
  | verifyChainAndHaltOnFailure (tables : Audit.AuditTables) (fromSeq toSeq : Int)
  | createQuote (args : QuoteArgs)
  | mutatePrice (args : PriceArgs)
  | upsertItem (item : CatalogItemRecord)

/-- What an action that does not raise answers. -/
@[reducible] def Value : Action → Type
  | .getHaltState => HaltState
  | .attemptG1ThroughG5 .. => Option MoneyActionResult
  | .lookupIdempotencyKey _ => KeyLookup
  | .claimOrder _ => Bool
  | .pollIdempotencyKey _ => Option OrderRecord
  | .createOrder _ => String
  | .recordProviderOrder .. => OrderRecord
  | .openSaga .. => Option SagaRecord
  | .resolveSaga .. => SagaRecord
  | .getSaga _ => Option SagaRecord
  | .getMandateStatus _ => Option MandateStatus
  | .fetchPayments _ => List ProviderPayment
  | .settle .. => Option SagaRecord
  | .finalizeSaga .. => SagaRecord
  | .proposeOrder _ => Proposal
  | .getOrder _ => Option OrderRecord
  | .processWebhookDelivery _ => WebhookReceipt
  | .verifyChainAndHaltOnFailure .. => Audit.ChainVerificationResult
  | .createQuote _ => QuoteRecord
  | _ => Unit

abbrev Reply (action : Action) : Type := Except Failure (Value action)

namespace World

variable (w : World)

/-- A transaction: committed as a whole or not at all. -/
def transaction {α : Type} (dbError : Bool) (body : Database → Except Failure (α × Database)) :
    Except Failure α × World :=
  if dbError then (.error .dbapiError, w)
  else
    match body w.db with
    | .ok (value, db) => (.ok value, { w with db })
    | .error failure => (.error failure, w)

/-- A transaction without a result of its own. -/
def command (dbError : Bool) (body : Database → Except Failure Database) :
    Except Failure Unit × World :=
  w.transaction dbError fun db => (body db).map fun db => ((), db)

/-- A transaction that only reads. -/
def query {α : Type} (dbError : Bool) (body : Database → Except Failure α) :
    Except Failure α × World :=
  w.transaction dbError fun db => (body db).map fun value => (value, db)

/-- A call of the provider through the breaker. -/
def external {α : Type} (input : Input) (value : α) (effect : Provider → Provider) :
    Except Failure α × World :=
  match input.answer with
  | .ok () => (.ok value, { w with provider := effect w.provider })
  | .error failure =>
      let called := match failure with
        | .circuitOpen _ => false
        | _ => input.tookEffect
      (.error failure.failure, if called then { w with provider := effect w.provider } else w)

end World

/-- Performing an action. -/
def execute (P : Platform) : (action : Action) → Input → World → Reply action × World
  | .getHaltState, input, w => w.query input.dbError fun db => .ok db.integrity.toHaltState
  | .attemptG1ThroughG5 req key, input, w =>
      w.transaction input.dbError (Gate.attemptG1ThroughG5 P req key (input.now 0))
  | .lookupIdempotencyKey key, input, w =>
      w.query input.dbError (Payments.lookupIdempotencyKey · key)
  | .claimOrder args, input, w =>
      w.transaction input.dbError (Payments.claimOrder P args (input.now 0))
  | .pollIdempotencyKey key, input, w => w.query input.dbError (Payments.pollIdempotencyKey · key)
  | .createOrder args, input, w =>
      w.external input input.providerOrderId fun provider =>
        { provider with orders := (args.key P, input.providerOrderId) :: provider.orders }
  | .recordOrderCreationFailed args message, input, w =>
      w.command input.dbError (Payments.recordOrderCreationFailed P args message)
  | .recordProviderOrder args providerOrderId, input, w =>
      w.transaction input.dbError (Payments.recordProviderOrder P args providerOrderId)
  | .releaseReservation c, input, w =>
      w.command input.dbError (Gate.releaseReservationAndMarkCompensated P c (input.now 0))
  | .openSaga req key, input, w => w.transaction input.dbError (Saga.openSaga req key)
  | .resolveSaga key result, input, w => w.transaction input.dbError (Saga.resolveSaga key result)
  | .getSaga sagaId, input, w => w.query input.dbError fun db => .ok (db.getSaga sagaId)
  | .getMandateStatus mandateId, input, w =>
      w.query input.dbError fun db => .ok ((db.getMandate mandateId).map MandateRow.status)
  | .fetchPayments _, input, w => w.external input input.payments id
  | .capturePayment paymentId _, input, w =>
      w.external input () fun provider =>
        { provider with captured := paymentId :: provider.captured }
  | .recordPaymentFailed orderId declineReason reason signature actorId traceId, input, w =>
      w.command input.dbError
        (Payments.recordPaymentFailed P orderId declineReason reason signature actorId traceId)
  | .recordPaymentCaptured orderId paymentId signature actorId traceId, input, w =>
      w.command input.dbError
        (Payments.recordPaymentCaptured P orderId paymentId signature actorId traceId)
  | .settle saga orderId paymentId actorId traceId, input, w =>
      w.transaction input.dbError
        (Saga.settle P saga orderId paymentId actorId traceId (input.now 0))
  | .refundPayment paymentId _ _, input, w =>
      w.external input () fun provider =>
        { provider with refunded := paymentId :: provider.refunded }
  | .reverseSettlement c orderId, input, w =>
      w.command input.dbError (Gate.reverseSettlementAfterRefund P c orderId (input.now 0))
  | .voidOrder c orderId, input, w =>
      w.command input.dbError (Gate.voidOrderAndReleaseReservation P c orderId (input.now 0))
  | .finalizeSaga sagaId step status, input, w =>
      w.transaction input.dbError (Saga.writeSaga sagaId step status none)
  | .proposeOrder args, input, w =>
      w.transaction input.dbError (Saga.proposeOrder P args (input.ids 0) (input.now 0))
  | .getOrder orderId, input, w => w.query input.dbError fun db => .ok (db.getOrder orderId)
  | .updateMandateStatus mandateId status, input, w =>
      w.command input.dbError fun db => .ok (db.updateMandateStatus mandateId status)
  | .processWebhookDelivery delivery, input, w =>
      w.transaction input.dbError fun db => .ok (Payments.processWebhookDelivery P delivery db)
  | .processUnprocessedWebhooks, input, w =>
      w.command input.dbError
        (Payments.processUnprocessedWebhooks P (input.now 0) input.ids)
  | .reconcileNonTerminalOrders, input, w =>
      w.command input.dbError
        (Payments.reconcileNonTerminalOrders P (input.now 0) input.ids input.polls)
  | .sweep, input, w =>
      w.command input.dbError fun db =>
        (Ledger.sweep P input.now input.ids P.settings.reservationTtlS db).map Prod.snd
  | .verifyChainAndHaltOnFailure tables fromSeq toSeq, input, w =>
      w.transaction input.dbError
        (Audit.verifyChainAndHaltOnFailure P tables fromSeq toSeq (input.now 0 0))
  | .createQuote args, input, w =>
      w.transaction input.dbError
        (Catalog.createQuote P args (input.ids 0) (input.now 0 0))
  | .mutatePrice args, input, w =>
      w.command input.dbError (Catalog.mutatePriceDemoOnly P args)
  | .upsertItem item, input, w => w.command input.dbError (Catalog.upsertItem item)

end Actl
