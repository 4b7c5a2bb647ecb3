import Actl.World

/-!
# The programs

The application's entry points as programs over the actions, in the order and
with the exception handling of the source: `create_provider_order`,
`execute_money_action`, `begin_purchase`, `complete_purchase`,
`handle_order_propose`, the checkout route and the worker's ticks.

Ids the code draws before its first action (`new_id`) are arguments of the call.
-/

set_option autoImplicit false

namespace Actl

open Foundation (Code Program System)
open Payments (OrderArgs)
open Policy (ReasonCode)
open Gate (MoneyActionRequest MoneyActionResult Compensation deny)
open Saga (SagaSnapshot snapshot ProposeArgs)

abbrev Prog (α : Type) : Type := Code Action Reply Failure α

/-- Issuing one action. -/
def issue (action : Action) : Prog (Value action) := Code.perform action id

/-! ## Retries -/

/-- The message of `RetryExhausted`; the messages that reach it have no quotes
to escape. -/
def retryMessage (attempts : Nat) : Failure → String
  | .transientProviderError message =>
      "retry exhausted after " ++ toString attempts ++ " attempt(s): TransientProviderError('"
        ++ message ++ "')"
  | _ => "retry exhausted after " ++ toString attempts ++ " attempt(s)"

/-- The attempts that are left of `max_attempts`. -/
def retryRemaining {α : Type} (maxAttempts : Nat) (retryOn : Failure → Bool) (body : Prog α) :
    Nat → Prog α
  | 0 => throw .valueError
  | remaining + 1 => tryCatch body fun failure =>
      if retryOn failure then
        match remaining with
        | 0 => throw (.retryExhausted (retryMessage maxAttempts failure))
        | _ + 1 => retryRemaining maxAttempts retryOn body remaining
      else throw failure

/-- `retry_with_full_jitter`. -/
def retryWithFullJitter {α : Type} (maxAttempts : Nat) (retryOn : Failure → Bool)
    (body : Prog α) : Prog α :=
  retryRemaining maxAttempts retryOn body maxAttempts

/-- `_call_with_retry`. -/
def callWithRetry (P : Platform) (action : Action) : Prog (Value action) :=
  retryWithFullJitter P.settings.maxRetryAttempts Failure.isTransientProviderError (issue action)

/-! ## Order creation -/

/-- The polls that are left of `_await_in_flight_completion`. -/
def awaitPolls (key : String) : Nat → Prog OrderRecord
  | 0 => throw .idempotencyInFlightTimeout
  | remaining + 1 => do
      match ← issue (.pollIdempotencyKey key) with
      | some order => return order
      | none => awaitPolls key remaining

/-- `_await_in_flight_completion`: two seconds at a poll every 50 ms are 40
polls. -/
def awaitInFlightCompletion (key : String) : Prog OrderRecord := awaitPolls key 40

/-- The owner's part of `create_provider_order`, after its claim. -/
def orderAtProvider (P : Platform) (args : OrderArgs) : Prog OrderRecord := do
  let providerOrderId ← tryCatch (callWithRetry P (.createOrder args)) fun failure =>
    if failure.isProviderFailure then do
      issue (.recordOrderCreationFailed args failure.text)
      throw failure
    else throw failure
  issue (.recordProviderOrder args providerOrderId)

/-- `create_provider_order`. -/
def createProviderOrder (P : Platform) (args : OrderArgs) : Prog (OrderRecord × Bool) := do
  match ← issue (.lookupIdempotencyKey (args.key P)) with
  | .completed order => return (order, true)
  | .inFlight =>
      let order ← awaitInFlightCompletion (args.key P)
      return (order, true)
  | .absent =>
      if ← issue (.claimOrder args) then
        let order ← orderAtProvider P args
        return (order, false)
      else
        let order ← awaitInFlightCompletion (args.key P)
        return (order, true)

/-! ## The gate -/

/-- The self-compensation of the gate. -/
def gateCompensation (P : Platform) (req : MoneyActionRequest) (reason : String) :
    Compensation where
  mandateId := req.mandateId
  amountMinor := req.amountMinor
  refId := req.key P
  actorId := req.actorId
  traceId := req.traceId
  reason := reason

/-- `_run_g6_g7_execute`. -/
def runG6G7Execute (P : Platform) (req : MoneyActionRequest) (orderId : String) :
    Prog MoneyActionResult := do
  match ← (retryWithFullJitter 50 Failure.isDbapiError
    (createProviderOrder P (req.orderArgs orderId))).outcome with
  | .ok (order, wasDuplicate) =>
      return { verdict := .allow, reasonCode := .ok, traceId := req.traceId
               orderId := some order.id, providerOrderId := order.providerOrderId
               duplicate := wasDuplicate }
  | .error .idempotentAttemptFailed =>
      return { deny .providerTerminal req.traceId with duplicate := true }
  | .error .idempotencyInFlightTimeout =>
      return { deny .providerTransient req.traceId with duplicate := true }
  | .error (.terminalProviderError _) => do
      issue (.releaseReservation (gateCompensation P req "order_creation_failed"))
      return deny .providerTerminal req.traceId
  | .error failure =>
      if failure.isProviderFailure then do
        issue (.releaseReservation (gateCompensation P req "order_creation_failed"))
        return deny .providerTransient req.traceId
      else do
        issue (.releaseReservation (gateCompensation P req "unexpected_internal_failure"))
        return deny .internalError req.traceId

/-- `execute_money_action`. -/
def executeMoneyAction (P : Platform) (req : MoneyActionRequest) (orderId : String) :
    Prog MoneyActionResult := do
  match ← (issue .getHaltState).outcome with
  | .error _ => return deny .internalError req.traceId
  | .ok haltState =>
      if haltState.halted then return deny .auditUnavailable req.traceId
      if req.isMalformed then return deny .malformedRequest req.traceId
      match ← (retryWithFullJitter 50 Failure.isDbapiError
        (issue (.attemptG1ThroughG5 req (req.key P)))).outcome with
      | .error _ => return deny .internalError req.traceId
      | .ok (some denied) => return denied
      | .ok none => runG6G7Execute P req orderId

/-! ## Sagas -/

/-- `begin_purchase`. -/
def beginPurchase (P : Platform) (req : MoneyActionRequest) (orderId : String) :
    Prog SagaSnapshot := do
  match ← issue (.openSaga req (req.key P)) with
  | some existing => return snapshot existing
  | none =>
      let result ← executeMoneyAction P req orderId
      let final ← issue (.resolveSaga (req.key P) result)
      return snapshot final (if result.verdict = .allow then none else some result.reasonCode)

/-- What `complete_purchase` is called with, and the trace id it draws. -/
structure CompleteArgs where
  sagaId : String
  providerOrderId : String
  providerPaymentId : String
  providerSignature : String
  actorId : String
  traceId : String
  deriving DecidableEq

/-- The compensations of `complete_purchase`. -/
def sagaCompensation (args : CompleteArgs) (saga : SagaRecord) (reason : String) :
    Compensation where
  mandateId := saga.mandateId
  amountMinor := saga.amountMinor
  refId := args.sagaId
  actorId := args.actorId
  traceId := args.traceId
  reason := reason

/-- C2 and C1, then the saga COMPENSATED. -/
def voidPurchase (args : CompleteArgs) (saga : SagaRecord) (orderId reason : String) :
    Prog SagaSnapshot := do
  issue (.voidOrder (sagaCompensation args saga reason) orderId)
  let final ← issue (.finalizeSaga args.sagaId "C2_VOID" .compensated)
  return snapshot final

/-- `verify_and_capture`. -/
def verifyAndCapture (P : Platform) (args : CompleteArgs) (saga : SagaRecord) (orderId : String) :
    Prog Unit := do
  let signature := Payments.signatureHash P args.providerSignature
  if P.verifyCheckoutSignature args.providerOrderId args.providerPaymentId args.providerSignature
  then
    tryCatch (callWithRetry P (.capturePayment args.providerPaymentId saga.amountMinor))
      fun failure =>
        if failure.isProviderFailure then do
          issue (.recordPaymentFailed orderId (Payments.truncated failure.text) "capture_failed"
            signature args.actorId args.traceId)
          throw failure
        else throw failure
    issue (.recordPaymentCaptured orderId args.providerPaymentId signature args.actorId
      args.traceId)
  else
    issue (.recordPaymentFailed orderId "invalid_checkout_signature" "invalid_checkout_signature"
      signature args.actorId args.traceId)
    throw .checkoutSignatureInvalid

/-- C4 and C5, then the saga COMPENSATED. -/
def refundPurchase (P : Platform) (args : CompleteArgs) (saga : SagaRecord) (orderId : String) :
    Prog SagaSnapshot := do
  callWithRetry P (.refundPayment args.providerPaymentId saga.amountMinor
    ("ik_refund_" ++ args.sagaId))
  issue (.reverseSettlement
    (sagaCompensation args saga "ledger_capture_failed_after_provider_capture") orderId)
  let final ← issue (.finalizeSaga args.sagaId "C5_REVERSE" .compensated)
  return snapshot final

/-- S4 and S5 of `complete_purchase`. -/
def captureAndSettle (P : Platform) (args : CompleteArgs) (saga : SagaRecord) (orderId : String) :
    Prog SagaSnapshot := do
  match ← (verifyAndCapture P args saga orderId).outcome with
  | .error .checkoutSignatureInvalid =>
      voidPurchase args saga orderId "invalid_checkout_signature"
  | .error failure =>
      if failure.isProviderFailure then voidPurchase args saga orderId "capture_failed"
      else throw failure
  | .ok () =>
      match ← issue (.settle saga orderId args.providerPaymentId args.actorId args.traceId) with
      | some final => return snapshot final
      | none => refundPurchase P args saga orderId

/-- `complete_purchase`. -/
def completePurchase (P : Platform) (args : CompleteArgs) : Prog SagaSnapshot := do
  match ← issue (.getSaga args.sagaId) with
  | none => throw .sagaNotFound
  | some saga =>
      if saga.status ≠ .awaitingAuthorization then return snapshot saga
      match saga.orderId with
      | none => throw .assertionError
      | some orderId =>
          let status ← issue (.getMandateStatus saga.mandateId)
          if status = some .revoked then voidPurchase args saga orderId "mandate_revoked"
          else
            let payments ← issue (.fetchPayments args.providerOrderId)
            if payments.any fun p => p.id = args.providerPaymentId ∧ p.status = .failed then
              voidPurchase args saga orderId "payment_declined"
            else captureAndSettle P args saga orderId

/-! ## The routes -/

structure CheckoutRequest where
  orderId : String
  sagaId : String
  providerPaymentId : Option String
  providerSignature : Option String
  deriving DecidableEq

/-- The checkout route: the order and the saga are two independent fields of the
request. -/
def checkout (P : Platform) (body : CheckoutRequest) (traceId : String) : Prog SagaSnapshot := do
  match ← issue (.getOrder body.orderId) with
  | none => throw (.httpException 404)
  | some order =>
      match order.providerOrderId with
      | none => throw (.httpException 404)
      | some providerOrderId =>
          let complete (paymentId signature : String) : Prog SagaSnapshot :=
            completePurchase P
              { sagaId := body.sagaId, providerOrderId := providerOrderId
                providerPaymentId := paymentId, providerSignature := signature
                actorId := "web_buyer", traceId := traceId }
          match body.providerPaymentId, body.providerSignature with
          | some paymentId, some signature => complete paymentId signature
          | _, _ =>
              match P.buildCheckoutPayload with
              | none => throw (.httpException 400)
              | some build => do
                  match ← issue (.fetchPayments providerOrderId) with
                  | [] => throw (.httpException 409)
                  | payment :: _ => complete payment.id (build providerOrderId payment.id)

inductive HandlerResult where
  | accept (orderId : Option String) (sagaId : String)
  | reject (code : ReasonCode)
  deriving DecidableEq

/-- `handle_order_propose`. -/
def handleOrderPropose (P : Platform) (args : ProposeArgs) (orderId : String) :
    Prog HandlerResult := do
  match ← issue (.proposeOrder args) with
  | .rejected code => return .reject code
  | .allowed req =>
      let snapshot ← beginPurchase P req orderId
      if snapshot.status = .awaitingAuthorization then
        return .accept snapshot.orderId snapshot.sagaId
      else return .reject (snapshot.reasonCode.getD .internalError)

/-! ## The system -/

inductive Call where
  | createProviderOrder (args : OrderArgs)
  | executeMoneyAction (req : MoneyActionRequest) (orderId : String)
  | beginPurchase (req : MoneyActionRequest) (orderId : String)
  | completePurchase (args : CompleteArgs)
  | checkout (body : CheckoutRequest) (traceId : String)
  | handleOrderPropose (args : ProposeArgs) (orderId : String)
  | updateMandateStatus (mandateId : String) (status : Mandates.MandateStatus)
  | processWebhookDelivery (delivery : Payments.WebhookDelivery)
  | processUnprocessedWebhooks
  | reconcileNonTerminalOrders
  | sweep
  | verifyChainAndHaltOnFailure (tables : Audit.AuditTables) (fromSeq toSeq : Int)
  | createQuote (args : Catalog.QuoteArgs)
  | mutatePrice (args : Catalog.PriceArgs)
  | upsertItem (item : CatalogItemRecord)

inductive Outcome where
  | order (order : OrderRecord) (wasDuplicate : Bool)
  | money (result : MoneyActionResult)
  | saga (snapshot : SagaSnapshot)
  | handled (result : HandlerResult)
  | receipt (receipt : Payments.WebhookReceipt)
  | verified (result : Audit.ChainVerificationResult)
  | quoted (quote : QuoteRecord)
  | nothing
  deriving DecidableEq

def Call.code (P : Platform) : Call → Prog Outcome
  | .createProviderOrder args => do
      let (order, wasDuplicate) ← Actl.createProviderOrder P args
      return .order order wasDuplicate
  | .executeMoneyAction req orderId => do return .money (← Actl.executeMoneyAction P req orderId)
  | .beginPurchase req orderId => do return .saga (← Actl.beginPurchase P req orderId)
  | .completePurchase args => do return .saga (← Actl.completePurchase P args)
  | .checkout body traceId => do return .saga (← Actl.checkout P body traceId)
  | .handleOrderPropose args orderId => do return .handled (← Actl.handleOrderPropose P args orderId)
  | .updateMandateStatus mandateId status => do
      issue (.updateMandateStatus mandateId status)
      return .nothing
  | .processWebhookDelivery delivery => do
      return .receipt (← issue (.processWebhookDelivery delivery))
  | .processUnprocessedWebhooks => do
      issue .processUnprocessedWebhooks
      return .nothing
  | .reconcileNonTerminalOrders => do
      issue .reconcileNonTerminalOrders
      return .nothing
  | .sweep => do
      issue .sweep
      return .nothing
  | .verifyChainAndHaltOnFailure tables fromSeq toSeq => do
      return .verified (← issue (.verifyChainAndHaltOnFailure tables fromSeq toSeq))
  | .createQuote args => do return .quoted (← issue (.createQuote args))
  | .mutatePrice args => do
      issue (.mutatePrice args)
      return .nothing
  | .upsertItem item => do
      issue (.upsertItem item)
      return .nothing

/-- The application: any number of calls on one store and one provider. -/
def application (P : Platform) : System where
  Action := Action
  Reply := Reply
  Input := Input
  State := World
  Call := Call
  Result := Except Failure Outcome
  execute := execute P
  code := Call.code P

end Actl
