import Actl.Programs
import Actl.UnitOfWork.Transactions

/-!
# Who writes the status of an order

The five writers of an order's payment columns, statement by statement:
`verify_and_capture`, the two ticks of the worker, and the compensations that void
and refund. `Payments.Service` gives what the first three come to when nobody else
is about.

All of them write through `transition_status`, which writes whatever status the row
has. The voiding compensation and the ticks look at the status first, in the row
that the session has read; `verify_and_capture` does not look at it.
-/

set_option autoImplicit false

namespace Actl.UnitOfWork

open Foundation (Code)
open Audit (AppendRequest)
open Gate (Compensation)
open Payments (ProviderPayment latestPayment extractPaymentEntity signatureHash truncated)

/-- The audit entry of a payment's result. -/
def paymentResult (traceId actorId orderId : String) (payload : List (String × JSONValue)) :
    AppendRequest where
  traceId := traceId
  actorType := "system"
  actorId := actorId
  action := .paymentResult
  subject := .ofStrings [("order_id", orderId)]
  payload := .obj payload

/-- A new status of an order with its audit entry. -/
def writePayment (orderId : String) (status : OrderStatus)
    (providerPaymentId declineReason : Option String) (audited : AppendRequest) : Work Unit := do
  transitionStatus orderId status providerPaymentId declineReason
  send (.appendEntry audited)

/-- The attempts that are left of `_call_with_retry`. -/
def callRemaining (maxAttempts : Nat) (statement : Statement) : Nat → Work statement.Value
  | 0 => throw .valueError
  | remaining + 1 => tryCatch (send statement) fun failure =>
      if failure.isTransientProviderError then
        match remaining with
        | 0 => throw (.retryExhausted (retryMessage maxAttempts failure))
        | _ + 1 => callRemaining maxAttempts statement remaining
      else throw failure

/-- `_call_with_retry`. -/
def callWithRetry (P : Platform) (statement : Statement) : Work statement.Value :=
  callRemaining P.settings.maxRetryAttempts statement P.settings.maxRetryAttempts

/-! ## The signature-gated capture -/

/-- What `verify_and_capture` is called with. -/
structure CaptureArgs where
  providerOrderId : String
  providerPaymentId : String
  providerSignature : String
  amountMinor : Int
  actorId : String
  traceId : String
  deriving DecidableEq

/-- The entry of a failed payment. -/
def paymentFailed (P : Platform) (args : CaptureArgs) (orderId reason : String) : AppendRequest :=
  paymentResult args.traceId args.actorId orderId
    [("status", .str "failed"), ("reason", .str reason),
      ("signature_hash", signatureHash P args.providerSignature)]

/-- `verify_and_capture`. -/
def verifyAndCapture (P : Platform) (args : CaptureArgs) (orderId : String) : Work Unit := do
  if P.verifyCheckoutSignature args.providerOrderId args.providerPaymentId args.providerSignature
  then
    match ← (callWithRetry P (.capturePayment args.providerPaymentId args.amountMinor)).outcome with
    | .ok _ =>
        writePayment orderId .captured (some args.providerPaymentId) none
          (paymentResult args.traceId args.actorId orderId
            [("status", .str "captured"), ("provider_payment_id", .str args.providerPaymentId),
              ("signature_hash", signatureHash P args.providerSignature)])
        send .commit
    | .error failure =>
        if failure.isProviderFailure then
          writePayment orderId .failed none (some (truncated failure.text))
            (paymentFailed P args orderId "capture_failed")
          send .commit
          throw failure
        else throw failure
  else
    writePayment orderId .failed none (some "invalid_checkout_signature")
      (paymentFailed P args orderId "invalid_checkout_signature")
    send .commit
    throw .checkoutSignatureInvalid

/-! ## The ticks of the worker -/

/-- `raise_if_halted`. -/
def raiseIfHalted : Work Unit := do
  let state ← send .getHaltState
  if state.halted then throw (.integrityHalted (state.reason.getD "unknown"))

/-- `_apply_webhook_event`. -/
def applyWebhookEvent (P : Platform) (traceId : String) (event : WebhookEventRecord) :
    Work Unit := do
  let entity := extractPaymentEntity event.payload
  let providerOrderId := ((entity.bind (·.get? "order_id")).getD .null)
  let providerPaymentId := ((entity.bind (·.get? "id")).getD .null)
  if !providerOrderId.truthy then return ()
  match providerOrderId with
  | .str providerOrderId =>
      match ← send (.getOrderByProviderOrderId providerOrderId) with
      | none => return ()
      | some order =>
          if order.status.isTerminal then return ()
          let audited (status : String) : AppendRequest :=
            paymentResult traceId "worker" order.id
              [("status", .str status), ("source", .str "webhook"),
                ("provider_payment_id", providerPaymentId)]
          if event.eventType = "payment.captured" then
            writePayment order.id .captured (some (P.pyStr providerPaymentId)) none
              (audited "captured")
          else if event.eventType = "payment.failed" then
            let paymentId :=
              if providerPaymentId.truthy then some (P.pyStr providerPaymentId) else none
            writePayment order.id .failed paymentId (some "payment.failed webhook")
              (audited "failed")
          else return ()
  | _ => throw .dbapiError

def applyWebhookEvents (P : Platform) (traceId : Nat → String) :
    Nat → List WebhookEventRecord → Work Unit
  | _, [] => pure ()
  | i, event :: events => do
      applyWebhookEvent P (traceId i) event
      let now ← send .now
      send (.markProcessed event.providerEventId now)
      applyWebhookEvents P traceId (i + 1) events

/-- `process_unprocessed_webhooks`. -/
def processUnprocessedWebhooks (P : Platform) (traceId : Nat → String) : Work Unit := do
  raiseIfHalted
  let events ← send .listUnprocessed
  applyWebhookEvents P traceId 0 events
  send .commit

/-- The part of `reconcile_non_terminal_orders` after the provider has answered. -/
def applyPoll (traceId : String) (order : OrderRecord) (payments : List ProviderPayment) :
    Work Unit := do
  let audited (status paymentId : String) : AppendRequest :=
    paymentResult traceId "reconciler" order.id
      [("status", .str status), ("source", .str "reconciler"),
        ("provider_payment_id", .str paymentId)]
  match latestPayment payments with
  | none => return ()
  | some latest =>
      match latest.status with
      | .captured =>
          writePayment order.id .captured (some latest.id) none (audited "captured" latest.id)
      | .failed =>
          let reason := match latest.errorCode with
            | some code => if code = "" then "declined" else code
            | none => "declined"
          writePayment order.id .failed (some latest.id) (some reason) (audited "failed" latest.id)
      | _ => return ()

/-- One order of `reconcile_non_terminal_orders`. -/
def reconcileOrder (P : Platform) (traceId : String) (order : OrderRecord) : Work Unit := do
  match order.providerOrderId with
  | none => return ()
  | some providerOrderId =>
      match ← (callWithRetry P (.fetchPayments providerOrderId)).outcome with
      | .ok payments => applyPoll traceId order payments
      | .error failure => if failure.isProviderFailure then return () else throw failure

def reconcileOrders (P : Platform) (traceId : Nat → String) :
    Nat → List OrderRecord → Work Unit
  | _, [] => pure ()
  | i, order :: orders => do
      reconcileOrder P (traceId i) order
      reconcileOrders P traceId (i + 1) orders

/-- `reconcile_non_terminal_orders`. -/
def reconcileNonTerminalOrders (P : Platform) (traceId : Nat → String) : Work Unit := do
  raiseIfHalted
  let now ← send .now
  let due ← send (.listNonTerminalOlderThan (now - seconds P.settings.reconcileAfterS))
  reconcileOrders P traceId 0 due
  send .commit

end Actl.UnitOfWork
