import Actl.Ledger.Service

/-!
# Payment transactions

The database side of `application/payment_service.py`: what each transaction of
order creation, of the signature-gated capture, of webhook handling and of
reconciliation reads and writes. A transaction that raises has no result, so
nothing it wrote survives.

The readings `now 0`, `now 1`, .. are the successive values of `clock.now()`
within one transaction.
-/

set_option autoImplicit false

namespace Actl.Payments

open Audit (AuditAction)

/-! ## Keys -/

/-- `compute_idempotency_key`. The first 32 digits of the digest are its first
16 bytes. -/
def computeIdempotencyKey (P : Platform) (mandateId intentHash : String) (attemptNo : Int) :
    String :=
  "ik_" ++ hex ((P.sha256 (encode mandateId ++ encode "|" ++ encode intentHash ++ encode "|"
    ++ encode (toString attemptNo))).val.take 16)

/-- What `create_provider_order` is called with. -/
structure OrderArgs where
  orderId : String
  mandateId : String
  decisionId : String
  quoteId : String
  amountMinor : Int
  currency : String
  attemptNo : Int
  intentHash : String
  actorId : String
  traceId : String
  deriving DecidableEq

def OrderArgs.key (P : Platform) (args : OrderArgs) : String :=
  computeIdempotencyKey P args.mandateId args.intentHash args.attemptNo

/-- The hash stored with a claimed key. Nothing compares it. -/
def OrderArgs.requestHash (P : Platform) (args : OrderArgs) : String :=
  P.hexdigest (encode args.orderId ++ encode "|" ++ encode args.mandateId ++ encode "|"
    ++ encode (toString args.amountMinor) ++ encode "|" ++ encode args.currency)

/-- `str(exc)[:500]`. -/
def truncated (message : String) : String := String.ofList (message.toList.take 500)

/-! ## Order creation -/

/-- What the first read of `create_provider_order` finds. -/
inductive KeyLookup where
  | absent
  | completed (order : OrderRecord)
  | inFlight

/-- The first read: a finished attempt's order, or its failure again. -/
def lookupIdempotencyKey (db : Database) (key : String) : Except Failure KeyLookup :=
  match db.getIdempotencyKey key with
  | none => .ok .absent
  | some record =>
      match record.state with
      | .completed =>
          match db.getOrderByIdempotencyKey key with
          | some order => .ok (.completed order)
          | none => .error .assertionError
      | .failed => .error .idempotentAttemptFailed
      | .inFlight => .ok .inFlight

/-- The claim with everything that commits together with it: the order row and
the write-ahead audit entry. A lost claim changes nothing. -/
def claimOrder (P : Platform) (args : OrderArgs) (now : Nat → Time) (db : Database) :
    Except Failure (Bool × Database) :=
  let key := args.key P
  match db.claimIdempotencyKey
    { key := key, requestHash := args.requestHash P, state := .inFlight
      expiresAt := now 0 + seconds P.settings.reservationTtlS } with
  | none => .ok (false, db)
  | some db => do
      let db ← db.addOrder
        { id := args.orderId, mandateId := args.mandateId, decisionId := args.decisionId
          quoteId := args.quoteId, status := .created, amountMinor := args.amountMinor
          currency := args.currency, attemptNo := args.attemptNo, idempotencyKey := key
          providerOrderId := none, providerPaymentId := none, declineReason := none
          createdAt := now 1 }
      let db := db.appendEntry P args.traceId "system" args.actorId .paymentIntent
        (.ofStrings [("order_id", args.orderId), ("mandate_id", args.mandateId)])
        (.obj [("order_id", .str args.orderId), ("mandate_id", .str args.mandateId),
          ("decision_id", .str args.decisionId), ("amount_minor", .int args.amountMinor),
          ("currency", .str args.currency), ("idempotency_key", .str key),
          ("provider", .str P.settings.paymentProvider), ("mode", .str "test")])
      return (true, db)

/-- The failure of the provider call. -/
def recordOrderCreationFailed (P : Platform) (args : OrderArgs) (message : String)
    (db : Database) : Except Failure Database := do
  let db ← db.transitionStatus args.orderId .failed none (some (truncated message))
  let db ← db.completeIdempotencyKey (args.key P) .failed
  return db.appendEntry P args.traceId "system" args.actorId .paymentResult
    (.ofStrings [("order_id", args.orderId)])
    (.ofStrings [("status", "failed"), ("reason", "order_creation_failed")])

/-- The success of the provider call, with the order as it is then. -/
def recordProviderOrder (P : Platform) (args : OrderArgs) (providerOrderId : String)
    (db : Database) : Except Failure (OrderRecord × Database) := do
  let db ← db.setProviderOrderId args.orderId providerOrderId
  let db ← db.completeIdempotencyKey (args.key P) .completed
  match db.getOrder args.orderId with
  | some order => return (order, db)
  | none => throw .assertionError

/-- One poll of `_await_in_flight_completion`; nothing means it goes on waiting. -/
def pollIdempotencyKey (db : Database) (key : String) : Except Failure (Option OrderRecord) :=
  match db.getIdempotencyKey key with
  | none => .ok none
  | some record =>
      match record.state with
      | .completed => .ok (db.getOrderByIdempotencyKey key)
      | .failed => .error .idempotentAttemptFailed
      | .inFlight => .ok none

/-! ## The signature-gated capture -/

/-- The hash of the checkout signature in the audit payload. -/
def signatureHash (P : Platform) (providerSignature : String) : JSONValue :=
  if providerSignature = "" then .null else .str (P.prefixedDigest (encode providerSignature))

/-- The two failures of `verify_and_capture`: the order fails with a decline
reason, the audit entry has its own. -/
def recordPaymentFailed (P : Platform) (orderId declineReason reason : String)
    (signature : JSONValue) (actorId traceId : String) (db : Database) :
    Except Failure Database := do
  let db ← db.transitionStatus orderId .failed none (some declineReason)
  return db.appendEntry P traceId "system" actorId .paymentResult
    (.ofStrings [("order_id", orderId)])
    (.obj [("status", .str "failed"), ("reason", .str reason), ("signature_hash", signature)])

def recordPaymentCaptured (P : Platform) (orderId providerPaymentId : String)
    (signature : JSONValue) (actorId traceId : String) (db : Database) :
    Except Failure Database := do
  let db ← db.transitionStatus orderId .captured (some providerPaymentId) none
  return db.appendEntry P traceId "system" actorId .paymentResult
    (.ofStrings [("order_id", orderId)])
    (.obj [("status", .str "captured"), ("provider_payment_id", .str providerPaymentId),
      ("signature_hash", signature)])

/-! ## Webhooks -/

inductive WebhookReceipt where
  | accepted
  | duplicate
  | invalidSignature
  | missingEventId
  deriving DecidableEq, Repr

structure WebhookDelivery where
  rawBody : Bytes
  signature : String
  eventId : String
  eventType : String
  payload : JSONValue

/-- `process_webhook_delivery`. -/
def processWebhookDelivery (P : Platform) (delivery : WebhookDelivery) (db : Database) :
    WebhookReceipt × Database :=
  if !P.verifyWebhook delivery.rawBody delivery.signature then (.invalidSignature, db)
  else if delivery.eventId = "" then (.missingEventId, db)
  else
    match db.claimWebhookEvent
      { providerEventId := delivery.eventId, eventType := delivery.eventType
        signatureValid := true, payload := delivery.payload, processedAt := none } with
    | some db => (.accepted, db)
    | none => (.duplicate, db)

/-- `extract_payment_entity`. -/
def extractPaymentEntity (payload : JSONValue) : Option JSONValue := do
  let body ← payload.get? "payload"
  let payment ← body.get? "payment"
  let entity ← payment.get? "entity"
  if entity.isObject then some entity else none

/-- `_apply_webhook_event`. -/
def applyWebhookEvent (P : Platform) (traceId actorId : String) (event : WebhookEventRecord)
    (db : Database) : Except Failure Database := do
  let entity := extractPaymentEntity event.payload
  let providerOrderId := ((entity.bind (·.get? "order_id")).getD .null)
  let providerPaymentId := ((entity.bind (·.get? "id")).getD .null)
  if !providerOrderId.truthy then return db
  match providerOrderId with
  | .str providerOrderId =>
      match ← db.getOrderByProviderOrderId providerOrderId with
      | none => return db
      | some order =>
          if order.status.isTerminal then return db
          let audited (db : Database) (status : String) : Database :=
            db.appendEntry P traceId "system" actorId .paymentResult
              (.ofStrings [("order_id", order.id)])
              (.obj [("status", .str status), ("source", .str "webhook"),
                ("provider_payment_id", providerPaymentId)])
          if event.eventType = "payment.captured" then
            let db ← db.transitionStatus order.id .captured (some (P.pyStr providerPaymentId)) none
            return audited db "captured"
          else if event.eventType = "payment.failed" then
            let paymentId :=
              if providerPaymentId.truthy then some (P.pyStr providerPaymentId) else none
            let db ← db.transitionStatus order.id .failed paymentId
              (some "payment.failed webhook")
            return audited db "failed"
          else return db
  -- A value that is not a text cannot be compared with the column.
  | _ => throw .dbapiError

/-- The loop of `process_unprocessed_webhooks` over its events. -/
def applyWebhookEvents (P : Platform) (now : Nat → Time) (traceId : Nat → String) :
    Nat → List WebhookEventRecord → Database → Except Failure Database
  | _, [], db => .ok db
  | i, event :: events, db => do
      let db ← applyWebhookEvent P (traceId i) "worker" event db
      let db ← db.markProcessed event.providerEventId (now i)
      applyWebhookEvents P now traceId (i + 1) events db

/-- `process_unprocessed_webhooks`. -/
def processUnprocessedWebhooks (P : Platform) (now : Nat → Time) (traceId : Nat → String)
    (db : Database) : Except Failure Database := do
  db.raiseIfHalted
  applyWebhookEvents P now traceId 0 db.listUnprocessed db

/-! ## Reconciliation -/

/-- The states a payment has at the provider. -/
inductive PaymentStatus where
  | created
  | authorized
  | captured
  | refunded
  | failed
  deriving DecidableEq, Repr

/-- The fields of a `ProviderPayment` that are read. -/
structure ProviderPayment where
  id : String
  status : PaymentStatus
  errorCode : Option String
  deriving DecidableEq

/-- `_latest_payment`. -/
def latestPayment (payments : List ProviderPayment) : Option ProviderPayment :=
  ((payments.find? (·.status = .captured)).or (payments.find? (·.status = .failed))).or
    payments.getLast?

/-- One order of `reconcile_non_terminal_orders`, given what the polled provider
call ended with. -/
def reconcileOrder (P : Platform) (traceId : String)
    (poll : Except Failure (List ProviderPayment)) (order : OrderRecord) (db : Database) :
    Except Failure Database :=
  let audited (db : Database) (status paymentId : String) : Database :=
    db.appendEntry P traceId "system" "reconciler" .paymentResult
      (.ofStrings [("order_id", order.id)])
      (.ofStrings [("status", status), ("source", "reconciler"),
        ("provider_payment_id", paymentId)])
  match order.providerOrderId with
  | none => .ok db
  | some _ =>
      match poll with
      | .error failure => if failure.isProviderFailure then .ok db else .error failure
      | .ok payments =>
          match latestPayment payments with
          | none => .ok db
          | some latest =>
              match latest.status with
              | .captured => do
                  let db ← db.transitionStatus order.id .captured (some latest.id) none
                  return audited db "captured" latest.id
              | .failed => do
                  let reason := match latest.errorCode with
                    | some code => if code = "" then "declined" else code
                    | none => "declined"
                  let db ← db.transitionStatus order.id .failed (some latest.id) (some reason)
                  return audited db "failed" latest.id
              | _ => .ok db

def reconcileOrders (P : Platform) (traceId : Nat → String)
    (polls : Nat → Except Failure (List ProviderPayment)) :
    Nat → List OrderRecord → Database → Except Failure Database
  | _, [], db => .ok db
  | i, order :: orders, db => do
      let db ← reconcileOrder P (traceId i) (polls i) order db
      reconcileOrders P traceId polls (i + 1) orders db

/-- `reconcile_non_terminal_orders`. -/
def reconcileNonTerminalOrders (P : Platform) (now : Nat → Time) (traceId : Nat → String)
    (polls : Nat → Except Failure (List ProviderPayment)) (db : Database) :
    Except Failure Database := do
  db.raiseIfHalted
  let cutoff := now 0 - seconds P.settings.reconcileAfterS
  reconcileOrders P traceId polls 0 (db.listNonTerminalOlderThan cutoff) db

end Actl.Payments
