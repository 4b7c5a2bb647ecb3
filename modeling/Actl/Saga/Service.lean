import Actl.Gate.Service

/-!
# Saga transactions

The transactions of `application/orchestrator/saga.py` on the saga row, the
settlement of S5, and the transaction of `handle_order_propose` that decides
about a proposed order.
-/

set_option autoImplicit false

namespace Actl.Saga

open Audit (AuditAction)
open Mandates (MandateStatus transition)
open Policy (ReasonCode Verdict PurchaseIntent PolicyContext computeIntentHash evaluate)
open Gate (MoneyActionRequest MoneyActionResult Compensation)

structure SagaSnapshot where
  sagaId : String
  mandateId : String
  status : SagaStatus
  step : String
  orderId : Option String
  reasonCode : Option ReasonCode
  deriving DecidableEq

def snapshot (record : SagaRecord) (reasonCode : Option ReasonCode := none) : SagaSnapshot where
  sagaId := record.id
  mandateId := record.mandateId
  status := record.status
  step := record.step
  orderId := record.orderId
  reasonCode := reasonCode

/-! ## begin_purchase -/

/-- S1: the saga row, written unless it is there. A row that is no longer
running is the answer. -/
def openSaga (req : MoneyActionRequest) (key : String) (db : Database) :
    Except Failure (Option SagaRecord × Database) :=
  match db.getSaga key with
  | some existing => .ok (if existing.status = .running then none else some existing, db)
  | none => do
      let db ← db.addSaga
        { id := key, mandateId := req.mandateId, decisionId := req.decisionId
          quoteId := req.quoteId, amountMinor := req.amountMinor, currency := req.currency
          step := "S1_RESERVE", status := .running, orderId := none }
      return (none, db)

/-- A write of the saga row and the row as it then is. -/
def writeSaga (sagaId step : String) (status : SagaStatus) (orderId : Option String)
    (db : Database) : Except Failure (SagaRecord × Database) := do
  let db ← db.updateSaga sagaId step status orderId
  match db.getSaga sagaId with
  | some final => return (final, db)
  | none => throw .assertionError

/-- The end of `begin_purchase`: what the gate's answer makes of the saga. -/
def resolveSaga (key : String) (result : MoneyActionResult) (db : Database) :
    Except Failure (SagaRecord × Database) :=
  match result.verdict with
  | .allow => writeSaga key "S3_AUTHORIZE" .awaitingAuthorization result.orderId db
  | .deny => writeSaga key ("DENY_" ++ result.reasonCode.value) .failed none db

/-! ## complete_purchase -/

/-- EXECUTING becomes SETTLED. -/
def markSettled (db : Database) (mandateId : String) (amountMinor : Int) :
    Except Failure Database :=
  match db.getMandate mandateId with
  | none => .ok db
  | some row =>
      if row.status = .executing then do
        let status ← transition .executing .captured
          { reservedMinor := amountMinor, capturedMinor := amountMinor }
        return db.updateMandateStatus mandateId status
      else .ok db

/-- S5: the ledger capture and, when it succeeds, the mandate's settlement, the
audit close and the completed saga, all in one transaction. -/
def settle (P : Platform) (saga : SagaRecord) (orderId providerPaymentId actorId traceId : String)
    (now : Nat → Time) (db : Database) : Except Failure (Option SagaRecord × Database) :=
  let captured := Ledger.capture db now saga.mandateId saga.amountMinor saga.id
  if captured.1 then do
    let db ← markSettled captured.2 saga.mandateId saga.amountMinor
    let db := db.appendEntry P traceId "system" actorId .settlementClosed
      (.ofStrings [("order_id", orderId), ("mandate_id", saga.mandateId)])
      (.obj [("order_id", .str orderId), ("mandate_id", .str saga.mandateId),
        ("amount_minor", .int saga.amountMinor), ("provider_payment_id", .str providerPaymentId)])
    let written ← writeSaga saga.id "S5_SETTLE" .completed none db
    return (some written.1, written.2)
  else .ok (none, captured.2)

/-! ## handle_order_propose -/

structure ProposeArgs where
  quoteId : String
  quoteHash : String
  mandateId : String
  mandateSpecHash : String
  intentHash : String
  traceId : String
  actorId : String
  deriving DecidableEq

/-- What the proposal transaction ends with. -/
inductive Proposal where
  | rejected (code : ReasonCode)
  | allowed (req : MoneyActionRequest)

/-- The checks on the mandate and the quote, and the intent the merchant derives
from them. -/
def deriveIntent (P : Platform) (args : ProposeArgs) (now : Time) (db : Database) :
    Except ReasonCode (MandateRow × QuoteRecord × PurchaseIntent) :=
  match db.getMandate args.mandateId with
  | none => .error .mandateInvalid
  | some row =>
      let mandate := row.mandate
      if row.status = .revoked then .error .mandateRevoked
      else if ¬ (row.status = .locked ∨ row.status = .executing) then .error .mandateInvalid
      else if mandate.temporal.expiresAt ≤ now then .error .mandateExpired
      else if mandate.specHash ≠ some args.mandateSpecHash then .error .mandateTampered
      else
        match db.quotes.get? QuoteRecord.id args.quoteId with
        | none => .error .stalePrice
        | some quote =>
            if quote.mandateId ≠ mandate.mandateId then .error .stalePrice
            else if quote.quoteHash ≠ args.quoteHash then .error .stalePrice
            else
              match db.items.get? CatalogItemRecord.sku quote.sku with
              | none => .error .stalePrice
              | some item =>
                  let draft : PurchaseIntent :=
                    { currency := mandate.bounds.currency
                      category := item.category
                      merchant := item.merchantId
                      unitPriceMinor := quote.unitPriceMinor
                      totalMinor := quote.totalMinor
                      nights := quote.nights
                      rooms := mandate.intent.rooms
                      refundable := quote.refundable
                      quotedTotalMinor := quote.totalMinor
                      currentTotalMinor := item.unitPriceMinor * quote.nights
                      catalogVersion := quote.catalogVersion
                      mandateSpecHash := mandate.specHash.getD ""
                      intentHash := "" }
                  let computed := computeIntentHash P draft
                  if computed ≠ args.intentHash then .error .intentMismatch
                  else .ok (row, quote, { draft with intentHash := computed })

/-- The transaction of `handle_order_propose`. The policy is told that no
transaction has been made yet. -/
def proposeOrder (P : Platform) (args : ProposeArgs) (decisionId : String) (now : Nat → Time)
    (db : Database) : Except Failure (Proposal × Database) :=
  match deriveIntent P args (now 0) db with
  | .error code => .ok (.rejected code, db)
  | .ok (row, quote, intent) =>
      let decision := evaluate P row.mandate intent
        { now := now 1
          reservedMinor := Ledger.committedTotal db row.id
          txnCount := 0
          catalogVersion := db.catalogVersion
          decisionId := decisionId
          decisionTtlS := P.settings.decisionTtlS }
      match db.decisions.insert? decision with
      | none => .error .dbapiError
      | some decisions =>
          let db := { db with decisions }
          let db := db.appendEntry P args.traceId "agent" args.actorId .orderProposed
            (.ofStrings [("mandate_id", row.id), ("quote_id", args.quoteId)])
            (.obj [("mandate_id", .str row.id), ("quote_id", .str args.quoteId),
              ("verdict", .str (if decision.verdict = .allow then "ALLOW" else "DENY")),
              ("reason_codes", .arr (decision.reasonCodes.map fun code => .str code.value))])
          if decision.verdict = .allow then
            .ok (.allowed
              { traceId := args.traceId
                mandateId := row.id
                decisionId := decision.decisionId
                quoteId := args.quoteId
                intentHash := intent.intentHash
                amountMinor := quote.totalMinor
                currency := quote.currency
                attemptNo := 1
                actorId := args.actorId }, db)
          else .ok (.rejected (decision.reasonCodes.headD .ok), db)

end Actl.Saga
