import Actl.Foundation.Program
import Actl.Payments.Service

/-!
# The gate's transaction and the compensations

Gates G1 to G5 of `application/gate.py`, which run in one transaction that
commits only when all of them pass, and the transactions of
`application/compensations.py`.
-/

set_option autoImplicit false

namespace Actl.Gate

open Mandates (MandateStatus Mandate transition verifySpecHash verifySignature)
open Policy (ReasonCode Verdict)

structure MoneyActionRequest where
  traceId : String
  mandateId : String
  decisionId : String
  quoteId : String
  intentHash : String
  amountMinor : Int
  currency : String
  attemptNo : Int
  actorId : String
  deriving DecidableEq

structure MoneyActionResult where
  verdict : Verdict
  reasonCode : ReasonCode
  traceId : String
  orderId : Option String := none
  providerOrderId : Option String := none
  duplicate : Bool := false
  deriving DecidableEq

def deny (code : ReasonCode) (traceId : String) : MoneyActionResult where
  verdict := .deny
  reasonCode := code
  traceId := traceId

namespace MoneyActionRequest

variable (req : MoneyActionRequest)

def key (P : Platform) : String :=
  Payments.computeIdempotencyKey P req.mandateId req.intentHash req.attemptNo

/-- The precheck before G1. -/
def isMalformed : Bool :=
  req.amountMinor ≤ 0 ∨ req.mandateId = "" ∨ req.decisionId = "" ∨ req.quoteId = ""

/-- What the gate passes on to `create_provider_order`. -/
def orderArgs (orderId : String) : Payments.OrderArgs where
  orderId := orderId
  mandateId := req.mandateId
  decisionId := req.decisionId
  quoteId := req.quoteId
  amountMinor := req.amountMinor
  currency := req.currency
  attemptNo := req.attemptNo
  intentHash := req.intentHash
  actorId := req.actorId
  traceId := req.traceId

end MoneyActionRequest

/-! ## G1 to G5 -/

/-- How the gates end early: with a denial, or with an exception. -/
inductive GateExit where
  | deny (code : ReasonCode)
  | raise (failure : Failure)

def check (ok : Bool) (code : ReasonCode) : Except GateExit Unit :=
  if ok then .ok () else .error (.deny code)

/-- G1: the mandate is there, in force, unaltered, signed and not expired. -/
def g1 (P : Platform) (req : MoneyActionRequest) (now : Time) (db : Database) :
    Except GateExit MandateRow :=
  match db.getMandate req.mandateId with
  | none => .error (.deny .mandateInvalid)
  | some row => do
      let mandate := row.mandate
      check (row.status ≠ .revoked) .mandateRevoked
      check (row.status = .locked ∨ row.status = .executing) .mandateInvalid
      check (verifySpecHash P mandate) .mandateTampered
      match mandate.specHash, mandate.signature with
      | some specHash, some signature =>
          check (verifySignature P specHash P.settings.mandateSigningKey signature.value)
            .mandateUnsigned
      | _, _ => .error (.deny .mandateUnsigned)
      check (now < mandate.temporal.expiresAt) .mandateExpired
      return row

/-- G2 and G3: the decision is for this intent and this mandate, fresh, and an
ALLOW. -/
def g2g3 (req : MoneyActionRequest) (mandate : Mandate) (now : Time) (db : Database) :
    Except GateExit Unit :=
  match db.decisions.get? Policy.DecisionRecord.decisionId req.decisionId with
  | none => .error (.deny .intentMismatch)
  | some decision => do
      check (decision.intentHash = req.intentHash) .intentMismatch
      check (some decision.mandateSpecHash = mandate.specHash) .intentMismatch
      check (now - decision.evaluatedAt ≤ seconds decision.ttlS) .decisionStale
      if decision.verdict ≠ .allow then
        match decision.reasonCodes with
        | code :: _ => .error (.deny code)
        | [] => .error (.raise (.other "list index out of range"))

/-- G5: the quote is live and the catalog has not changed. -/
def g5 (req : MoneyActionRequest) (now : Time) (db : Database) : Except GateExit Unit :=
  match db.quotes.get? QuoteRecord.id req.quoteId with
  | none => .error (.deny .quoteExpired)
  | some quote => do
      check (now < quote.expiresAt) .quoteExpired
      check (quote.catalogVersion = db.catalogVersion) .stalePrice

/-- LOCKED becomes EXECUTING on the mandate's first pass through the gate. The
guard is told that no transaction has been made yet. -/
def markExecuting (row : MandateRow) (now : Time) (db : Database) : Except GateExit Database :=
  if row.status = .locked then
    match transition row.status .propose
      { now := some now, expiresAt := some row.mandate.temporal.expiresAt, txnCount := 0
        maxTransactions := row.mandate.bounds.maxTransactions } with
    | .ok status => .ok (db.updateMandateStatus row.id status)
    | .error failure => .error (.raise failure)
  else .ok db

/-- `_run_g1_through_g5` with the commit of its caller: the store it commits. -/
def runG1ThroughG5 (P : Platform) (req : MoneyActionRequest) (key : String) (now : Nat → Time)
    (db : Database) : Except GateExit Database := do
  let row ← g1 P req (now 0) db
  g2g3 req row.mandate (now 1) db
  -- G4 reserves before the freshness of G5 is known.
  let reserved := Ledger.reserve db (fun i => now (i + 2)) req.mandateId req.amountMinor
    row.mandate.bounds.maxTotalMinor key
  check reserved.1.isSome .budgetExceeded
  g5 req (now 4) reserved.2
  let db ← markExecuting row (now 5) reserved.2
  return db.appendEntry P req.traceId "system" req.actorId .budgetReserved
    (.ofStrings [("mandate_id", req.mandateId), ("ref_id", key)])
    (.obj [("mandate_id", .str req.mandateId), ("ref_id", .str key),
      ("amount_minor", .int req.amountMinor), ("currency", .str req.currency)])

/-- `_attempt_g1_through_g5`: a denial rolls everything back. -/
def attemptG1ThroughG5 (P : Platform) (req : MoneyActionRequest) (key : String)
    (now : Nat → Time) (db : Database) : Except Failure (Option MoneyActionResult × Database) :=
  match runG1ThroughG5 P req key now db with
  | .ok db => .ok (none, db)
  | .error (.deny code) => .ok (some (deny code req.traceId), db)
  | .error (.raise failure) => .error failure

/-! ## Compensations -/

/-- `_mark_compensated`. -/
def markCompensated (db : Database) (mandateId : String) : Except Failure Database :=
  match db.getMandate mandateId with
  | none => .ok db
  | some row =>
      if row.status = .executing then do
        let status ← transition .executing .failure { allCompensationsConfirmed := true }
        return db.updateMandateStatus mandateId status
      else .ok db

/-- What the compensations share: the mandate and the reservation they are for,
and how they are recorded. -/
structure Compensation where
  mandateId : String
  amountMinor : Int
  refId : String
  actorId : String
  traceId : String
  reason : String
  deriving DecidableEq

/-- The audit entry of a compensation and the mandate's new status. -/
def recordCompensation (P : Platform) (c : Compensation) (orderId : Option String)
    (outcomeName : String) (outcome : Bool) (db : Database) : Except Failure Database :=
  let order := match orderId with
    | some orderId => [("order_id", orderId)]
    | none => []
  let names := [("mandate_id", c.mandateId)] ++ order ++ [("ref_id", c.refId)]
  markCompensated (db.appendEntry P c.traceId "system" c.actorId .compensationApplied
    (.ofStrings names)
    (.obj (names.map (fun (name, value) => (name, .str value)) ++
      [("amount_minor", .int c.amountMinor), ("reason", .str c.reason),
        (outcomeName, .bool outcome)]))) c.mandateId

/-- `release_reservation_and_mark_compensated`. -/
def releaseReservationAndMarkCompensated (P : Platform) (c : Compensation) (now : Nat → Time)
    (db : Database) : Except Failure Database :=
  let released := Ledger.release db now c.mandateId c.amountMinor c.refId
  recordCompensation P c none "released" released.1 released.2

/-- The order fails, unless it is one that is left alone. -/
def failOrder (leftAlone : OrderStatus → Bool) (orderId reason : String) (db : Database) :
    Except Failure Database :=
  match db.getOrder orderId with
  | none => .ok db
  | some order =>
      if leftAlone order.status then .ok db
      else db.transitionStatus orderId .failed none (some reason)

/-- `void_order_and_release_reservation`: a terminal order is left alone, the
reservation is released all the same. -/
def voidOrderAndReleaseReservation (P : Platform) (c : Compensation) (orderId : String)
    (now : Nat → Time) (db : Database) : Except Failure Database := do
  let db ← failOrder OrderStatus.isTerminal orderId c.reason db
  let released := Ledger.release db now c.mandateId c.amountMinor c.refId
  recordCompensation P c (some orderId) "released" released.1 released.2

/-- The transaction of `refund_and_reverse_settlement`, after the refund: here a
captured order is the one to be failed. -/
def reverseSettlementAfterRefund (P : Platform) (c : Compensation) (orderId : String)
    (now : Nat → Time) (db : Database) : Except Failure Database := do
  let db ← failOrder (· = .failed) orderId c.reason db
  let reversed := Ledger.reverseSettlement db now c.mandateId c.amountMinor c.refId
  recordCompensation P c (some orderId) "reversed" reversed.1 reversed.2

end Actl.Gate
