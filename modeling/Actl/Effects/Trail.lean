import Actl.Audit.Trail
import Actl.Effects.Growth
import Actl.Effects.Holds
import Actl.Effects.Proposals
import Actl.Effects.Rows

/-!
# What the actions write into the audit log

Each entry an action appends is about what the action does (`Writes`), and what it rests
on was in the store before: a result is that of an order, an expiry that of a
reservation, a proposal is for a quote. What is added to the store is logged with it, so
the quotes, the decisions, the reservations and the orders of a store all have their
entries in its log (`Evidenced`).
-/

set_option autoImplicit false

namespace Actl

open Foundation (Table bind_eq_ok)
open Audit (AuditEntry AuditAction Field Shown)
open Payments (OrderArgs)
open Gate (MoneyActionRequest Compensation)
open Ledger (phaseOf Orderly)

/-! ## Appending -/

/-- The transaction decides nothing, and what it appends to the log is of this kind. -/
structure Database.Appends (db db' : Database) (writes : AuditEntry → Prop) : Prop where
  entries : ∃ added, db'.auditLog.entries = db.auditLog.entries ++ added ∧ ∀ e ∈ added, writes e
  decisions : db'.decisions = db.decisions

namespace Database.Appends

variable {db db' db'' : Database} {writes writes' : AuditEntry → Prop}

theorem of_eq (audit : db'.auditLog = db.auditLog) (decisions : db'.decisions = db.decisions) :
    db.Appends db' writes :=
  ⟨⟨[], by rw [audit, List.append_nil], fun _ member => by cases member⟩, decisions⟩

theorem refl (db : Database) (writes : AuditEntry → Prop) : db.Appends db writes := of_eq rfl rfl

theorem trans (first : db.Appends db' writes) (second : db'.Appends db'' writes) :
    db.Appends db'' writes := by
  obtain ⟨added, entries, fits⟩ := first.entries
  obtain ⟨added', entries', fits'⟩ := second.entries
  refine ⟨⟨added ++ added', by rw [entries', entries, List.append_assoc], fun e member => ?_⟩,
    second.decisions.trans first.decisions⟩
  exact (List.mem_append.mp member).elim (fits e) (fits' e)

theorem mono (appends : db.Appends db' writes) (weaker : ∀ e, writes e → writes' e) :
    db.Appends db' writes' := by
  obtain ⟨added, entries, fits⟩ := appends.entries
  exact ⟨⟨added, entries, fun e member => weaker e (fits e member)⟩, appends.decisions⟩

theorem subset (appends : db.Appends db' writes) :
    db.auditLog.entries ⊆ db'.auditLog.entries := by
  obtain ⟨added, entries, -⟩ := appends.entries
  rw [entries]
  exact List.subset_append_left _ _

end Database.Appends

section Told

variable {subject payload : JSONValue}

/-- The subject and the payload have these texts. -/
def Told (subject payload : JSONValue) (texts : List (Field × String)) : Prop :=
  ∀ pair ∈ texts, pair.1.text? subject payload = some pair.2

@[simp] theorem told_nil : Told subject payload [] ↔ True :=
  iff_true_intro fun _ member => by cases member

@[simp] theorem told_cons {field : Field} {text : String} {texts : List (Field × String)} :
    Told subject payload ((field, text) :: texts) ↔
      field.text? subject payload = some text ∧ Told subject payload texts :=
  List.forall_mem_cons

theorem told_one {field : Field} {text : String} (told : field.text? subject payload = some text) :
    Told subject payload [(field, text)] :=
  told_cons.mpr ⟨told, told_nil.mpr trivial⟩

end Told

section AppendEntry

variable (texts : List (Field × String)) (db : Database) (P : Platform)
variable (traceId actorType actorId : String) {action : AuditAction} {subject payload : JSONValue}

/-- The entry that `append_entry` appends has the texts of its subject and its payload. -/
theorem appendEntry_shows
    (told : Told subject payload texts) :
    ∃ entry : AuditEntry, entry.Shows action texts ∧
      (db.appendEntry P traceId actorType actorId action subject payload).auditLog.entries =
        db.auditLog.entries ++ [entry] := by
  let entry : AuditEntry :=
    { traceId, actorType, actorId, action, subject, payload
      payloadHash := Audit.payloadHash P payload
      prevHash := (db.auditLog.entries.getLast?.map AuditEntry.entryHash).getD Audit.genesisPrevHash
      entryHash := Audit.computeEntryHash P
        ((db.auditLog.entries.getLast?.map AuditEntry.entryHash).getD Audit.genesisPrevHash)
        payload }
  refine ⟨entry, ⟨rfl, told⟩, ?_⟩
  unfold Database.appendEntry Audit.AuditLog.appendEntry
  dsimp only
  split
  · exact entries_writeCheckpoint ..
  · rfl

theorem appends_appendEntry
    (told : Told subject payload texts) :
    db.Appends (db.appendEntry P traceId actorType actorId action subject payload)
      (fun e => e.Shows action texts) := by
  obtain ⟨entry, shows, entries⟩ := appendEntry_shows texts db P traceId actorType actorId told
  refine ⟨⟨[entry], entries, fun e member => ?_⟩, rfl⟩
  rw [List.mem_singleton.mp member]
  exact shows

theorem shown_appendEntry
    (told : Told subject payload texts) :
    Shown (db.appendEntry P traceId actorType actorId action subject payload).auditLog.entries
      action texts := by
  obtain ⟨entry, shows, entries⟩ := appendEntry_shows texts db P traceId actorType actorId told
  exact ⟨entry, by rw [entries]; simp, shows⟩

end AppendEntry

/-! ## What is not logged -/

section Silent

variable {db db' : Database} {writes : AuditEntry → Prop}

theorem appends_transitionStatus {orderId : String} {status : OrderStatus}
    {paymentId reason : Option String}
    (done : db.transitionStatus orderId status paymentId reason = .ok db') :
    db.Appends db' writes := by
  unfold Database.transitionStatus at done
  split at done
  · cases done
  · cases done
    exact .of_eq rfl rfl

theorem appends_completeIdempotencyKey {key : String} {state : KeyState}
    (done : db.completeIdempotencyKey key state = .ok db') : db.Appends db' writes := by
  unfold Database.completeIdempotencyKey at done
  split at done
  · cases done
  · cases done
    exact .of_eq rfl rfl

theorem appends_addOrder {order : OrderRecord} (done : db.addOrder order = .ok db') :
    db.Appends db' writes := by
  unfold Database.addOrder at done
  split at done
  · split at done
    · cases done
      exact .of_eq rfl rfl
    · cases done
  · cases done

theorem appends_recordProviderOrder {P : Platform} {args : OrderArgs} {providerOrderId : String}
    {order : OrderRecord}
    (done : Payments.recordProviderOrder P args providerOrderId db = .ok (order, db')) :
    db.Appends db' writes := by
  obtain ⟨db₁, set, rest⟩ := bind_eq_ok.mp done
  obtain ⟨db₂, completed, last⟩ := bind_eq_ok.mp rest
  split at last
  · cases last
    unfold Database.setProviderOrderId at set
    split at set
    · cases set
    · cases set
      refine Database.Appends.trans ?_ (appends_completeIdempotencyKey completed)
      exact .of_eq rfl rfl
  · cases last

section Ledger

variable (now : Nat → Time) (mandateId refId : String) (amountMinor : Int)

theorem appends_reserve (maxTotalMinor : Int) :
    db.Appends (Ledger.reserve db now mandateId amountMinor maxTotalMinor refId).2 writes := by
  unfold Ledger.reserve
  split
  · exact .refl ..
  · split
    · exact .refl ..
    · dsimp only
      split
      · exact .refl ..
      · exact .of_eq rfl rfl

theorem appends_capture :
    db.Appends (Ledger.capture db now mandateId amountMinor refId).2 writes := by
  unfold Ledger.capture
  split
  · exact .refl ..
  · split
    · exact .refl ..
    · exact .of_eq rfl rfl
    · exact .refl ..

theorem appends_release :
    db.Appends (Ledger.release db now mandateId amountMinor refId).2 writes := by
  unfold Ledger.release
  split
  · exact .refl ..
  · split
    · exact .refl ..
    · exact .of_eq rfl rfl
    · exact .refl ..

theorem appends_reverseSettlement :
    db.Appends (Ledger.reverseSettlement db now mandateId amountMinor refId).2 writes := by
  unfold Ledger.reverseSettlement
  split
  · exact .refl ..
  · dsimp only
    split
    · exact .refl ..
    · split
      · exact .of_eq rfl rfl
      · exact .refl ..

end Ledger

theorem appends_markCompensated {mandateId : String}
    (done : Gate.markCompensated db mandateId = .ok db') : db.Appends db' writes := by
  unfold Gate.markCompensated at done
  split at done
  · cases done
    exact .refl ..
  · split at done
    · cases done
      exact .of_eq rfl rfl
    · cases done
      exact .refl ..

theorem appends_failOrder {leftAlone : OrderStatus → Bool} {orderId reason : String}
    (done : Gate.failOrder leftAlone orderId reason db = .ok db') : db.Appends db' writes := by
  unfold Gate.failOrder at done
  split at done
  · cases done
    exact .refl ..
  · split at done
    · cases done
      exact .refl ..
    · exact appends_transitionStatus done

theorem appends_writeSaga {sagaId step : String} {status : SagaStatus} {orderId : Option String}
    {final : SagaRecord} (done : Saga.writeSaga sagaId step status orderId db = .ok (final, db')) :
    db.Appends db' writes := by
  obtain ⟨db₁, updated, rest⟩ := bind_eq_ok.mp done
  unfold Database.updateSaga at updated
  split at updated
  · cases updated
  · cases updated
    split at rest
    · cases rest
      exact .of_eq rfl rfl
    · cases rest

theorem appends_openSaga {req : MoneyActionRequest} {key : String} {existing : Option SagaRecord}
    (done : Saga.openSaga req key db = .ok (existing, db')) : db.Appends db' writes := by
  unfold Saga.openSaga at done
  split at done
  · cases done
    exact .refl ..
  · obtain ⟨db₁, added, rest⟩ := bind_eq_ok.mp done
    cases rest
    unfold Database.addSaga at added
    split at added
    · split at added
      · cases added
        exact .of_eq rfl rfl
      · cases added
    · cases added

theorem appends_markSettled {mandateId : String} {amountMinor : Int}
    (done : Saga.markSettled db mandateId amountMinor = .ok db') : db.Appends db' writes := by
  unfold Saga.markSettled at done
  split at done
  · cases done
    exact .refl ..
  · split at done
    · obtain ⟨status, -, rest⟩ := bind_eq_ok.mp done
      cases rest
      exact .of_eq rfl rfl
    · cases done
      exact .refl ..

theorem appends_markExecuting {row : MandateRow} {now : Time}
    (done : Gate.markExecuting row now db = .ok db') : db.Appends db' writes := by
  unfold Gate.markExecuting at done
  split at done
  · split at done
    · cases done
      exact .of_eq rfl rfl
    · cases done
  · cases done
    exact .refl ..

theorem appends_markProcessed {eventId : String} {processedAt : Time}
    (done : db.markProcessed eventId processedAt = .ok db') : db.Appends db' writes := by
  unfold Database.markProcessed at done
  split at done
  · cases done
  · cases done
    exact .of_eq rfl rfl

theorem appends_processWebhookDelivery (P : Platform) (delivery : Payments.WebhookDelivery)
    (db : Database) : db.Appends (Payments.processWebhookDelivery P delivery db).2 writes := by
  unfold Payments.processWebhookDelivery
  split
  · exact .refl ..
  · split
    · exact .refl ..
    · split
      · rename_i claimed
        obtain ⟨events, -, rfl⟩ := Option.map_eq_some_iff.mp claimed
        exact .of_eq rfl rfl
      · exact .refl ..

theorem appends_tripIntegrity (db : Database) (reason : String) (trippedSeq : Option Int)
    (now : Time) : db.Appends (db.tripIntegrity reason trippedSeq now) writes := by
  unfold Database.tripIntegrity
  split
  · exact .refl ..
  · exact .of_eq rfl rfl

end Silent

/-! ## What is logged -/

/-- The entry tells the result of a payment for an order. -/
def ResultOf (orders : OrderTable) (entry : AuditEntry) : Prop :=
  ∃ o ∈ orders, entry.Shows .paymentResult [(.subject "order_id", o.id)]

section Payments

variable {P : Platform} {db db' : Database}

theorem ResultOf.before {orders orders' : OrderTable} {changes : OrderRecord → OrderStatus → Prop}
    {entry : AuditEntry} (result : ResultOf orders' entry)
    (step : OrdersStep orders orders' changes) : ResultOf orders entry := by
  obtain ⟨o', member', shows⟩ := result
  obtain ⟨o, member, same, -⟩ := step.backward o' member'
  exact ⟨o, member, same.id ▸ shows⟩

/-- A transition and the entry of its result. -/
theorem appends_result {orderId traceId actorType actorId : String} {status : OrderStatus}
    {paymentId reason : Option String} {payload : JSONValue}
    (done : db.transitionStatus orderId status paymentId reason = .ok db') :
    db.Appends (db'.appendEntry P traceId actorType actorId .paymentResult
      (.ofStrings [("order_id", orderId)]) payload) (ResultOf db.orders) := by
  obtain ⟨-, ⟨o, member, mine⟩, -⟩ := transitionStatus_ok done
  exact (appends_transitionStatus done).trans ((appends_appendEntry [(.subject "order_id", orderId)]
    db' P traceId actorType actorId (told_one rfl)).mono fun e shows => ⟨o, member, mine ▸ shows⟩)

/-- The texts of the entry that is written ahead of the provider call. -/
def OrderArgs.texts (P : Platform) (args : OrderArgs) : List (Field × String) :=
  [(.subject "order_id", args.orderId), (.subject "mandate_id", args.mandateId),
    (.payload "idempotency_key", args.key P)]

theorem appends_claimOrder {args : OrderArgs} {now : Nat → Time} {won : Bool}
    (done : Payments.claimOrder P args now db = .ok (won, db')) :
    db.Appends db' (fun e => e.Shows .paymentIntent (OrderArgs.texts P args)) ∧
      (won = true → Shown db'.auditLog.entries .paymentIntent (OrderArgs.texts P args)) := by
  unfold Payments.claimOrder at done
  dsimp only at done
  split at done
  · cases done
    exact ⟨.refl .., fun won => by cases won⟩
  · rename_i claimed inserted
    obtain ⟨keys, -, rfl⟩ := Option.map_eq_some_iff.mp inserted
    obtain ⟨ordered, added, rest⟩ := bind_eq_ok.mp done
    cases rest
    have claimed' : db.Appends { db with idempotencyKeys := keys }
        (fun e => e.Shows .paymentIntent (OrderArgs.texts P args)) := .of_eq rfl rfl
    refine ⟨claimed'.trans ((appends_addOrder added).trans (appends_appendEntry _ _ _ _ _ _ ?_)),
      fun _ => shown_appendEntry _ _ _ _ _ _ ?_⟩ <;>
      simp only [OrderArgs.texts, told_cons, told_nil, and_true] <;>
      exact ⟨rfl, rfl, rfl⟩

theorem appends_recordOrderCreationFailed {args : OrderArgs} {message : String}
    (done : Payments.recordOrderCreationFailed P args message db = .ok db') :
    db.Appends db' (ResultOf db.orders) := by
  obtain ⟨db₁, failed, rest⟩ := bind_eq_ok.mp done
  obtain ⟨db₂, completed, last⟩ := bind_eq_ok.mp rest
  cases last
  obtain ⟨-, ⟨o, member, mine⟩, -⟩ := transitionStatus_ok failed
  exact (appends_transitionStatus failed).trans ((appends_completeIdempotencyKey completed).trans
    ((appends_appendEntry [(.subject "order_id", args.orderId)] db₂ P _ _ _ (told_one rfl)).mono
      fun e shows => ⟨o, member, mine ▸ shows⟩))

theorem appends_recordPaymentFailed {orderId declineReason reason actorId traceId : String}
    {signature : JSONValue}
    (done : Payments.recordPaymentFailed P orderId declineReason reason signature actorId traceId db
      = .ok db') : db.Appends db' (ResultOf db.orders) := by
  obtain ⟨db₁, failed, rest⟩ := bind_eq_ok.mp done
  cases rest
  exact appends_result failed

/-- The texts of the entry of a captured payment. -/
def capturedTexts (orderId paymentId : String) : List (Field × String) :=
  [(.subject "order_id", orderId), (.payload "status", "captured"),
    (.payload "provider_payment_id", paymentId)]

theorem appends_recordPaymentCaptured {orderId paymentId actorId traceId : String}
    {signature : JSONValue}
    (done : Payments.recordPaymentCaptured P orderId paymentId signature actorId traceId db
      = .ok db') :
    db.Appends db' (ResultOf db.orders) ∧
      Shown db'.auditLog.entries .paymentResult (capturedTexts orderId paymentId) := by
  obtain ⟨db₁, captured, rest⟩ := bind_eq_ok.mp done
  cases rest
  refine ⟨appends_result captured, shown_appendEntry _ _ _ _ _ _ ?_⟩
  simp only [capturedTexts, told_cons, told_nil, and_true]
  exact ⟨rfl, rfl, rfl⟩

theorem appends_applyWebhookEvent {traceId actorId : String} {event : WebhookEventRecord}
    (done : Payments.applyWebhookEvent P traceId actorId event db = .ok db') :
    db.Appends db' (ResultOf db.orders) := by
  unfold Payments.applyWebhookEvent at done
  dsimp only at done
  split at done
  · cases done
    exact .refl ..
  · split at done
    · obtain ⟨looked, found, rest⟩ := bind_eq_ok.mp done
      split at rest
      · cases rest
        exact .refl ..
      · split at rest
        · cases rest
          exact .refl ..
        · split at rest
          · obtain ⟨db₁, transitioned, last⟩ := bind_eq_ok.mp rest
            cases last
            exact appends_result transitioned
          · split at rest
            · obtain ⟨db₁, transitioned, last⟩ := bind_eq_ok.mp rest
              cases last
              exact appends_result transitioned
            · cases rest
              exact .refl ..
    · cases done

theorem appends_applyWebhookEvents {now : Nat → Time} {traceId : Nat → String}
    {events : List WebhookEventRecord} {i : Nat}
    (done : Payments.applyWebhookEvents P now traceId i events db = .ok db') :
    db.Appends db' (ResultOf db.orders) := by
  induction events generalizing i db with
  | nil =>
      cases done
      exact .refl ..
  | cons event events ih =>
      obtain ⟨db₁, applied, rest⟩ := bind_eq_ok.mp done
      obtain ⟨db₂, marked, rest⟩ := bind_eq_ok.mp rest
      have orders := (markProcessed_ok marked).orders
      refine (appends_applyWebhookEvent applied).trans ((appends_markProcessed marked).trans
        ((ih rest).mono fun e result => ?_))
      rw [orders] at result
      exact result.before (applyWebhookEvent_ok applied).1

theorem appends_reconcileOrder {traceId : String}
    {poll : Except Failure (List Payments.ProviderPayment)} {order : OrderRecord}
    (done : Payments.reconcileOrder P traceId poll order db = .ok db') :
    db.Appends db' (ResultOf db.orders) := by
  unfold Payments.reconcileOrder at done
  dsimp only at done
  split at done
  · cases done
    exact .refl ..
  · split at done
    · split at done
      · cases done
        exact .refl ..
      · cases done
    · split at done
      · cases done
        exact .refl ..
      · split at done
        · obtain ⟨db₁, transitioned, last⟩ := bind_eq_ok.mp done
          cases last
          exact appends_result transitioned
        · obtain ⟨db₁, transitioned, last⟩ := bind_eq_ok.mp done
          cases last
          exact appends_result transitioned
        · cases done
          exact .refl ..

theorem appends_reconcileOrders {traceId : Nat → String}
    {polls : Nat → Except Failure (List Payments.ProviderPayment)} {due : List OrderRecord}
    {i : Nat} (done : Payments.reconcileOrders P traceId polls i due db = .ok db') :
    db.Appends db' (ResultOf db.orders) := by
  induction due generalizing i db with
  | nil =>
      cases done
      exact .refl ..
  | cons order due ih =>
      obtain ⟨db₁, reconciled, rest⟩ := bind_eq_ok.mp done
      exact (appends_reconcileOrder reconciled).trans
        ((ih rest).mono fun e result => result.before (reconcileOrder_ok reconciled).1)

end Payments

section Purchase

variable {P : Platform} {db db' : Database} {now : Nat → Time}

/-- The texts of the entry of a reservation. -/
def reservedTexts (mandateId refId : String) : List (Field × String) :=
  [(.subject "mandate_id", mandateId), (.subject "ref_id", refId)]

/-- A passed gate logs the reservation, and a denial logs nothing. -/
theorem appends_attemptG1ThroughG5 {req : MoneyActionRequest} {key : String}
    {result : Option Gate.MoneyActionResult}
    (done : Gate.attemptG1ThroughG5 P req key now db = .ok (result, db')) :
    db.Appends db' (fun e => result = none ∧
        e.Shows .budgetReserved (reservedTexts req.mandateId key)) ∧
      (result = none →
        Shown db'.auditLog.entries .budgetReserved (reservedTexts req.mandateId key)) := by
  unfold Gate.attemptG1ThroughG5 at done
  split at done
  · rename_i passed
    cases done
    obtain ⟨row, one, rest⟩ := bind_eq_ok.mp passed
    obtain ⟨_, two, rest⟩ := bind_eq_ok.mp rest
    obtain ⟨_, four, rest⟩ := bind_eq_ok.mp rest
    obtain ⟨_, five, rest⟩ := bind_eq_ok.mp rest
    obtain ⟨db₁, marked, last⟩ := bind_eq_ok.mp rest
    cases last
    refine ⟨(appends_reserve ..).trans ((appends_markExecuting marked).trans
      ((appends_appendEntry _ _ _ _ _ _ ?_).mono fun e shows => ⟨rfl, shows⟩)),
      fun _ => shown_appendEntry _ _ _ _ _ _ ?_⟩ <;>
      simp only [reservedTexts, told_cons, told_nil, and_true] <;>
      exact ⟨rfl, rfl⟩
  · cases done
    exact ⟨.refl .., fun none => by cases none⟩
  · cases done

/-- The entry tells of a compensation. -/
def CompensationOf (c : Compensation) (entry : AuditEntry) : Prop :=
  entry.Shows .compensationApplied [(.subject "ref_id", c.refId)]

theorem appends_recordCompensation {c : Compensation} {orderId : Option String}
    {outcomeName : String} {outcome : Bool}
    (done : Gate.recordCompensation P c orderId outcomeName outcome db = .ok db') :
    db.Appends db' (CompensationOf c) := by
  refine Database.Appends.trans (appends_appendEntry _ _ _ _ _ _ ?_) (appends_markCompensated done)
  cases orderId <;> exact told_one rfl

theorem appends_releaseReservation {c : Compensation}
    (done : Gate.releaseReservationAndMarkCompensated P c now db = .ok db') :
    db.Appends db' (CompensationOf c) := by
  unfold Gate.releaseReservationAndMarkCompensated at done
  exact (appends_release ..).trans (appends_recordCompensation done)

theorem appends_voidOrder {c : Compensation} {orderId : String}
    (done : Gate.voidOrderAndReleaseReservation P c orderId now db = .ok db') :
    db.Appends db' (CompensationOf c) := by
  obtain ⟨db₁, failed, rest⟩ := bind_eq_ok.mp done
  exact (appends_failOrder failed).trans
    ((appends_release ..).trans (appends_recordCompensation rest))

theorem appends_reverseSettlementAfterRefund {c : Compensation} {orderId : String}
    (done : Gate.reverseSettlementAfterRefund P c orderId now db = .ok db') :
    db.Appends db' (CompensationOf c) := by
  obtain ⟨db₁, failed, rest⟩ := bind_eq_ok.mp done
  exact (appends_failOrder failed).trans
    ((appends_reverseSettlement ..).trans (appends_recordCompensation rest))

/-- The texts of the entry that closes a settlement. -/
def closedTexts (orderId paymentId : String) : List (Field × String) :=
  [(.subject "order_id", orderId), (.payload "provider_payment_id", paymentId)]

theorem appends_settle {saga : SagaRecord} {orderId paymentId actorId traceId : String}
    {final : Option SagaRecord}
    (done : Saga.settle P saga orderId paymentId actorId traceId now db = .ok (final, db')) :
    db.Appends db' (fun e => e.Shows .settlementClosed (closedTexts orderId paymentId)) := by
  unfold Saga.settle at done
  dsimp only at done
  split at done
  · obtain ⟨db₁, marked, rest⟩ := bind_eq_ok.mp done
    obtain ⟨⟨final', db₂⟩, wrote, last⟩ := bind_eq_ok.mp rest
    cases last
    refine (appends_capture ..).trans ((appends_markSettled marked).trans
      ((appends_appendEntry _ _ _ _ _ _ ?_).trans (appends_writeSaga wrote)))
    simp only [closedTexts, told_cons, told_nil, and_true]
    exact ⟨rfl, rfl⟩
  · cases done
    exact appends_capture ..

end Purchase

section Catalog

variable {P : Platform} {db db' : Database}

theorem appends_createQuote {args : Catalog.QuoteArgs} {quoteId : String} {now : Time}
    {quote : QuoteRecord} (done : Catalog.createQuote P args quoteId now db = .ok (quote, db')) :
    db.Appends db' (fun e => e.action = .quoteIssued) ∧
      Shown db'.auditLog.entries .quoteIssued [(.subject "quote_id", quote.id)] := by
  unfold Catalog.createQuote at done
  split at done
  · cases done
  · split at done
    · cases done
    · split at done
      · cases done
      · obtain ⟨middle, added, ends⟩ := bind_eq_ok.mp done
        cases ends
        obtain ⟨quotes, -, rfl⟩ := Catalog.addQuote_ok added
        refine ⟨.trans ?_ (.mono (appends_appendEntry [] _ _ _ _ _ (told_nil.mpr trivial))
          fun e shows => shows.action), shown_appendEntry _ _ _ _ _ _ (told_one rfl)⟩
        exact .of_eq rfl rfl

theorem appends_mutatePrice {args : Catalog.PriceArgs}
    (done : Catalog.mutatePriceDemoOnly P args db = .ok db') :
    db.Appends db' (fun e => e.action = .catalogPriceMutated) := by
  unfold Catalog.mutatePriceDemoOnly at done
  split at done
  · cases done
  · split at done
    · cases done
    · cases done
      refine .trans ?_ (.mono (appends_appendEntry [] _ _ _ _ _ (told_nil.mpr trivial))
        fun e shows => shows.action)
      exact .of_eq rfl rfl

end Catalog

section Sweeping

variable {P : Platform} {db db' : Database}

/-- The entry tells that a reservation of the store has expired. -/
def ExpiryOf (db : Database) (entry : AuditEntry) : Prop :=
  ∃ refId, phaseOf db refId ≠ none ∧ entry.Shows .reservationExpired [(.subject "ref_id", refId)]

theorem appends_sweepReservation {now : Nat → Time} {traceId refId : String} {expired : Bool}
    (done : Ledger.sweepReservation P db now traceId refId = .ok (expired, db')) :
    db.Appends db' (ExpiryOf db) := by
  unfold Ledger.sweepReservation at done
  dsimp only at done
  split at done
  · cases done
    exact .refl ..
  · rename_i held
    have reserved : phaseOf db refId ≠ none := by
      rw [Ledger.stateOfRef_eq_held.mp (not_not.mp held)]
      decide
    split at done
    · cases done
    · split at done
      · cases done
        exact .refl ..
      · cases done
        refine .trans ?_ (.mono (appends_appendEntry [(.subject "ref_id", refId)] _ _ _ _ _
          (told_one rfl)) fun e shows => ⟨refId, reserved, shows⟩)
        exact .of_eq rfl rfl

/-- A sweep of a reservation makes no new one. -/
theorem reserved_before_sweep {now : Nat → Time} {traceId refId ref : String} {expired : Bool}
    (orderly : Orderly db)
    (done : Ledger.sweepReservation P db now traceId refId = .ok (expired, db'))
    (reserved : phaseOf db' ref ≠ none) : phaseOf db ref ≠ none := by
  rcases Ledger.sweepReservation_moves now refId orderly done with rfl | moves
  · exact reserved
  · by_cases mine : ref = refId
    · rw [mine, moves.before]
      decide
    · rwa [← moves.others ref mine]

theorem appends_sweepAll {now : Nat → Nat → Time} {traceId : Nat → String}
    {candidates : List String} {i : Nat} {swept : List String} (orderly : Orderly db)
    (done : Ledger.sweepAll P now traceId i candidates db = .ok (swept, db')) :
    db.Appends db' (ExpiryOf db) := by
  induction candidates generalizing i db swept with
  | nil =>
      cases done
      exact .refl ..
  | cons refId candidates ih =>
      obtain ⟨⟨expired, db₁⟩, first, rest⟩ := bind_eq_ok.mp done
      obtain ⟨⟨swept', db₂⟩, second, last⟩ := bind_eq_ok.mp rest
      cases last
      have orderly' : Orderly db₁ := by
        rcases Ledger.sweepReservation_moves (now i) refId orderly first with same | moves
        · exact same ▸ orderly
        · exact moves.orderly
      refine (appends_sweepReservation first).trans ((ih orderly' second).mono fun e expiry => ?_)
      obtain ⟨ref, reserved, shows⟩ := expiry
      exact ⟨ref, reserved_before_sweep orderly first reserved, shows⟩

end Sweeping

section Proposals

variable {P : Platform} {db db' : Database}

/-- A decision to allow is for a mandate of the store with this hash, and the log has the
proposal. -/
def Proposed (db : Database) (decision : Policy.DecisionRecord) : Prop :=
  decision.verdict = .allow →
    (∃ m ∈ db.lockedMandates, m.mandateId = decision.mandateId ∧
      m.specHash = some decision.mandateSpecHash) ∧
    Shown db.auditLog.entries .orderProposed
      [(.subject "mandate_id", decision.mandateId), (.payload "verdict", "ALLOW")]

/-- A proposal that is decided is logged with its quote and its verdict. -/
theorem proposeOrder_appends {args : Saga.ProposeArgs} {decisionId : String} {now : Nat → Time}
    {proposal : Saga.Proposal}
    (done : Saga.proposeOrder P args decisionId now db = .ok (proposal, db')) :
    (∃ added, db'.auditLog.entries = db.auditLog.entries ++ added ∧ ∀ e ∈ added,
      ∃ quote ∈ db.quotes, e.Shows .orderProposed [(.subject "quote_id", quote.id)]) ∧
    ∀ decision ∈ db'.decisions, decision ∈ db.decisions ∨ Proposed db' decision := by
  unfold Saga.proposeOrder at done
  split at done
  · cases done
    exact ⟨⟨[], (List.append_nil _).symm, fun e member => by cases member⟩,
      fun decision member => .inl member⟩
  · rename_i row quote intent derived
    obtain ⟨item, passed, rfl⟩ := deriveIntent_ok derived
    dsimp only at done
    split at done
    · cases done
    · rename_i decisions inserted
      obtain ⟨stored, named⟩ := Table.get?_mem passed.foundQuote
      -- The allowed and the denied proposal differ in the verdict of the one entry.
      have decided : ∀ subject payload verdict,
          Told subject payload [(.subject "quote_id", args.quoteId), (.subject "mandate_id", row.id),
            (.payload "verdict", verdict)] →
          ((decisionFor P decisionId now row quote item db).verdict = .allow → verdict = "ALLOW") →
          db' = Database.appendEntry { db with decisions } P args.traceId "agent" args.actorId
            .orderProposed subject payload →
          (∃ added, db'.auditLog.entries = db.auditLog.entries ++ added ∧ ∀ e ∈ added,
            ∃ quote ∈ db.quotes, e.Shows .orderProposed [(.subject "quote_id", quote.id)]) ∧
          ∀ decision ∈ db'.decisions, decision ∈ db.decisions ∨ Proposed db' decision := by
        rintro subject payload verdict told text rfl
        obtain ⟨entry, shows, entries⟩ : ∃ entry : AuditEntry, entry.Shows .orderProposed _ ∧ _ :=
          appendEntry_shows _ { db with decisions } P args.traceId "agent" args.actorId told
        refine ⟨⟨[entry], entries, fun e member => ?_⟩, fun decision member => ?_⟩
        · rw [List.mem_singleton.mp member]
          exact ⟨quote, stored, shows.mono (by simp [named])⟩
        · rcases (Table.mem_of_insert? inserted).mp member with old | rfl
          · exact .inl old
          · refine .inr fun allowed => ⟨⟨row.mandate, ?_, rfl, ?_⟩, entry, ?_, shows.mono ?_⟩
            · exact List.mem_map_of_mem (Table.mem_def.mp (Table.get?_mem passed.foundMandate).1)
            · show row.mandate.specHash = some (row.mandate.specHash.getD "")
              rw [passed.specHash]
              rfl
            · rw [entries]
              exact List.mem_append_right _ (List.mem_singleton_self entry)
            · rw [text allowed]
              exact List.subset_cons_self _ _
      split at done
      next allowed =>
        cases done
        refine decided _ _ "ALLOW" ?_ (fun _ => rfl) rfl
        simp only [told_cons, told_nil, and_true]
        exact ⟨rfl, rfl, rfl⟩
      next denied =>
        cases done
        refine decided _ _ "DENY" ?_ (fun allowed => absurd allowed denied) rfl
        simp only [told_cons, told_nil, and_true]
        exact ⟨rfl, rfl, rfl⟩

end Proposals

/-! ## The actions -/

/-- The action compensates for the reservation. -/
def Action.Compensates (c : Compensation) : Action → Prop
  | .releaseReservation c' | .reverseSettlement c' _ | .voidOrder c' _ => c' = c
  | _ => False

/-- What an entry is about that an action appends. -/
inductive Writes (P : Platform) (action : Action) (db : Database) (entry : AuditEntry) : Prop where
  | catalog (kind : entry.action = .quoteIssued ∨ entry.action = .catalogPriceMutated)
  | proposed (quote : QuoteRecord) (stored : quote ∈ db.quotes)
      (shows : entry.Shows .orderProposed [(.subject "quote_id", quote.id)])
  | reserved (req : MoneyActionRequest) (key : String) (now : Nat → Time) (db' : Database)
      (passed : GatePassed P req key now db db')
      (shows : entry.Shows .budgetReserved (reservedTexts req.mandateId key))
  | intended (args : OrderArgs) (issued : action = .claimOrder args)
      (shows : entry.Shows .paymentIntent (OrderArgs.texts P args))
  | resulted (result : ResultOf db.orders entry)
  | closed (saga : SagaRecord) (orderId paymentId actorId traceId : String)
      (issued : action = .settle saga orderId paymentId actorId traceId)
      (shows : entry.Shows .settlementClosed (closedTexts orderId paymentId))
  | compensated (c : Compensation) (issued : action.Compensates c) (about : CompensationOf c entry)
  | expired (about : ExpiryOf db entry)

section Actions

variable {P : Platform} {action : Action} {w : World}

theorem appends_of_transaction {α : Type} {dbError : Bool}
    {body : Database → Except Failure (α × Database)} {writes : AuditEntry → Prop}
    (appends : ∀ value db, body w.db = .ok (value, db) → w.db.Appends db writes) :
    w.db.Appends (w.transaction dbError body).2.db writes := by
  rcases w.transaction_cases dbError body with ⟨failure, done, -⟩ | ⟨value, db, -, ran, done⟩
  · rw [done]
    exact .refl ..
  · rw [done]
    exact appends value db ran

theorem appends_of_command {dbError : Bool} {body : Database → Except Failure Database}
    {writes : AuditEntry → Prop}
    (appends : ∀ db, body w.db = .ok db → w.db.Appends db writes) :
    w.db.Appends (w.command dbError body).2.db writes := by
  rcases w.command_cases dbError body with ⟨failure, done, -⟩ | ⟨db, -, ran, done⟩
  · rw [done]
    exact .refl ..
  · rw [done]
    exact appends db ran

end Actions

/-- What an action appends to the log, when it is no proposal. -/
theorem execute_appends (P : Platform) (action : Action) (input : Input) (w : World)
    (orderly : Orderly w.db) (other : ∀ args, action ≠ .proposeOrder args) :
    w.db.Appends (execute P action input w).2.db (Writes P action w.db) := by
  cases action with
  | proposeOrder args => exact absurd rfl (other args)
  | attemptG1ThroughG5 req key =>
      refine appends_of_transaction fun result db done => ?_
      rcases attemptG1ThroughG5_ok done with ⟨code, -, rfl⟩ | ⟨-, passed⟩
      · exact .refl ..
      · exact (appends_attemptG1ThroughG5 done).1.mono fun e shows =>
          .reserved req key (input.now 0) db passed shows.2
  | claimOrder args =>
      exact appends_of_transaction fun won db done =>
        (appends_claimOrder done).1.mono fun e shows => .intended args rfl shows
  | recordOrderCreationFailed args message =>
      exact appends_of_command fun db done =>
        (appends_recordOrderCreationFailed done).mono fun e result => .resulted result
  | recordProviderOrder args providerOrderId =>
      exact appends_of_transaction fun order db done => appends_recordProviderOrder done
  | releaseReservation c =>
      exact appends_of_command fun db done =>
        (appends_releaseReservation done).mono fun e about => .compensated c rfl about
  | openSaga req key => exact appends_of_transaction fun existing db done => appends_openSaga done
  | resolveSaga key result =>
      refine appends_of_transaction fun final db done => ?_
      unfold Saga.resolveSaga at done
      split at done
      · exact appends_writeSaga done
      · exact appends_writeSaga done
  | recordPaymentFailed orderId declineReason reason signature actorId traceId =>
      exact appends_of_command fun db done =>
        (appends_recordPaymentFailed done).mono fun e result => .resulted result
  | recordPaymentCaptured orderId paymentId signature actorId traceId =>
      exact appends_of_command fun db done =>
        (appends_recordPaymentCaptured done).1.mono fun e result => .resulted result
  | settle saga orderId paymentId actorId traceId =>
      exact appends_of_transaction fun final db done =>
        (appends_settle done).mono fun e shows =>
          .closed saga orderId paymentId actorId traceId rfl shows
  | reverseSettlement c orderId =>
      exact appends_of_command fun db done =>
        (appends_reverseSettlementAfterRefund done).mono fun e about => .compensated c rfl about
  | voidOrder c orderId =>
      exact appends_of_command fun db done =>
        (appends_voidOrder done).mono fun e about => .compensated c rfl about
  | finalizeSaga sagaId step status =>
      exact appends_of_transaction fun final db done => appends_writeSaga done
  | updateMandateStatus mandateId status =>
      refine appends_of_command fun db done => ?_
      cases done
      exact .of_eq rfl rfl
  | processWebhookDelivery delivery =>
      refine appends_of_transaction fun receipt db done => ?_
      have received := Except.ok.inj done
      have appends : w.db.Appends (Payments.processWebhookDelivery P delivery w.db).2
          (Writes P (.processWebhookDelivery delivery) w.db) := appends_processWebhookDelivery ..
      rw [received] at appends
      exact appends
  | processUnprocessedWebhooks =>
      refine appends_of_command fun db done => ?_
      obtain ⟨_, -, rest⟩ := bind_eq_ok.mp done
      exact (appends_applyWebhookEvents rest).mono fun e result => .resulted result
  | reconcileNonTerminalOrders =>
      refine appends_of_command fun db done => ?_
      obtain ⟨_, -, rest⟩ := bind_eq_ok.mp done
      exact (appends_reconcileOrders rest).mono fun e result => .resulted result
  | sweep =>
      refine appends_of_command fun db done => ?_
      obtain ⟨swept, done⟩ := sweep_command done
      obtain ⟨_, -, rest⟩ := bind_eq_ok.mp done
      exact (appends_sweepAll orderly rest).mono fun e about => .expired about
  | verifyChainAndHaltOnFailure tables fromSeq toSeq =>
      refine appends_of_transaction fun result db done => ?_
      rcases verifyChainAndHaltOnFailure_ok done with ⟨-, rfl⟩ | ⟨-, reason, trippedSeq, rfl⟩
      · exact .refl ..
      · exact appends_tripIntegrity ..
  | createQuote args =>
      exact appends_of_transaction fun quote db done =>
        (appends_createQuote done).1.mono fun e kind => .catalog (.inl kind)
  | mutatePrice args =>
      exact appends_of_command fun db done =>
        (appends_mutatePrice done).mono fun e kind => .catalog (.inr kind)
  | upsertItem item =>
      refine appends_of_command fun db done => ?_
      unfold Catalog.upsertItem at done
      split at done
      · split at done <;>
          · cases done
            exact .of_eq rfl rfl
      · cases done
  | createOrder args =>
      simp only [execute, World.external_db]
      exact .refl ..
  | fetchPayments providerOrderId =>
      simp only [execute, World.external_db]
      exact .refl ..
  | capturePayment paymentId amountMinor =>
      simp only [execute, World.external_db]
      exact .refl ..
  | refundPayment paymentId amountMinor idempotencyKey =>
      simp only [execute, World.external_db]
      exact .refl ..
  | getHaltState =>
      simp only [execute, World.query_world]
      exact .refl ..
  | lookupIdempotencyKey key =>
      simp only [execute, World.query_world]
      exact .refl ..
  | pollIdempotencyKey key =>
      simp only [execute, World.query_world]
      exact .refl ..
  | getSaga sagaId =>
      simp only [execute, World.query_world]
      exact .refl ..
  | getMandateStatus mandateId =>
      simp only [execute, World.query_world]
      exact .refl ..
  | getOrder orderId =>
      simp only [execute, World.query_world]
      exact .refl ..

section Execute

variable (P : Platform) (action : Action) (input : Input) (w : World)

/-- What an action appends to the log. -/
theorem execute_log (orderly : Orderly w.db) :
    ∃ added, (execute P action input w).2.db.auditLog.entries = w.db.auditLog.entries ++ added ∧
      ∀ e ∈ added, Writes P action w.db e := by
  by_cases proposal : ∃ args, action = .proposeOrder args
  swap
  · exact (execute_appends P action input w orderly (not_exists.mp proposal)).entries
  · obtain ⟨args, rfl⟩ := proposal
    simp only [execute]
    rcases w.transaction_cases input.dbError
      (Saga.proposeOrder P args (input.ids 0) (input.now 0)) with
      ⟨failure, done, -⟩ | ⟨value, db, -, ran, done⟩
    · rw [done]
      exact ⟨[], (List.append_nil _).symm, fun e member => by cases member⟩
    · rw [done]
      obtain ⟨⟨added, entries, fits⟩, -⟩ := proposeOrder_appends ran
      refine ⟨added, entries, fun e member => ?_⟩
      obtain ⟨quote, stored, shows⟩ := fits e member
      exact .proposed quote stored shows

/-- A decision is an old one, or the log has its proposal. -/
theorem execute_decisions (orderly : Orderly w.db) :
    ∀ decision ∈ (execute P action input w).2.db.decisions, decision ∈ w.db.decisions ∨
      Proposed (execute P action input w).2.db decision := by
  by_cases proposal : ∃ args, action = .proposeOrder args
  swap
  · rw [(execute_appends P action input w orderly (not_exists.mp proposal)).decisions]
    exact fun decision member => .inl member
  · obtain ⟨args, rfl⟩ := proposal
    simp only [execute]
    rcases w.transaction_cases input.dbError
      (Saga.proposeOrder P args (input.ids 0) (input.now 0)) with
      ⟨failure, done, -⟩ | ⟨value, db, -, ran, done⟩
    · rw [done]
      exact fun decision member => .inl member
    · rw [done]
      exact (proposeOrder_appends ran).2

/-- A quote is an old one, or the log says that it was issued. -/
theorem execute_quotes :
    ∀ quote ∈ (execute P action input w).2.db.quotes, quote ∈ w.db.quotes ∨
      Shown (execute P action input w).2.db.auditLog.entries .quoteIssued
        [(.subject "quote_id", quote.id)] := by
  by_cases written : Part.catalog ∈ action.writes
  swap
  · have same := (execute_frame P action input w).catalog (Action.mem_spares.mpr written)
    rw [(Prod.mk.inj same).1]
    exact fun quote member => .inl member
  cases action with
  | createQuote args =>
      simp only [execute]
      rcases w.transaction_cases input.dbError
        (Catalog.createQuote P args (input.ids 0) (input.now 0 0)) with
        ⟨failure, done, -⟩ | ⟨quote, db, -, ran, done⟩
      · rw [done]
        exact fun quote member => .inl member
      · rw [done]
        intro quote' member
        rcases ((Catalog.createQuote_ok ran).2.1 quote').mp member with old | rfl
        · exact .inl old
        · exact .inr (appends_createQuote ran).2
  | mutatePrice args =>
      simp only [execute]
      rcases w.command_cases input.dbError (Catalog.mutatePriceDemoOnly P args) with
        ⟨failure, done, -⟩ | ⟨db, -, ran, done⟩
      · rw [done]
        exact fun quote member => .inl member
      · rw [done]
        intro quote member
        rw [(Catalog.mutatePriceDemoOnly_ok ran).1] at member
        exact .inl member
  | upsertItem item =>
      simp only [execute]
      rcases w.command_cases input.dbError (Catalog.upsertItem item) with
        ⟨failure, done, -⟩ | ⟨db, -, ran, done⟩
      · rw [done]
        exact fun quote member => .inl member
      · rw [done]
        intro quote member
        have same : db.quotes = w.db.quotes := (Catalog.upsertItem_ok (P := P) ran).1
        rw [same] at member
        exact .inl member
  | _ => simp [Action.writes] at written

variable {P action input w}

/-- A passed gate has logged its reservation. -/
theorem passed_shown {req : MoneyActionRequest} {key : String}
    (passed : (execute P (.attemptG1ThroughG5 req key) input w).1 = .ok none) :
    Shown (execute P (.attemptG1ThroughG5 req key) input w).2.db.auditLog.entries .budgetReserved
      (reservedTexts req.mandateId key) := by
  simp only [execute] at passed ⊢
  rcases w.transaction_cases input.dbError (Gate.attemptG1ThroughG5 P req key (input.now 0)) with
    ⟨failure, done, -⟩ | ⟨value, db, -, ran, done⟩
  · rw [done] at passed
    cases passed
  · rw [done] at passed ⊢
    exact (appends_attemptG1ThroughG5 ran).2 (Except.ok.inj passed)

/-- A won claim has logged the payment to come. -/
theorem claimed_shown {args : OrderArgs}
    (won : (execute P (.claimOrder args) input w).1 = .ok true) :
    Shown (execute P (.claimOrder args) input w).2.db.auditLog.entries .paymentIntent
      (OrderArgs.texts P args) := by
  simp only [execute] at won ⊢
  rcases w.transaction_cases input.dbError (Payments.claimOrder P args (input.now 0)) with
    ⟨failure, done, -⟩ | ⟨value, db, -, ran, done⟩
  · rw [done] at won
    cases won
  · rw [done] at won ⊢
    exact (appends_claimOrder ran).2 (Except.ok.inj won)

/-- A captured payment is logged. -/
theorem captured_shown {orderId paymentId actorId traceId : String} {signature : JSONValue}
    (recorded : (execute P (.recordPaymentCaptured orderId paymentId signature actorId traceId) input
      w).1 = .ok ()) :
    Shown (execute P (.recordPaymentCaptured orderId paymentId signature actorId traceId) input
      w).2.db.auditLog.entries .paymentResult (capturedTexts orderId paymentId) := by
  simp only [execute] at recorded ⊢
  rcases w.command_cases input.dbError
    (Payments.recordPaymentCaptured P orderId paymentId signature actorId traceId) with
    ⟨failure, done, -⟩ | ⟨db, -, ran, done⟩
  · rw [done] at recorded
    cases recorded
  · rw [done]
    exact (appends_recordPaymentCaptured ran).2

/-- A reservation that was not there before has been logged. -/
theorem opened_shown {refId : String} (orderly : Orderly w.db)
    (reserved : phaseOf (execute P action input w).2.db refId ≠ none) :
    phaseOf w.db refId ≠ none ∨
      Shown (execute P action input w).2.db.auditLog.entries .budgetReserved
        [(.subject "ref_id", refId)] := by
  have becomes := (execute_holds P action input w orderly).phases refId
  generalize before : phaseOf w.db refId = source at becomes
  generalize after : phaseOf (execute P action input w).2.db refId = target at becomes reserved
  cases becomes with
  | same => exact .inl reserved
  | captured saga orderId paymentId actorId traceId issued ref => exact .inl (by simp)
  | released c issued ref => exact .inl (by simp)
  | expired issued old => exact .inl (by simp)
  | reversed c orderId issued ref => exact .inl (by simp)
  | opened req issued =>
      subst issued
      refine .inr ?_
      simp only [execute] at after ⊢
      rcases w.transaction_cases input.dbError
        (Gate.attemptG1ThroughG5 P req refId (input.now 0)) with
        ⟨failure, done, -⟩ | ⟨result, db, -, ran, done⟩
      · rw [done, before] at after
        cases after
      · rw [done] at after ⊢
        rcases attemptG1ThroughG5_ok ran with ⟨code, -, rfl⟩ | ⟨passed, -⟩
        · rw [before] at after
          cases after
        · exact ((appends_attemptG1ThroughG5 ran).2 passed).mono (List.Subset.refl _)
            (by simp [reservedTexts])

end Execute

/-! ## What the store has is logged -/

/-- The texts of the entry that goes with an order. -/
def orderTexts (o : OrderRecord) : List (Field × String) :=
  [(.subject "order_id", o.id), (.subject "mandate_id", o.mandateId),
    (.payload "idempotency_key", o.idempotencyKey)]

/-- The log has the entries of the quotes, of the decisions to allow, of the reservations
and of the orders. -/
structure Evidenced (db : Database) : Prop where
  quotes : ∀ quote ∈ db.quotes,
    Shown db.auditLog.entries .quoteIssued [(.subject "quote_id", quote.id)]
  decisions : ∀ decision ∈ db.decisions, Proposed db decision
  holds : ∀ refId, phaseOf db refId ≠ none →
    Shown db.auditLog.entries .budgetReserved [(.subject "ref_id", refId)]
  orders : ∀ o ∈ db.orders, Shown db.auditLog.entries .paymentIntent (orderTexts o)

theorem Proposed.mono {db db' : Database} {decision : Policy.DecisionRecord}
    (proposed : Proposed db decision) (more : db.auditLog.entries ⊆ db'.auditLog.entries)
    (mandates : db'.lockedMandates = db.lockedMandates) : Proposed db' decision := by
  intro allowed
  obtain ⟨⟨m, member, mine⟩, shown⟩ := proposed allowed
  exact ⟨⟨m, by rwa [mandates], mine⟩, shown.mono more (List.Subset.refl _)⟩

/-- What an action adds to the store it logs. -/
theorem Evidenced.kept {w : World} (evidenced : Evidenced w.db) (orderly : Orderly w.db)
    (P : Platform) (action : Action) (input : Input) :
    Evidenced (execute P action input w).2.db := by
  have more := (execute_grows P action input w).audit.subset
  refine ⟨fun quote member => ?_, fun decision member => ?_, fun refId reserved => ?_,
    fun o' member => ?_⟩
  · rcases execute_quotes P action input w quote member with old | shown
    · exact (evidenced.quotes quote old).mono more (List.Subset.refl _)
    · exact shown
  · rcases execute_decisions P action input w orderly decision member with old | proposed
    · exact (evidenced.decisions decision old).mono more (execute_frame P action input w).mandates
    · exact proposed
  · rcases opened_shown orderly reserved with old | shown
    · exact (evidenced.holds refId old).mono more (List.Subset.refl _)
    · exact shown
  · rcases (execute_orders P action input w).backward o' member with
      ⟨o, old, becomes⟩ | ⟨args, born⟩
    · have shown := (evidenced.orders o old).mono more (List.Subset.refl _)
      simpa only [orderTexts, becomes.same.id, becomes.same.mandateId,
        becomes.same.idempotencyKey] using shown
    · have shown := claimed_shown born.won
      rw [born.action]
      simpa only [orderTexts, OrderArgs.texts, born.id, born.mandateId, born.idempotencyKey]
        using shown

end Actl
