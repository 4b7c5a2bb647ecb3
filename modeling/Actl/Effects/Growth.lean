import Actl.Effects.Actions

/-!
# What only grows

No action removes an entry of the ledger or of the audit log, and an entry is
posted only for a reference that has entries, or as a part of a whole reservation
(`Database.Grows`). So a reference with an entry has the pair of its reservation
(`Paired`) in every state.
-/

set_option autoImplicit false

namespace Actl

open Foundation (Table bind_eq_ok)
open Payments (OrderArgs)
open Gate (MoneyActionRequest Compensation)
open Ledger (RefType LedgerMovement)

/-! ## Growth -/

/-- Both entries of a reservation of the reference. -/
def Reserves (entries : List LedgerEntryRecord) (refId : String) : Prop :=
  ∃ mandateId amountMinor, ∀ m ∈ Ledger.reserveMovements mandateId amountMinor, ∃ e ∈ entries,
    e.refType = .reservation ∧ e.refId = refId ∧ e.account = m.account ∧
      e.direction = m.direction ∧ e.amountMinor = m.amountMinor

theorem Reserves.mono {entries entries' : List LedgerEntryRecord} {refId : String}
    (reserves : Reserves entries refId) (more : entries ⊆ entries') : Reserves entries' refId := by
  obtain ⟨mandateId, amountMinor, both⟩ := reserves
  refine ⟨mandateId, amountMinor, fun m member => ?_⟩
  obtain ⟨e, present, fits⟩ := both m member
  exact ⟨e, more present, fits⟩

structure Database.Grows (db db' : Database) : Prop where
  ledger : ∃ added, db'.ledgerEntries = db.ledgerEntries ++ added ∧ ∀ e ∈ added,
    (∃ e' ∈ db.ledgerEntries, e'.refId = e.refId) ∨ Reserves db'.ledgerEntries e.refId
  audit : db.auditLog.entries <+: db'.auditLog.entries
  halt : db.integrity.halted = true → db'.integrity = db.integrity

namespace Database.Grows

variable {db db' db'' : Database}

theorem of_eq (ledger : db'.ledgerEntries = db.ledgerEntries)
    (audit : db'.auditLog = db.auditLog) (integrity : db'.integrity = db.integrity) :
    db.Grows db' :=
  ⟨⟨[], by rw [ledger, List.append_nil], fun _ member => nomatch member⟩,
    by rw [audit], fun _ => integrity⟩

theorem refl (db : Database) : db.Grows db := of_eq rfl rfl rfl

theorem subset (grows : db.Grows db') : db.ledgerEntries ⊆ db'.ledgerEntries := by
  obtain ⟨added, entries, -⟩ := grows.ledger
  rw [entries]
  exact List.subset_append_left _ _

theorem trans (first : db.Grows db') (second : db'.Grows db'') : db.Grows db'' := by
  refine ⟨?_, first.audit.trans second.audit, fun halted => ?_⟩
  rotate_left
  · have once := first.halt halted
    exact (second.halt (once ▸ halted)).trans once
  obtain ⟨added, entries, fits⟩ := first.ledger
  obtain ⟨added', entries', fits'⟩ := second.ledger
  have known : ∀ e ∈ db'.ledgerEntries, (∃ e' ∈ db.ledgerEntries, e'.refId = e.refId) ∨
      Reserves db''.ledgerEntries e.refId := by
    intro e present
    rw [entries, List.mem_append] at present
    rcases present with old | new
    · exact .inl ⟨e, old, rfl⟩
    · exact (fits e new).imp_right fun reserves => reserves.mono second.subset
  refine ⟨added ++ added', by rw [entries', entries, List.append_assoc], fun e member => ?_⟩
  rcases List.mem_append.mp member with one | two
  · exact (fits e one).imp_right fun reserves => reserves.mono second.subset
  · rcases fits' e two with ⟨e', present, same⟩ | reserves
    · rw [← same]
      exact known e' present
    · exact .inr reserves

end Database.Grows

/-- A reference with an entry has the pair of its reservation. -/
def Paired (db : Database) : Prop := ∀ e ∈ db.ledgerEntries, Reserves db.ledgerEntries e.refId

theorem Paired.grows {db db' : Database} (paired : Paired db) (grows : db.Grows db') :
    Paired db' := by
  intro e member
  obtain ⟨added, entries, fits⟩ := grows.ledger
  rw [entries, List.mem_append] at member
  rcases member with old | new
  · exact (paired e old).mono grows.subset
  · rcases fits e new with ⟨e', present, same⟩ | reserves
    · rw [← same]
      exact (paired e' present).mono grows.subset
    · exact reserves

/-! ## The building blocks -/

theorem entries_writeCheckpoint (P : Platform) (log : Audit.AuditLog) (seq : Nat) :
    (log.writeCheckpoint P seq).entries = log.entries := by
  unfold Audit.AuditLog.writeCheckpoint
  split
  · rfl
  · dsimp only
    split
    · rfl
    · rfl

/-- The log after `append_entry`. -/
theorem entries_appendEntry (P : Platform) (log : Audit.AuditLog) (traceId actorType actorId : String)
    (action : Audit.AuditAction) (subject payload : JSONValue) :
    ∃ entry : Audit.AuditEntry, entry.action = action ∧ entry.payload = payload ∧
      (log.appendEntry P traceId actorType actorId action subject payload).entries =
        log.entries ++ [entry] := by
  unfold Audit.AuditLog.appendEntry
  dsimp only
  split
  · exact ⟨_, rfl, rfl, entries_writeCheckpoint ..⟩
  · exact ⟨_, rfl, rfl, rfl⟩

theorem grows_appendEntry (db : Database) (P : Platform) (traceId actorType actorId : String)
    (action : Audit.AuditAction) (subject payload : JSONValue) :
    db.Grows (db.appendEntry P traceId actorType actorId action subject payload) := by
  obtain ⟨entry, -, -, entries⟩ := entries_appendEntry P db.auditLog traceId actorType actorId
    action subject payload
  refine ⟨(Database.Grows.refl db).ledger, ?_, fun _ => rfl⟩
  rw [Database.appendEntry, entries]
  exact List.prefix_append _ _

theorem grows_tripIntegrity (db : Database) (reason : String) (trippedSeq : Option Int)
    (now : Time) : db.Grows (db.tripIntegrity reason trippedSeq now) := by
  refine ⟨⟨[], ?_, fun _ member => nomatch member⟩, ?_, fun halted => ?_⟩
  · unfold Database.tripIntegrity
    split <;> simp
  · unfold Database.tripIntegrity
    split <;> exact List.prefix_rfl
  · rw [Database.tripIntegrity_of_halted halted]

/-- Posting for a reference that has entries. -/
theorem grows_addMovements {db : Database} {refId : String} (ms : List LedgerMovement)
    (refType : RefType) (now : Nat → Time) (known : db.listForRefId refId ≠ []) :
    db.Grows (Ledger.addMovements db ms refType refId now) := by
  refine ⟨⟨_, rfl, fun e member => .inl ?_⟩, List.prefix_rfl, fun _ => rfl⟩
  obtain ⟨e', present⟩ := List.exists_mem_of_ne_nil _ known
  simp only [Database.listForRefId, List.mem_filter, decide_eq_true_eq] at present
  obtain ⟨i, inside, rfl⟩ := List.mem_mapIdx.mp member
  exact ⟨e', present.1, present.2⟩

theorem listForRefId_of_state {db : Database} {refId : String} {state : Ledger.ReservationState}
    (known : Ledger.stateOfRef db refId = some state) : db.listForRefId refId ≠ [] := by
  intro empty
  rw [Ledger.stateOfRef, empty] at known
  simp [Ledger.stateOf] at known

/-- Posting a reservation. -/
theorem grows_reservation (db : Database) (mandateId : String) (amountMinor : Int) (refId : String)
    (now : Nat → Time) :
    db.Grows (Ledger.addMovements db (Ledger.reserveMovements mandateId amountMinor) .reservation
        refId now) ∧
      Reserves (Ledger.addMovements db (Ledger.reserveMovements mandateId amountMinor) .reservation
        refId now).ledgerEntries refId := by
  have both : Reserves (Ledger.addMovements db (Ledger.reserveMovements mandateId amountMinor)
      .reservation refId now).ledgerEntries refId := by
    refine ⟨mandateId, amountMinor, fun m member => ?_⟩
    obtain ⟨i, inside, rfl⟩ := List.getElem_of_mem member
    refine ⟨_, List.mem_append_right _ (List.mem_mapIdx.mpr ⟨i, inside, rfl⟩), rfl, rfl, rfl, rfl,
      rfl⟩
  refine ⟨⟨⟨_, rfl, fun e member => .inr ?_⟩, List.prefix_rfl, fun _ => rfl⟩, both⟩
  obtain ⟨i, inside, rfl⟩ := List.mem_mapIdx.mp member
  exact both

/-! ## The transactions -/

section Ledger

variable (db : Database) (now : Nat → Time) (mandateId refId : String) (amountMinor : Int)

/-- A reservation that is made is there with both its entries. -/
theorem grows_reserve (maxTotalMinor : Int) :
    db.Grows (Ledger.reserve db now mandateId amountMinor maxTotalMinor refId).2 ∧
      (Paired db →
        (Ledger.reserve db now mandateId amountMinor maxTotalMinor refId).1.isSome = true →
        Reserves (Ledger.reserve db now mandateId amountMinor maxTotalMinor refId).2.ledgerEntries
          refId) := by
  unfold Ledger.reserve
  split
  · exact ⟨.refl db, fun _ made => by cases made⟩
  · split
    · rename_i known
      refine ⟨.refl db, fun paired _ => ?_⟩
      obtain ⟨e, present⟩ := List.exists_mem_of_ne_nil _ known
      simp only [Database.listForRefId, List.mem_filter, decide_eq_true_eq] at present
      exact present.2 ▸ paired e present.1
    · dsimp only
      split
      · exact ⟨.refl db, fun _ made => by cases made⟩
      · obtain ⟨grows, both⟩ := grows_reservation db mandateId amountMinor refId now
        exact ⟨grows, fun _ _ => both⟩

theorem grows_capture : db.Grows (Ledger.capture db now mandateId amountMinor refId).2 := by
  unfold Ledger.capture
  split
  · exact .refl db
  · split
    · exact .refl db
    · rename_i held
      exact grows_addMovements _ _ now (listForRefId_of_state held)
    · exact .refl db

theorem grows_release : db.Grows (Ledger.release db now mandateId amountMinor refId).2 := by
  unfold Ledger.release
  split
  · exact .refl db
  · split
    · exact .refl db
    · rename_i held
      exact grows_addMovements _ _ now (listForRefId_of_state held)
    · exact .refl db

theorem grows_reverseSettlement :
    db.Grows (Ledger.reverseSettlement db now mandateId amountMinor refId).2 := by
  unfold Ledger.reverseSettlement
  split
  · exact .refl db
  · dsimp only
    split
    · exact .refl db
    · split
      · rename_i captured
        refine grows_addMovements _ _ now fun empty => ?_
        rw [empty] at captured
        cases captured
      · exact .refl db

end Ledger

section Orders

variable {P : Platform} {db db' : Database}

theorem grows_modifyOrder (db : Database) (orderId : String) (f : OrderRecord → OrderRecord)
    (keeps : ∀ col ∈ [OrderRecord.id, OrderRecord.idempotencyKey], ∀ o, col (f o) = col o) :
    db.Grows (db.modifyOrder orderId f keeps) := .of_eq rfl rfl rfl

theorem grows_transitionStatus {orderId : String} {status : OrderStatus}
    {paymentId reason : Option String}
    (done : db.transitionStatus orderId status paymentId reason = .ok db') : db.Grows db' := by
  unfold Database.transitionStatus at done
  split at done
  · cases done
  · cases done
    exact .of_eq rfl rfl rfl

theorem grows_completeIdempotencyKey {key : String} {state : KeyState}
    (done : db.completeIdempotencyKey key state = .ok db') : db.Grows db' := by
  unfold Database.completeIdempotencyKey at done
  split at done
  · cases done
  · cases done
    exact .of_eq rfl rfl rfl

theorem grows_addOrder {order : OrderRecord} (done : db.addOrder order = .ok db') :
    db.Grows db' := by
  unfold Database.addOrder at done
  split at done
  · split at done
    · cases done
      exact .of_eq rfl rfl rfl
    · cases done
  · cases done

/-- The audit entry that is written ahead of the provider call. -/
def WrittenAhead (P : Platform) (args : OrderArgs) (entry : Audit.AuditEntry) : Prop :=
  entry.action = .paymentIntent ∧
    entry.payload.get? "idempotency_key" = some (.str (args.key P)) ∧
    entry.payload.get? "order_id" = some (.str args.orderId) ∧
    entry.payload.get? "amount_minor" = some (.int args.amountMinor) ∧
    entry.payload.get? "currency" = some (.str args.currency)

theorem grows_claimOrder {args : OrderArgs} {now : Nat → Time} {won : Bool}
    (done : Payments.claimOrder P args now db = .ok (won, db')) :
    db.Grows db' ∧
      (won = true → ∃ entry ∈ db'.auditLog.entries, WrittenAhead P args entry) := by
  unfold Payments.claimOrder at done
  dsimp only at done
  split at done
  · cases done
    exact ⟨.refl db, fun won => by cases won⟩
  · rename_i claimed inserted
    obtain ⟨keys, -, rfl⟩ := Option.map_eq_some_iff.mp inserted
    obtain ⟨ordered, added, rest⟩ := bind_eq_ok.mp done
    cases rest
    have claimed' : db.Grows { db with idempotencyKeys := keys } := .of_eq rfl rfl rfl
    refine ⟨claimed'.trans ((grows_addOrder added).trans (grows_appendEntry ..)), fun _ => ?_⟩
    obtain ⟨entry, action, payload, entries⟩ := entries_appendEntry P ordered.auditLog args.traceId
      "system" args.actorId .paymentIntent
      (.ofStrings [("order_id", args.orderId), ("mandate_id", args.mandateId)]) _
    refine ⟨entry, ?_, action, ?_⟩
    · rw [Database.appendEntry, entries]
      exact List.mem_append_right _ (List.mem_singleton_self entry)
    · rw [payload]
      exact ⟨rfl, rfl, rfl, rfl⟩

theorem grows_recordOrderCreationFailed {args : OrderArgs} {message : String}
    (done : Payments.recordOrderCreationFailed P args message db = .ok db') : db.Grows db' := by
  obtain ⟨db₁, failed, rest⟩ := bind_eq_ok.mp done
  obtain ⟨db₂, completed, last⟩ := bind_eq_ok.mp rest
  cases last
  exact (grows_transitionStatus failed).trans
    ((grows_completeIdempotencyKey completed).trans (grows_appendEntry ..))

theorem grows_recordProviderOrder {args : OrderArgs} {providerOrderId : String}
    {order : OrderRecord}
    (done : Payments.recordProviderOrder P args providerOrderId db = .ok (order, db')) :
    db.Grows db' := by
  obtain ⟨db₁, set, rest⟩ := bind_eq_ok.mp done
  obtain ⟨db₂, completed, last⟩ := bind_eq_ok.mp rest
  split at last
  · cases last
    unfold Database.setProviderOrderId at set
    split at set
    · cases set
    · cases set
      exact (grows_modifyOrder ..).trans (grows_completeIdempotencyKey completed)
  · cases last

theorem grows_recordPaymentFailed {orderId declineReason reason actorId traceId : String}
    {signature : JSONValue}
    (done : Payments.recordPaymentFailed P orderId declineReason reason signature actorId traceId db
      = .ok db') : db.Grows db' := by
  obtain ⟨db₁, failed, rest⟩ := bind_eq_ok.mp done
  cases rest
  exact (grows_transitionStatus failed).trans (grows_appendEntry ..)

theorem grows_recordPaymentCaptured {orderId paymentId actorId traceId : String}
    {signature : JSONValue}
    (done : Payments.recordPaymentCaptured P orderId paymentId signature actorId traceId db
      = .ok db') : db.Grows db' := by
  obtain ⟨db₁, captured, rest⟩ := bind_eq_ok.mp done
  cases rest
  exact (grows_transitionStatus captured).trans (grows_appendEntry ..)

end Orders

section Compensations

variable {P : Platform} {c : Compensation} {now : Nat → Time} {db db' : Database}

theorem grows_markCompensated {mandateId : String}
    (done : Gate.markCompensated db mandateId = .ok db') : db.Grows db' := by
  unfold Gate.markCompensated at done
  split at done
  · cases done
    exact .refl db
  · split at done
    · cases done
      exact .of_eq rfl rfl rfl
    · cases done
      exact .refl db

theorem grows_recordCompensation {orderId : Option String} {outcomeName : String} {outcome : Bool}
    (done : Gate.recordCompensation P c orderId outcomeName outcome db = .ok db') :
    db.Grows db' := (grows_appendEntry ..).trans (grows_markCompensated done)

theorem grows_failOrder {leftAlone : OrderStatus → Bool} {orderId reason : String}
    (done : Gate.failOrder leftAlone orderId reason db = .ok db') : db.Grows db' := by
  unfold Gate.failOrder at done
  split at done
  · cases done
    exact .refl db
  · split at done
    · cases done
      exact .refl db
    · exact grows_transitionStatus done

theorem grows_releaseReservation
    (done : Gate.releaseReservationAndMarkCompensated P c now db = .ok db') : db.Grows db' := by
  unfold Gate.releaseReservationAndMarkCompensated at done
  exact (grows_release ..).trans (grows_recordCompensation done)

theorem grows_voidOrder {orderId : String}
    (done : Gate.voidOrderAndReleaseReservation P c orderId now db = .ok db') : db.Grows db' := by
  obtain ⟨db₁, failed, rest⟩ := bind_eq_ok.mp done
  exact (grows_failOrder failed).trans ((grows_release ..).trans (grows_recordCompensation rest))

theorem grows_reverseSettlementAfterRefund {orderId : String}
    (done : Gate.reverseSettlementAfterRefund P c orderId now db = .ok db') : db.Grows db' := by
  obtain ⟨db₁, failed, rest⟩ := bind_eq_ok.mp done
  exact (grows_failOrder failed).trans
    ((grows_reverseSettlement ..).trans (grows_recordCompensation rest))

end Compensations

section Sagas

variable {P : Platform} {now : Nat → Time} {db db' : Database}

theorem grows_writeSaga {sagaId step : String} {status : SagaStatus} {orderId : Option String}
    {final : SagaRecord} (done : Saga.writeSaga sagaId step status orderId db = .ok (final, db')) :
    db.Grows db' := by
  obtain ⟨db₁, updated, rest⟩ := bind_eq_ok.mp done
  unfold Database.updateSaga at updated
  split at updated
  · cases updated
  · cases updated
    split at rest
    · cases rest
      exact .of_eq rfl rfl rfl
    · cases rest

theorem grows_openSaga {req : MoneyActionRequest} {key : String} {existing : Option SagaRecord}
    (done : Saga.openSaga req key db = .ok (existing, db')) : db.Grows db' := by
  unfold Saga.openSaga at done
  split at done
  · cases done
    exact .refl db
  · obtain ⟨db₁, added, rest⟩ := bind_eq_ok.mp done
    cases rest
    unfold Database.addSaga at added
    split at added
    · split at added
      · cases added
        exact .of_eq rfl rfl rfl
      · cases added
    · cases added

theorem grows_markSettled {mandateId : String} {amountMinor : Int}
    (done : Saga.markSettled db mandateId amountMinor = .ok db') : db.Grows db' := by
  unfold Saga.markSettled at done
  split at done
  · cases done
    exact .refl db
  · split at done
    · obtain ⟨status, -, rest⟩ := bind_eq_ok.mp done
      cases rest
      exact .of_eq rfl rfl rfl
    · cases done
      exact .refl db

theorem grows_settle {saga : SagaRecord} {orderId paymentId actorId traceId : String}
    {final : Option SagaRecord}
    (done : Saga.settle P saga orderId paymentId actorId traceId now db = .ok (final, db')) :
    db.Grows db' := by
  unfold Saga.settle at done
  dsimp only at done
  have captured := grows_capture db now saga.mandateId saga.id saga.amountMinor
  split at done
  · obtain ⟨db₁, marked, rest⟩ := bind_eq_ok.mp done
    obtain ⟨⟨final', db₂⟩, wrote, last⟩ := bind_eq_ok.mp rest
    cases last
    exact captured.trans ((grows_markSettled marked).trans
      ((grows_appendEntry ..).trans (grows_writeSaga wrote)))
  · cases done
    exact captured

theorem grows_proposeOrder {args : Saga.ProposeArgs} {decisionId : String}
    {proposal : Saga.Proposal}
    (done : Saga.proposeOrder P args decisionId now db = .ok (proposal, db')) : db.Grows db' := by
  unfold Saga.proposeOrder at done
  split at done
  · cases done
    exact .refl db
  · dsimp only at done
    split at done
    · cases done
    · rename_i decisions inserted
      have decided : db.Grows { db with decisions } := .of_eq rfl rfl rfl
      split at done
      · cases done
        exact decided.trans (grows_appendEntry ..)
      · cases done
        exact decided.trans (grows_appendEntry ..)

end Sagas

section Gate

variable {P : Platform} {req : MoneyActionRequest} {key : String} {now : Nat → Time}
  {db db' : Database}

theorem grows_markExecuting {row : MandateRow} {now : Time}
    (done : Gate.markExecuting row now db = .ok db') : db.Grows db' := by
  unfold Gate.markExecuting at done
  split at done
  · split at done
    · cases done
      exact .of_eq rfl rfl rfl
    · cases done
  · cases done
    exact .refl db

/-- After a passed gate the reservation is there. -/
theorem grows_attemptG1ThroughG5 {result : Option Gate.MoneyActionResult}
    (done : Gate.attemptG1ThroughG5 P req key now db = .ok (result, db')) :
    db.Grows db' ∧ (Paired db → result = none → Reserves db'.ledgerEntries key) := by
  unfold Gate.attemptG1ThroughG5 at done
  split at done
  · rename_i passed
    cases done
    obtain ⟨row, one, rest⟩ := bind_eq_ok.mp passed
    obtain ⟨_, two, rest⟩ := bind_eq_ok.mp rest
    obtain ⟨_, four, rest⟩ := bind_eq_ok.mp rest
    obtain ⟨_, five, rest⟩ := bind_eq_ok.mp rest
    obtain ⟨db₁, marked, last⟩ := bind_eq_ok.mp rest
    cases last
    obtain ⟨reserved, both⟩ := grows_reserve db (fun i => now (i + 2)) req.mandateId key
      req.amountMinor row.mandate.bounds.maxTotalMinor
    have executing := grows_markExecuting marked
    exact ⟨reserved.trans (executing.trans (grows_appendEntry ..)), fun paired _ =>
      (both paired (check_ok four)).mono (executing.trans (grows_appendEntry ..)).subset⟩
  · cases done
    exact ⟨.refl db, fun _ none => by cases none⟩
  · cases done

end Gate

section Worker

variable {P : Platform} {db db' : Database}

theorem grows_applyWebhookEvent {traceId actorId : String} {event : WebhookEventRecord}
    (done : Payments.applyWebhookEvent P traceId actorId event db = .ok db') : db.Grows db' := by
  unfold Payments.applyWebhookEvent at done
  dsimp only at done
  split at done
  · cases done
    exact .refl db
  · split at done
    · obtain ⟨looked, found, rest⟩ := bind_eq_ok.mp done
      split at rest
      · cases rest
        exact .refl db
      · split at rest
        · cases rest
          exact .refl db
        · split at rest
          · obtain ⟨db₁, transitioned, last⟩ := bind_eq_ok.mp rest
            cases last
            exact (grows_transitionStatus transitioned).trans (grows_appendEntry ..)
          · split at rest
            · obtain ⟨db₁, transitioned, last⟩ := bind_eq_ok.mp rest
              cases last
              exact (grows_transitionStatus transitioned).trans (grows_appendEntry ..)
            · cases rest
              exact .refl db
    · cases done

theorem grows_markProcessed {eventId : String} {processedAt : Time}
    (done : db.markProcessed eventId processedAt = .ok db') : db.Grows db' := by
  unfold Database.markProcessed at done
  split at done
  · cases done
  · cases done
    exact .of_eq rfl rfl rfl

theorem grows_applyWebhookEvents {now : Nat → Time} {traceId : Nat → String}
    {events : List WebhookEventRecord} {i : Nat}
    (done : Payments.applyWebhookEvents P now traceId i events db = .ok db') : db.Grows db' := by
  induction events generalizing i db with
  | nil =>
      cases done
      exact .refl _
  | cons event events ih =>
      obtain ⟨db₁, applied, rest⟩ := bind_eq_ok.mp done
      obtain ⟨db₂, marked, rest⟩ := bind_eq_ok.mp rest
      exact (grows_applyWebhookEvent applied).trans ((grows_markProcessed marked).trans (ih rest))

theorem grows_processWebhookDelivery (P : Platform) (delivery : Payments.WebhookDelivery)
    (db : Database) : db.Grows (Payments.processWebhookDelivery P delivery db).2 := by
  unfold Payments.processWebhookDelivery
  split
  · exact .refl db
  · split
    · exact .refl db
    · split
      · rename_i claimed
        obtain ⟨events, -, rfl⟩ := Option.map_eq_some_iff.mp claimed
        exact .of_eq rfl rfl rfl
      · exact .refl db

theorem grows_reconcileOrder {traceId : String}
    {poll : Except Failure (List Payments.ProviderPayment)} {order : OrderRecord}
    (done : Payments.reconcileOrder P traceId poll order db = .ok db') : db.Grows db' := by
  unfold Payments.reconcileOrder at done
  dsimp only at done
  split at done
  · cases done
    exact .refl db
  · split at done
    · split at done
      · cases done
        exact .refl db
      · cases done
    · split at done
      · cases done
        exact .refl db
      · split at done
        · obtain ⟨db₁, transitioned, last⟩ := bind_eq_ok.mp done
          cases last
          exact (grows_transitionStatus transitioned).trans (grows_appendEntry ..)
        · obtain ⟨db₁, transitioned, last⟩ := bind_eq_ok.mp done
          cases last
          exact (grows_transitionStatus transitioned).trans (grows_appendEntry ..)
        · cases done
          exact .refl db

theorem grows_reconcileOrders {traceId : Nat → String}
    {polls : Nat → Except Failure (List Payments.ProviderPayment)} {due : List OrderRecord}
    {i : Nat} (done : Payments.reconcileOrders P traceId polls i due db = .ok db') :
    db.Grows db' := by
  induction due generalizing i db with
  | nil =>
      cases done
      exact .refl _
  | cons order due ih =>
      obtain ⟨db₁, reconciled, rest⟩ := bind_eq_ok.mp done
      exact (grows_reconcileOrder reconciled).trans (ih rest)

theorem grows_sweepReservation {now : Nat → Time} {traceId refId : String} {expired : Bool}
    (done : Ledger.sweepReservation P db now traceId refId = .ok (expired, db')) :
    db.Grows db' := by
  unfold Ledger.sweepReservation at done
  dsimp only at done
  split at done
  · cases done
    exact .refl db
  · rename_i held
    split at done
    · cases done
    · split at done
      · cases done
        exact .refl db
      · cases done
        exact (grows_addMovements _ _ now
          (listForRefId_of_state (not_not.mp held))).trans (grows_appendEntry ..)

theorem grows_sweepAll {now : Nat → Nat → Time} {traceId : Nat → String}
    {candidates : List String} {i : Nat} {swept : List String}
    (done : Ledger.sweepAll P now traceId i candidates db = .ok (swept, db')) : db.Grows db' := by
  induction candidates generalizing i db swept with
  | nil =>
      cases done
      exact .refl _
  | cons refId candidates ih =>
      obtain ⟨⟨expired, db₁⟩, first, rest⟩ := bind_eq_ok.mp done
      obtain ⟨⟨swept', db₂⟩, second, last⟩ := bind_eq_ok.mp rest
      cases last
      exact (grows_sweepReservation first).trans (ih second)

end Worker

/-! ## The actions -/

theorem grows_of_transaction {α : Type} {w : World} {dbError : Bool}
    {body : Database → Except Failure (α × Database)}
    (grows : ∀ value db, body w.db = .ok (value, db) → w.db.Grows db) :
    w.db.Grows (w.transaction dbError body).2.db := by
  rcases w.transaction_cases dbError body with ⟨failure, done, -⟩ | ⟨value, db, -, ran, done⟩
  · rw [done]
    exact .refl _
  · rw [done]
    exact grows value db ran

theorem grows_of_command {w : World} {dbError : Bool} {body : Database → Except Failure Database}
    (grows : ∀ db, body w.db = .ok db → w.db.Grows db) :
    w.db.Grows (w.command dbError body).2.db := by
  rcases w.command_cases dbError body with ⟨failure, done, -⟩ | ⟨db, -, ran, done⟩
  · rw [done]
    exact .refl _
  · rw [done]
    exact grows db ran

theorem grows_catalogued {P : Platform} {db db' : Database}
    (catalogued : Catalog.Catalogued P db db') : db.Grows db' := by
  rcases catalogued.audit with same | ⟨traceId, actorType, actorId, action, subject, payload, log⟩
  · exact .of_eq catalogued.ledgerEntries same catalogued.integrity
  · refine (grows_appendEntry db P traceId actorType actorId action subject payload).trans ?_
    exact .of_eq catalogued.ledgerEntries log catalogued.integrity

/-- No action takes anything back. -/
theorem execute_grows (P : Platform) (action : Action) (input : Input) (w : World) :
    w.db.Grows (execute P action input w).2.db := by
  cases action with
  | attemptG1ThroughG5 req key =>
      exact grows_of_transaction fun value db done => (grows_attemptG1ThroughG5 done).1
  | claimOrder args => exact grows_of_transaction fun won db done => (grows_claimOrder done).1
  | recordOrderCreationFailed args message =>
      exact grows_of_command fun db done => grows_recordOrderCreationFailed done
  | recordProviderOrder args providerOrderId =>
      exact grows_of_transaction fun order db done => grows_recordProviderOrder done
  | releaseReservation c =>
      exact grows_of_command fun db done => grows_releaseReservation done
  | openSaga req key => exact grows_of_transaction fun existing db done => grows_openSaga done
  | resolveSaga key result =>
      refine grows_of_transaction fun final db done => ?_
      unfold Saga.resolveSaga at done
      split at done
      · exact grows_writeSaga done
      · exact grows_writeSaga done
  | recordPaymentFailed orderId declineReason reason signature actorId traceId =>
      exact grows_of_command fun db done => grows_recordPaymentFailed done
  | recordPaymentCaptured orderId paymentId signature actorId traceId =>
      exact grows_of_command fun db done => grows_recordPaymentCaptured done
  | settle saga orderId paymentId actorId traceId =>
      exact grows_of_transaction fun final db done => grows_settle done
  | reverseSettlement c orderId =>
      exact grows_of_command fun db done => grows_reverseSettlementAfterRefund done
  | voidOrder c orderId => exact grows_of_command fun db done => grows_voidOrder done
  | finalizeSaga sagaId step status =>
      exact grows_of_transaction fun final db done => grows_writeSaga done
  | proposeOrder args => exact grows_of_transaction fun proposal db done => grows_proposeOrder done
  | updateMandateStatus mandateId status =>
      refine grows_of_command fun db done => ?_
      cases done
      exact .of_eq rfl rfl rfl
  | processWebhookDelivery delivery =>
      refine grows_of_transaction fun receipt db done => ?_
      have grows := grows_processWebhookDelivery P delivery w.db
      rw [Except.ok.inj done] at grows
      exact grows
  | processUnprocessedWebhooks =>
      refine grows_of_command fun db done => ?_
      obtain ⟨_, -, rest⟩ := bind_eq_ok.mp done
      exact grows_applyWebhookEvents rest
  | reconcileNonTerminalOrders =>
      refine grows_of_command fun db done => ?_
      obtain ⟨_, -, rest⟩ := bind_eq_ok.mp done
      exact grows_reconcileOrders rest
  | sweep =>
      refine grows_of_command fun db done => ?_
      cases swept : Ledger.sweep P input.now input.ids P.settings.reservationTtlS w.db with
      | error failure =>
          rw [swept] at done
          cases done
      | ok pair =>
          rw [swept] at done
          cases done
          obtain ⟨_, -, rest⟩ := bind_eq_ok.mp swept
          exact grows_sweepAll rest
  | verifyChainAndHaltOnFailure tables fromSeq toSeq =>
      refine grows_of_transaction fun result db done => ?_
      rcases verifyChainAndHaltOnFailure_ok done with ⟨-, rfl⟩ | ⟨-, reason, trippedSeq, rfl⟩
      · exact .refl _
      · exact grows_tripIntegrity ..
  | createQuote args =>
      refine grows_of_transaction fun quote db done => ?_
      exact grows_catalogued (Catalog.createQuote_ok done).2.2
  | mutatePrice args =>
      exact grows_of_command fun db done => grows_catalogued (Catalog.mutatePriceDemoOnly_ok done).2
  | upsertItem item =>
      exact grows_of_command fun db done => grows_catalogued (Catalog.upsertItem_ok (P := P) done).2
  | createOrder args =>
      simp only [execute, World.external_db]
      exact .refl _
  | fetchPayments providerOrderId =>
      simp only [execute, World.external_db]
      exact .refl _
  | capturePayment paymentId amountMinor =>
      simp only [execute, World.external_db]
      exact .refl _
  | refundPayment paymentId amountMinor idempotencyKey =>
      simp only [execute, World.external_db]
      exact .refl _
  | getHaltState =>
      simp only [execute, World.query_world]
      exact .refl _
  | lookupIdempotencyKey key =>
      simp only [execute, World.query_world]
      exact .refl _
  | pollIdempotencyKey key =>
      simp only [execute, World.query_world]
      exact .refl _
  | getSaga sagaId =>
      simp only [execute, World.query_world]
      exact .refl _
  | getMandateStatus mandateId =>
      simp only [execute, World.query_world]
      exact .refl _
  | getOrder orderId =>
      simp only [execute, World.query_world]
      exact .refl _

end Actl
