import Actl.Effects.Growth
import Actl.Effects.Holds
import Actl.Effects.Provider
import Actl.Foundation.Journal
import Actl.Runs.Halt
import Actl.Runs.Idempotency
import Actl.Runs.Terms
import Actl.Runs.WriteAhead

/-!
# What becomes of a payment

A payment is captured at the provider by a call that completes a saga, after its signature
was verified. A saga that is COMPLETED is paid for: its payment was captured, its
reservation is captured in the ledger and nothing takes that back
(`completed_sagas_are_paid`). A saga that is COMPENSATED holds nothing any more: its order
was voided, or what was captured for it was refunded (`compensated_sagas_are_undone`). A
payment is refunded only when the reservation had lapsed before it could be captured
(`provider_payments_accounted`), so the reversal that goes with the refund never finds
anything to reverse (`nothing_is_reversed`).
-/

set_option autoImplicit false

namespace Actl

open Foundation (Step Table Continues Recalls continues_started continues_stepped recalls_nil)
open Foundation.System (Config Lawful initial run_journal_invariant admissible_of_forall)
open Gate (MoneyActionRequest)
open Ledger (Phase Orderly phaseOf)

/-! ## Phases that stay -/

/-- The reservation has ended without being captured. -/
def Lapsed (db : Database) (refId : String) : Prop :=
  phaseOf db refId = some .released ∨ phaseOf db refId = some .expired

/-- The reservation was made and holds nothing any more. -/
def Ended (db : Database) (refId : String) : Prop :=
  phaseOf db refId ≠ none ∧ phaseOf db refId ≠ some .held

theorem Lapsed.ended {db : Database} {refId : String} (lapsed : Lapsed db refId) :
    Ended db refId := by
  rcases lapsed with released | expired
  · exact ⟨by rw [released]; decide, by rw [released]; decide⟩
  · exact ⟨by rw [expired]; decide, by rw [expired]; decide⟩

section Kept

variable {P : Platform} {action : Action} {input : Input} {w : World} {refId : String}

theorem present_kept (orderly : Orderly w.db) (present : phaseOf w.db refId ≠ none) :
    phaseOf (execute P action input w).2.db refId ≠ none := by
  have becomes := (execute_holds P action input w orderly).phases refId
  generalize phaseOf w.db refId = source at becomes present
  generalize phaseOf (execute P action input w).2.db refId = target at becomes ⊢
  cases becomes with
  | same => exact present
  | opened req issued => exact absurd rfl present
  | captured saga orderId paymentId actorId traceId issued ref => simp
  | released c issued ref => simp
  | expired issued old => simp
  | reversed c orderId issued ref => simp

theorem Ended.kept (orderly : Orderly w.db) (ended : Ended w.db refId) :
    Ended (execute P action input w).2.db refId := by
  have becomes := (execute_holds P action input w orderly).phases refId
  unfold Ended at ended ⊢
  generalize phaseOf w.db refId = source at becomes ended
  generalize phaseOf (execute P action input w).2.db refId = target at becomes ⊢
  cases becomes with
  | same => exact ended
  | opened req issued => exact absurd rfl ended.1
  | captured saga orderId paymentId actorId traceId issued ref => exact absurd rfl ended.2
  | released c issued ref => exact absurd rfl ended.2
  | expired issued old => exact absurd rfl ended.2
  | reversed c orderId issued ref => simp

theorem Lapsed.kept (orderly : Orderly w.db) (lapsed : Lapsed w.db refId) :
    Lapsed (execute P action input w).2.db refId := by
  have becomes := (execute_holds P action input w orderly).phases refId
  unfold Lapsed at lapsed ⊢
  generalize phaseOf w.db refId = source at becomes lapsed
  generalize phaseOf (execute P action input w).2.db refId = target at becomes ⊢
  cases becomes with
  | same => exact lapsed
  | opened req issued => simp at lapsed
  | captured saga orderId paymentId actorId traceId issued ref => simp at lapsed
  | released c issued ref => simp at lapsed
  | expired issued old => simp at lapsed
  | reversed c orderId issued ref => simp at lapsed

/-- What is captured stays so until it is reversed. -/
theorem captured_kept (orderly : Orderly w.db) (captured : phaseOf w.db refId = some .captured)
    (unreversed : phaseOf (execute P action input w).2.db refId ≠ some .reversed) :
    phaseOf (execute P action input w).2.db refId = some .captured := by
  have becomes := (execute_holds P action input w orderly).phases refId
  rw [captured] at becomes
  generalize phaseOf (execute P action input w).2.db refId = target at becomes unreversed ⊢
  cases becomes with
  | same => rfl
  | reversed c orderId issued ref => exact absurd rfl unreversed

end Kept

/-! ## The sagas and their mandates -/

/-- The mandates of the sagas are in the store, as the foreign key demands. -/
def Enrolled (db : Database) : Prop :=
  ∀ s ∈ db.sagas, ∃ row, db.getMandate s.mandateId = some row

/-- A saga is opened only for a mandate that is in the store. -/
theorem openSaga_enrolled {req : MoneyActionRequest} {key : String} {db db' : Database}
    {existing : Option SagaRecord} (done : Saga.openSaga req key db = .ok (existing, db'))
    (enrolled : Enrolled db) : Enrolled db' := by
  unfold Saga.openSaga at done
  split at done
  · cases done
    exact enrolled
  · obtain ⟨db₁, added, rest⟩ := Foundation.bind_eq_ok.mp done
    cases rest
    unfold Database.addSaga at added
    split at added
    next admits =>
      split at added
      next sagas inserted =>
        cases added
        intro s member
        rcases (Table.mem_of_insert? inserted).mp member with old | rfl
        · exact enrolled s old
        · obtain ⟨row, stored, mine⟩ := admits.1
          exact ⟨row, (Table.get?_eq_some_iff (by simp)).mpr ⟨Table.mem_def.mpr stored, mine⟩⟩
      next => cases added
    next => cases added

theorem Enrolled.kept {P : Platform} {action : Action} {input : Input} {w : World}
    (enrolled : Enrolled w.db) : Enrolled (execute P action input w).2.db := by
  intro s' member'
  rcases (execute_sagas P action input w).backward s' member' with
    ⟨s, member, becomes⟩ | ⟨req, born⟩
  · obtain ⟨row, found⟩ := enrolled s member
    rw [← becomes.same.mandateId] at found
    obtain ⟨row', found', -⟩ :=
      getMandate_of_locked (execute_frame P action input w).mandates found
    exact ⟨row', found'⟩
  · rw [born.action] at member' ⊢
    simp only [execute] at member' ⊢
    rcases w.transaction_cases input.dbError (Saga.openSaga req s'.id) with
      ⟨failure, done, -⟩ | ⟨existing, db, -, ran, done⟩
    · rw [done] at member' ⊢
      exact enrolled s' member'
    · rw [done] at member' ⊢
      exact openSaga_enrolled ran enrolled s' member'

theorem SagaRecord.SamePurchase.trans {s s' s'' : SagaRecord} (first : s.SamePurchase s')
    (second : s'.SamePurchase s'') : s.SamePurchase s'' :=
  ⟨second.id.trans first.id, second.mandateId.trans first.mandateId,
    second.amountMinor.trans first.amountMinor⟩

/-! ## What the steps leave behind -/

/-- The entry that closes the settlement of a saga. -/
def Closes (saga : SagaRecord) (orderId paymentId : String) (entry : Audit.AuditEntry) : Prop :=
  entry.action = .settlementClosed ∧
    entry.payload = .obj [("order_id", .str orderId), ("mandate_id", .str saga.mandateId),
      ("amount_minor", .int saga.amountMinor), ("provider_payment_id", .str paymentId)]

/-- What a step has left behind. -/
structure Leaves (P : Platform) (w : World) (s : Step Action Input World) : Prop where
  passed : ∀ req key, Answered P s (.attemptG1ThroughG5 req key) none → phaseOf w.db key ≠ none
  read : ∀ sagaId saga, Answered P s (.getSaga sagaId) (some saga) → saga.id = sagaId ∧
    (∃ row ∈ w.db.sagas, saga.SamePurchase row) ∧
      (saga.status = .awaitingAuthorization → phaseOf w.db saga.id ≠ none)
  charged : ∀ paymentId amountMinor, Answered P s (.capturePayment paymentId amountMinor) () →
    paymentId ∈ w.provider.captured
  refunded : ∀ paymentId amountMinor key,
    Answered P s (.refundPayment paymentId amountMinor key) () → paymentId ∈ w.provider.refunded
  refused : ∀ saga orderId paymentId actorId traceId,
    Answered P s (.settle saga orderId paymentId actorId traceId) none → Lapsed w.db saga.id
  voided : ∀ c orderId, Answered P s (.voidOrder c orderId) () → Ended w.db c.refId

section Leaving

variable {P : Platform} {action : Action} {input : Input} {w : World} {refId : String}

/-- No action takes back what a step has left. -/
theorem Leaves.kept {s : Step Action Input World} (leaves : Leaves P w s) (orderly : Orderly w.db)
    (action : Action) (input : Input) : Leaves P (execute P action input w).2 s where
  passed req key answered := present_kept orderly (leaves.passed req key answered)
  read sagaId saga answered := by
    obtain ⟨id, ⟨row, member, same⟩, reserved⟩ := leaves.read sagaId saga answered
    obtain ⟨row', member', becomes⟩ := (execute_sagas P action input w).forward row member
    exact ⟨id, ⟨row', member', same.trans becomes.same⟩,
      fun awaiting => present_kept orderly (reserved awaiting)⟩
  charged paymentId amountMinor answered :=
    (execute_provider P action input w).captured (leaves.charged paymentId amountMinor answered)
  refunded paymentId amountMinor key answered :=
    (execute_provider P action input w).refunded (leaves.refunded paymentId amountMinor key answered)
  refused saga orderId paymentId actorId traceId answered :=
    (leaves.refused saga orderId paymentId actorId traceId answered).kept orderly
  voided c orderId answered := (leaves.voided c orderId answered).kept orderly

/-- A passed gate leaves the reservation. -/
theorem passed_phase {req : MoneyActionRequest} {key : String} (paired : Paired w.db)
    (orderly : Orderly w.db)
    (passed : (execute P (.attemptG1ThroughG5 req key) input w).1 = .ok none) :
    phaseOf (execute P (.attemptG1ThroughG5 req key) input w).2.db key ≠ none := by
  have reserves := passed_reserves paired passed
  have after := (execute_holds P (.attemptG1ThroughG5 req key) input w orderly).orderly
  intro absent
  have empty := after.phaseOf_eq_none.mp absent
  obtain ⟨mandateId, amountMinor, both⟩ := reserves
  obtain ⟨e, present, -, ref, -⟩ := both _ List.mem_cons_self
  have listed : e ∈ (execute P (.attemptG1ThroughG5 req key) input w).2.db.listForRefId key :=
    List.mem_filter.mpr ⟨present, decide_eq_true ref⟩
  rw [empty] at listed
  cases listed

/-- The ledger refuses a capture only when the reservation has lapsed. -/
theorem refused_lapsed {saga : SagaRecord} {orderId paymentId actorId traceId : String}
    (known : ∃ row, w.db.getMandate saga.mandateId = some row)
    (present : phaseOf w.db saga.id ≠ none) (unreversed : phaseOf w.db saga.id ≠ some .reversed)
    (refused : (execute P (.settle saga orderId paymentId actorId traceId) input w).1 = .ok none) :
    Lapsed w.db saga.id := by
  simp only [execute] at refused
  rcases w.transaction_cases input.dbError
    (Saga.settle P saga orderId paymentId actorId traceId (input.now 0)) with
    ⟨failure, done, -⟩ | ⟨final, db, -, ran, done⟩
  · rw [done] at refused
    cases refused
  · rw [done] at refused
    cases refused
    rcases settle_ok ran with ⟨-, refused, -⟩ | ⟨-, settled, -⟩
    · obtain ⟨row, found⟩ := known
      have state := Ledger.stateOfRef_eq_map_phaseOf w.db saga.id
      unfold Ledger.capture at refused
      rw [found] at refused
      unfold Lapsed
      generalize phaseOf w.db saga.id = phase at present unreversed state ⊢
      cases phase with
      | none => exact absurd rfl present
      | some phase =>
          rw [state] at refused
          cases phase with
          | held => simp [Phase.state] at refused
          | captured => simp [Phase.state] at refused
          | released => exact .inl rfl
          | expired => exact .inr rfl
          | reversed => exact absurd rfl unreversed
    · exact absurd rfl settled

/-- A voided order leaves nothing on hold. -/
theorem voided_ended {c : Gate.Compensation} {orderId : String} (orderly : Orderly w.db)
    (known : ∃ row, w.db.getMandate c.mandateId = some row)
    (present : phaseOf w.db c.refId ≠ none)
    (voided : (execute P (.voidOrder c orderId) input w).1 = .ok ()) :
    Ended (execute P (.voidOrder c orderId) input w).2.db c.refId := by
  refine ⟨present_kept orderly present, ?_⟩
  simp only [execute] at voided ⊢
  rcases w.command_cases input.dbError (Gate.voidOrderAndReleaseReservation P c orderId (input.now 0))
    with ⟨failure, done, -⟩ | ⟨db, -, ran, done⟩
  · rw [done] at voided
    cases voided
  · rw [done]
    obtain ⟨middle, -, mandates, ledger⟩ := (voidOrder_ok ran).ledger
    obtain ⟨row, found⟩ := known
    obtain ⟨row', found', -⟩ := getMandate_of_locked mandates found
    have freed : Ledger.stateOfRef
        (Ledger.release middle (input.now 0) c.mandateId c.amountMinor c.refId).2 c.refId
          ≠ some .held :=
      Ledger.stateOfRef_release_ne_held (input.now 0) c.mandateId c.refId c.amountMinor found'
    rw [Ne, Ledger.stateOfRef_eq_held] at freed
    rwa [Ledger.phaseOf_congr ledger]

/-- A successful settlement captures the reservation and closes it in the log. -/
theorem settled_closes {saga final : SagaRecord} {orderId paymentId actorId traceId : String}
    (settled : (execute P (.settle saga orderId paymentId actorId traceId) input w).1
      = .ok (some final)) :
    ∃ entry ∈ (execute P (.settle saga orderId paymentId actorId traceId) input w).2.db.auditLog.entries,
      Closes saga orderId paymentId entry := by
  simp only [execute] at settled ⊢
  rcases w.transaction_cases input.dbError
    (Saga.settle P saga orderId paymentId actorId traceId (input.now 0)) with
    ⟨failure, done, -⟩ | ⟨result, db, -, ran, done⟩
  · rw [done] at settled
    cases settled
  · rw [done] at settled ⊢
    cases settled
    unfold Saga.settle at ran
    dsimp only at ran
    split at ran
    · obtain ⟨db₁, -, rest⟩ := Foundation.bind_eq_ok.mp ran
      obtain ⟨⟨row, db₂⟩, wrote, last⟩ := Foundation.bind_eq_ok.mp rest
      cases last
      obtain ⟨entry, action, payload, entries⟩ := entries_appendEntry P db₁.auditLog traceId "system"
        actorId .settlementClosed
        (.ofStrings [("order_id", orderId), ("mandate_id", saga.mandateId)])
        (.obj [("order_id", .str orderId), ("mandate_id", .str saga.mandateId),
          ("amount_minor", .int saga.amountMinor), ("provider_payment_id", .str paymentId)])
      refine ⟨entry, (grows_writeSaga wrote).audit.subset ?_, action, payload⟩
      show entry ∈ (db₁.auditLog.appendEntry ..).entries
      rw [entries]
      exact List.mem_append_right _ (List.mem_singleton_self entry)
    · cases ran

/-- A capture that succeeds leaves the reservation captured, unless it was reversed. -/
theorem capture_phase {db : Database} {now : Nat → Time} {mandateId : String} {amountMinor : Int}
    (orderly : Orderly db) (unreversed : phaseOf db refId ≠ some .reversed)
    (captured : (Ledger.capture db now mandateId amountMinor refId).1 = true) :
    phaseOf (Ledger.capture db now mandateId amountMinor refId).2 refId = some .captured := by
  have state := Ledger.stateOfRef_eq_map_phaseOf db refId
  unfold Ledger.capture at captured ⊢
  split
  next absent =>
    rw [absent] at captured
    cases captured
  next row found =>
    rw [found] at captured
    dsimp only at captured ⊢
    split
    next already =>
      -- The capture of a captured reservation posts nothing.
      rw [already] at state
      dsimp only
      generalize phaseOf db refId = phase at state unreversed
      cases phase with
      | none => cases state
      | some phase =>
          cases phase with
          | captured => rfl
          | reversed => exact absurd rfl unreversed
          | held => cases state
          | released => cases state
          | expired => cases state
    next held =>
      have held' := Ledger.stateOfRef_eq_held.mp held
      exact (Ledger.moves_addMovements orderly held'
        ((orderly refId).leave_held held' (by simp))).after
    next lost held =>
      cases state' : Ledger.stateOfRef db refId with
      | none =>
          rw [state'] at captured
          cases captured
      | some now =>
          rw [state'] at captured
          cases now with
          | captured => exact absurd state' lost
          | held => exact absurd state' held
          | released => cases captured
          | expired => cases captured

theorem settled_captured {saga final : SagaRecord} {orderId paymentId actorId traceId : String}
    (orderly : Orderly w.db) (unreversed : phaseOf w.db saga.id ≠ some .reversed)
    (settled : (execute P (.settle saga orderId paymentId actorId traceId) input w).1
      = .ok (some final)) :
    phaseOf (execute P (.settle saga orderId paymentId actorId traceId) input w).2.db saga.id
      = some .captured := by
  simp only [execute] at settled ⊢
  rcases w.transaction_cases input.dbError
    (Saga.settle P saga orderId paymentId actorId traceId (input.now 0)) with
    ⟨failure, done, -⟩ | ⟨result, db, -, ran, done⟩
  · rw [done] at settled
    cases settled
  · rw [done] at settled ⊢
    cases settled
    rcases settle_ok ran with ⟨none, -⟩ | ⟨captured, -, ledger, -⟩
    · cases none
    · rw [Ledger.phaseOf_congr ledger]
      exact capture_phase orderly unreversed captured

/-- A settlement has succeeded or has left the sagas alone. -/
theorem settle_sagas_cases (P : Platform) (input : Input) (w : World) (saga : SagaRecord)
    (orderId paymentId actorId traceId : String) :
    (∃ final, (execute P (.settle saga orderId paymentId actorId traceId) input w).1
      = .ok (some final)) ∨
    (execute P (.settle saga orderId paymentId actorId traceId) input w).2.db.sagas
      = w.db.sagas := by
  simp only [execute]
  rcases w.transaction_cases input.dbError
    (Saga.settle P saga orderId paymentId actorId traceId (input.now 0)) with
    ⟨failure, done, -⟩ | ⟨result, db, -, ran, done⟩
  · rw [done]
    exact .inr rfl
  · rw [done]
    rcases settle_ok ran with ⟨-, -, rfl⟩ | ⟨-, settled, -⟩
    · exact .inr (frame_capture ..).sagas
    · obtain ⟨final, rfl⟩ := Option.ne_none_iff_exists'.mp settled
      exact .inl ⟨final, rfl⟩

end Leaving

/-! ## The evidence -/

section Evidence

variable (P : Platform)

/-- A call completes the saga with a payment whose signature it has verified. -/
def Authorized (journal : Journal) (args : CompleteArgs) (saga : SagaRecord) (orderId : String) :
    Prop :=
  ∃ call past, (call, past) ∈ journal ∧ Completes P call past args saga orderId ∧
    P.verifyCheckoutSignature args.providerOrderId args.providerPaymentId args.providerSignature
      = true

/-- The saga is paid for: the payment was captured, and the settlement is closed in the
audit log. -/
def Paid (w : World) (journal : Journal) (s : SagaRecord) : Prop :=
  ∃ args saga orderId, Authorized P journal args saga orderId ∧ saga.SamePurchase s ∧
    args.providerPaymentId ∈ w.provider.captured ∧
    ∃ entry ∈ w.db.auditLog.entries, Closes saga orderId args.providerPaymentId entry

/-- A call has voided the order of the saga. -/
def Voided (journal : Journal) (s : SagaRecord) : Prop :=
  ∃ call past args saga orderId reason, (call, past) ∈ journal ∧
    Completes P call past args saga orderId ∧ saga.SamePurchase s ∧
    Did P past (.voidOrder (sagaCompensation args saga reason) orderId) ()

/-- The payment of the saga was captured and refunded. -/
def Refunded (w : World) (journal : Journal) (s : SagaRecord) : Prop :=
  ∃ args saga orderId, Authorized P journal args saga orderId ∧ saga.SamePurchase s ∧
    args.providerPaymentId ∈ w.provider.captured ∧
    args.providerPaymentId ∈ w.provider.refunded ∧ Lapsed w.db s.id

variable {P} {w : World} {journal journal' : Journal} {s : SagaRecord}

theorem Authorized.mono {args : CompleteArgs} {saga : SagaRecord} {orderId : String}
    (authorized : Authorized P journal args saga orderId) (continues : Continues journal journal') :
    Authorized P journal' args saga orderId := by
  obtain ⟨call, past, member, completes, verified⟩ := authorized
  obtain ⟨past', member', longer⟩ := continues call past member
  exact ⟨call, past', member', completes.mono longer, verified⟩

theorem Voided.mono {s' : SagaRecord} (voided : Voided P journal s)
    (continues : Continues journal journal') (same : s.SamePurchase s') : Voided P journal' s' := by
  obtain ⟨call, past, args, saga, orderId, reason, member, completes, mine, did⟩ := voided
  obtain ⟨past', member', longer⟩ := continues call past member
  exact ⟨call, past', args, saga, orderId, reason, member', completes.mono longer, mine.trans same,
    did.mono longer⟩

theorem Paid.kept {s' : SagaRecord} (paid : Paid P w journal s)
    (continues : Continues journal journal') (same : s.SamePurchase s') (action : Action)
    (input : Input) : Paid P (execute P action input w).2 journal' s' := by
  obtain ⟨args, saga, orderId, authorized, mine, charged, entry, logged, closes⟩ := paid
  exact ⟨args, saga, orderId, authorized.mono continues, mine.trans same,
    (execute_provider P action input w).captured charged, entry,
    (execute_grows P action input w).audit.subset logged, closes⟩

theorem Refunded.kept {s' : SagaRecord} (refunded : Refunded P w journal s)
    (orderly : Orderly w.db) (continues : Continues journal journal') (same : s.SamePurchase s')
    (action : Action) (input : Input) : Refunded P (execute P action input w).2 journal' s' := by
  obtain ⟨args, saga, orderId, authorized, mine, charged, returned, lapsed⟩ := refunded
  have provider := execute_provider P action input w
  exact ⟨args, saga, orderId, authorized.mono continues, mine.trans same,
    provider.captured charged, provider.refunded returned, same.id ▸ lapsed.kept orderly⟩

end Evidence

/-! ## The invariant -/

section Settled

variable {P : Platform} {w : World} {call : Call} {past : Past}

/-- A call that may settle has verified the payment and has charged it. -/
theorem settle_charged (recalled : ∀ s ∈ past, Leaves P w s)
    (lawful : Lawful (S := application P) (May P) call past) {saga : SagaRecord}
    {orderId paymentId actorId traceId : String}
    (permitted : May P call past (.settle saga orderId paymentId actorId traceId)) :
    ∃ args, Completes P call past args saga orderId ∧ args.providerPaymentId = paymentId ∧
      P.verifyCheckoutSignature args.providerOrderId args.providerPaymentId args.providerSignature
        = true ∧ paymentId ∈ w.provider.captured := by
  obtain ⟨args, signature, actorId', traceId', completes, rfl, verified, s, earlier, rfl,
    recorded⟩ := permitted
  obtain ⟨permitted, -⟩ := lawful
  rw [recorded.1] at permitted
  obtain ⟨-, -, amountMinor, -, -, -, s', earlier', rfl, captured⟩ := permitted
  refine ⟨args, completes, rfl, verified, ?_⟩
  exact (recalled s' (List.mem_cons_of_mem _ List.mem_cons_self)).charged _ amountMinor captured

/-- The same about a call that has settled, whatever came of it. -/
theorem settled_charged (recalled : ∀ s ∈ past, Leaves P w s)
    (lawful : Lawful (S := application P) (May P) call past) {saga : SagaRecord}
    {orderId paymentId actorId traceId : String} {result : Option SagaRecord}
    (settled : Did P past (.settle saga orderId paymentId actorId traceId) result) :
    ∃ args, Completes P call past args saga orderId ∧ args.providerPaymentId = paymentId ∧
      P.verifyCheckoutSignature args.providerOrderId args.providerPaymentId args.providerSignature
        = true ∧ paymentId ∈ w.provider.captured := by
  induction past with
  | nil =>
      obtain ⟨s, taken, -⟩ := settled
      cases taken
  | cons s past ih =>
      obtain ⟨s', taken, answered⟩ := settled
      obtain ⟨permitted, lawful⟩ := lawful
      have recalled' : ∀ s ∈ past, Leaves P w s :=
        fun s member => recalled s (List.mem_cons_of_mem _ member)
      have found : ∃ args, Completes P call past args saga orderId ∧
          args.providerPaymentId = paymentId ∧ P.verifyCheckoutSignature args.providerOrderId
            args.providerPaymentId args.providerSignature = true ∧
          paymentId ∈ w.provider.captured := by
        rcases List.mem_cons.mp taken with rfl | earlier
        · rw [answered.1] at permitted
          exact settle_charged recalled' lawful permitted
        · exact ih recalled' lawful ⟨s', earlier, answered⟩
      obtain ⟨args, completes, rest⟩ := found
      exact ⟨args, completes.mono (List.suffix_cons s past), rest⟩

end Settled

/-- What becomes of the payments and the sagas. -/
structure Settling (P : Platform) (w : World) (journal : Journal) : Prop where
  enrolled : Enrolled w.db
  orderly : Orderly w.db
  paired : Paired w.db
  unreversed : ∀ refId, phaseOf w.db refId ≠ some .reversed
  recalls : Recalls (Leaves P w) journal
  awaiting : ∀ s ∈ w.db.sagas, s.status = .awaitingAuthorization → phaseOf w.db s.id ≠ none
  completed : ∀ s ∈ w.db.sagas, s.status = .completed →
    phaseOf w.db s.id = some .captured ∧ Paid P w journal s
  compensated : ∀ s ∈ w.db.sagas, s.status = .compensated →
    Ended w.db s.id ∧ (Voided P journal s ∨ Refunded P w journal s)
  charged : ∀ paymentId ∈ w.provider.captured, ∃ args saga orderId,
    Authorized P journal args saga orderId ∧ args.providerPaymentId = paymentId
  refunded : ∀ paymentId ∈ w.provider.refunded, paymentId ∈ w.provider.captured ∧
    ∃ args saga orderId, Authorized P journal args saga orderId ∧
      args.providerPaymentId = paymentId ∧ Lapsed w.db saga.id

/-- A world in which nothing was sold yet. -/
structure Blank (w : World) : Prop where
  noSagas : ∀ s, s ∉ w.db.sagas
  noEntries : w.db.ledgerEntries = []
  noPayments : w.provider.captured = [] ∧ w.provider.refunded = []

namespace Settling

variable {P : Platform} {w : World} {journal : Journal} {index : Nat} {call : Call} {past : Past}
variable {action : Action} {input : Input}

theorem initial (P : Platform) (blank : Blank w) : Settling P w [] where
  enrolled s member := absurd member (blank.noSagas s)
  orderly := Ledger.orderly_of_empty blank.noEntries
  paired e member := by
    rw [blank.noEntries] at member
    cases member
  unreversed refId := by
    rw [(Ledger.orderly_of_empty blank.noEntries).phaseOf_eq_none.mpr
      (by simp [Database.listForRefId, blank.noEntries])]
    decide
  recalls := recalls_nil _
  awaiting s member := absurd member (blank.noSagas s)
  completed s member := absurd member (blank.noSagas s)
  compensated s member := absurd member (blank.noSagas s)
  charged paymentId member := by
    rw [blank.noPayments.1] at member
    cases member
  refunded paymentId member := by
    rw [blank.noPayments.2] at member
    cases member

theorem started (settling : Settling P w journal) (call : Call) :
    Settling P w (journal ++ [(call, [])]) := by
  have continues := continues_started journal call
  refine ⟨settling.enrolled, settling.orderly, settling.paired, settling.unreversed,
    settling.recalls.started call, settling.awaiting, fun s member completed => ?_, fun s member compensated => ?_,
    fun paymentId member => ?_, fun paymentId member => ?_⟩
  · obtain ⟨captured, args, saga, orderId, authorized, paid⟩ := settling.completed s member completed
    exact ⟨captured, args, saga, orderId, authorized.mono continues, paid⟩
  · obtain ⟨ended, undone⟩ := settling.compensated s member compensated
    refine ⟨ended, ?_⟩
    rcases undone with voided | ⟨args, saga, orderId, authorized, refunded⟩
    · exact .inl (voided.mono continues ⟨rfl, rfl, rfl⟩)
    · exact .inr ⟨args, saga, orderId, authorized.mono continues, refunded⟩
  · obtain ⟨args, saga, orderId, authorized, mine⟩ := settling.charged paymentId member
    exact ⟨args, saga, orderId, authorized.mono continues, mine⟩
  · obtain ⟨charged, args, saga, orderId, authorized, mine⟩ := settling.refunded paymentId member
    exact ⟨charged, args, saga, orderId, authorized.mono continues, mine⟩

/-- The saga a call completes is known, and a reservation was made for it. -/
theorem saga_known (settling : Settling P w journal)
    (found : journal[index]? = some (call, past)) {args : CompleteArgs} {saga : SagaRecord}
    {orderId : String} (completes : Completes P call past args saga orderId) :
    saga.id = args.sagaId ∧ (∃ row, w.db.getMandate saga.mandateId = some row) ∧
      phaseOf w.db saga.id ≠ none ∧ ∃ row ∈ w.db.sagas, saga.SamePurchase row := by
  obtain ⟨s, taken, answered⟩ := completes.read
  obtain ⟨id, ⟨row, member, same⟩, reserved⟩ :=
    (settling.recalls _ (List.mem_of_getElem? found) s taken).read args.sagaId saga answered
  refine ⟨id, ?_, reserved completes.awaiting, row, member, same⟩
  rw [← same.mandateId]
  exact settling.enrolled row member

/-- What the step of a call leaves behind. -/
theorem leaves_step (settling : Settling P w journal)
    (found : journal[index]? = some (call, past)) (permitted : May P call past action) :
    Leaves P (execute P action input w).2 ⟨action, input, w⟩ where
  passed req key answered := by
    obtain ⟨rfl, passed⟩ := answered
    exact passed_phase settling.paired settling.orderly passed
  read sagaId saga answered := by
    obtain ⟨present, id⟩ := SagaTermed.getSaga_answer answered
    obtain ⟨rfl, -⟩ := answered
    have same : (execute P (.getSaga sagaId) input w).2 = w := w.query_world _ _
    rw [same]
    exact ⟨id, ⟨saga, present, rfl, rfl, rfl⟩, settling.awaiting saga present⟩
  charged paymentId amountMinor answered := by
    obtain ⟨rfl, answered⟩ := answered
    have took := World.external_answered answered
    simp only [execute]
    rw [took]
    exact List.mem_cons_self
  refunded paymentId amountMinor key answered := by
    obtain ⟨rfl, answered⟩ := answered
    have took := World.external_answered answered
    simp only [execute]
    rw [took]
    exact List.mem_cons_self
  refused saga orderId paymentId actorId traceId answered := by
    obtain ⟨rfl, refused⟩ := answered
    obtain ⟨args, -, -, -, completes, -⟩ := permitted
    obtain ⟨-, known, present, -⟩ := settling.saga_known found completes
    exact (refused_lapsed known present (settling.unreversed _) refused).kept settling.orderly
  voided c orderId answered := by
    obtain ⟨rfl, voided⟩ := answered
    obtain ⟨args, saga, reason, completes, rfl⟩ := permitted
    obtain ⟨id, known, present, -⟩ := settling.saga_known found completes
    rw [id] at present
    exact voided_ended settling.orderly known present voided

/-- The reservation of a saga whose capture was refused has lapsed. -/
theorem refused_of_did (settling : Settling P w journal)
    (found : journal[index]? = some (call, past)) {saga : SagaRecord}
    {orderId paymentId actorId traceId : String}
    (did : Did P past (.settle saga orderId paymentId actorId traceId) none) :
    Lapsed w.db saga.id := by
  obtain ⟨s, taken, answered⟩ := did
  exact (settling.recalls _ (List.mem_of_getElem? found) s taken).refused _ _ _ _ _ answered

theorem unreversed_step (settling : Settling P w journal)
    (found : journal[index]? = some (call, past)) (permitted : May P call past action)
    (refId : String) : phaseOf (execute P action input w).2.db refId ≠ some .reversed := by
  have becomes := (execute_holds P action input w settling.orderly).phases refId
  have before := settling.unreversed refId
  generalize source : phaseOf w.db refId = phase at becomes before
  generalize phaseOf (execute P action input w).2.db refId = target at becomes ⊢
  cases becomes with
  | same => exact before
  | opened req issued => decide
  | captured saga orderId paymentId actorId traceId issued ref => decide
  | released c issued ref => decide
  | expired issued old => decide
  | reversed c orderId issued ref =>
      -- The reversal comes after a refused capture, and then there is nothing to reverse.
      subst issued
      obtain ⟨args, saga, reason, actorId, traceId, amountMinor, key, completes, rfl, did, -⟩ :=
        permitted
      have lapsed := settling.refused_of_did found did
      obtain ⟨id, -⟩ := settling.saga_known found completes
      rw [id, show args.sagaId = refId from ref] at lapsed
      rcases lapsed with released | expired
      · rw [source] at released
        cases released
      · rw [source] at expired
        cases expired

/-- A saga that awaits its payment has passed the gate. -/
theorem awaiting_step (settling : Settling P w journal)
    (found : journal[index]? = some (call, past)) (permitted : May P call past action) :
    ∀ s ∈ (execute P action input w).2.db.sagas, s.status = .awaitingAuthorization →
      phaseOf (execute P action input w).2.db s.id ≠ none := by
  intro s' member awaiting
  rcases (execute_sagas P action input w).backward s' member with ⟨s, present, becomes⟩ | ⟨req, born⟩
  · rcases becomes.written with rfl | written
    · exact present_kept settling.orderly (settling.awaiting s' present awaiting)
    · cases action with
      | resolveSaga key result =>
          obtain ⟨mine, ⟨allowed, -⟩ | ⟨-, failed, -⟩⟩ := written
          · obtain ⟨req, -, rfl, -, ⟨-, ⟨s'', taken, passed⟩, -⟩ | ⟨denied, -⟩⟩ := permitted
            · rw [becomes.same.id, mine]
              exact present_kept settling.orderly
                ((settling.recalls _ (List.mem_of_getElem? found) s'' taken).passed req _ passed)
            · rw [allowed] at denied
              cases denied
          · rw [awaiting] at failed
            cases failed
      | settle saga orderId paymentId actorId traceId =>
          obtain ⟨-, completed, -⟩ := written
          rw [awaiting] at completed
          cases completed
      | finalizeSaga sagaId step status =>
          obtain ⟨-, status', -⟩ := written
          obtain ⟨-, -, -, -, -, -, compensated, -⟩ := permitted
          rw [awaiting, compensated] at status'
          cases status'
      | _ => exact written.elim
  · exact absurd born.status (by rw [awaiting]; decide)

theorem completed_step (settling : Settling P w journal)
    (found : journal[index]? = some (call, past))
    (lawful : Lawful (S := application P) (May P) call past) (permitted : May P call past action) :
    ∀ s ∈ (execute P action input w).2.db.sagas, s.status = .completed →
      phaseOf (execute P action input w).2.db s.id = some .captured ∧
        Paid P (execute P action input w).2 (journal.set index (call, ⟨action, input, w⟩ :: past))
          s := by
  have continues := continues_stepped found ⟨action, input, w⟩
  have old : ∀ s ∈ w.db.sagas, s.status = .completed →
      phaseOf (execute P action input w).2.db s.id = some .captured ∧
        Paid P (execute P action input w).2 (journal.set index (call, ⟨action, input, w⟩ :: past))
          s := by
    intro s member completed
    obtain ⟨captured, paid⟩ := settling.completed s member completed
    exact ⟨captured_kept settling.orderly captured
      (settling.unreversed_step found permitted s.id),
      paid.kept continues ⟨rfl, rfl, rfl⟩ action input⟩
  intro s' member completed
  rcases (execute_sagas P action input w).backward s' member with ⟨s, present, becomes⟩ | ⟨req, born⟩
  · rcases becomes.written with rfl | written
    · exact old s' present completed
    · cases action with
      | settle saga orderId paymentId actorId traceId =>
          rcases settle_sagas_cases P input w saga orderId paymentId actorId traceId with ⟨final, settled⟩ | same
          · have mine : s.id = saga.id := written.1
            obtain ⟨args, completes, rfl, verified, charged⟩ := settle_charged
              (settling.recalls _ (List.mem_of_getElem? found)) lawful permitted
            obtain ⟨-, -, -, row, member', same⟩ := settling.saga_known found completes
            obtain rfl : row = s := Table.eq_of_col_eq SagaRecord.id (by simp) member' present
              (same.id.trans mine.symm)
            obtain ⟨call', member'', longer⟩ :=
              continues call past (List.mem_of_getElem? found)
            refine ⟨?_, args, saga, orderId,
              ⟨call, call', member'', completes.mono longer, verified⟩, same.trans becomes.same,
              (execute_provider P _ input w).captured charged, settled_closes settled⟩
            rw [becomes.same.id, mine]
            exact settled_captured settling.orderly (settling.unreversed _) settled
          · rw [same] at member
            exact old s' member completed
      | resolveSaga key result =>
          obtain ⟨-, ⟨-, awaiting, -⟩ | ⟨-, failed, -⟩⟩ := written
          · rw [completed] at awaiting
            cases awaiting
          · rw [completed] at failed
            cases failed
      | finalizeSaga sagaId step status =>
          obtain ⟨-, status', -⟩ := written
          obtain ⟨-, -, -, -, -, -, compensated, -⟩ := permitted
          rw [completed, compensated] at status'
          cases status'
      | _ => exact written.elim
  · exact absurd born.status (by rw [completed]; decide)

theorem compensated_step (settling : Settling P w journal)
    (found : journal[index]? = some (call, past))
    (lawful : Lawful (S := application P) (May P) call past) (permitted : May P call past action) :
    ∀ s ∈ (execute P action input w).2.db.sagas, s.status = .compensated →
      Ended (execute P action input w).2.db s.id ∧
        (Voided P (journal.set index (call, ⟨action, input, w⟩ :: past)) s ∨
          Refunded P (execute P action input w).2
            (journal.set index (call, ⟨action, input, w⟩ :: past)) s) := by
  have continues := continues_stepped found ⟨action, input, w⟩
  intro s' member compensated
  rcases (execute_sagas P action input w).backward s' member with ⟨s, present, becomes⟩ | ⟨req, born⟩
  · rcases becomes.written with rfl | written
    · obtain ⟨ended, undone⟩ := settling.compensated s' present compensated
      refine ⟨ended.kept settling.orderly, ?_⟩
      rcases undone with voided | refunded
      · exact .inl (voided.mono continues ⟨rfl, rfl, rfl⟩)
      · exact .inr (refunded.kept settling.orderly continues ⟨rfl, rfl, rfl⟩ action input)
    · cases action with
      | settle saga orderId paymentId actorId traceId =>
          obtain ⟨-, completed, -⟩ := written
          rw [compensated] at completed
          cases completed
      | resolveSaga key result =>
          obtain ⟨-, ⟨-, awaiting, -⟩ | ⟨-, failed, -⟩⟩ := written
          · rw [compensated] at awaiting
            cases awaiting
          · rw [compensated] at failed
            cases failed
      | finalizeSaga sagaId step status =>
          have mine : s.id = sagaId := written.1
          have recalled := settling.recalls _ (List.mem_of_getElem? found)
          obtain ⟨args, saga, orderId, reason, completes, rfl, -, undone⟩ := permitted
          obtain ⟨id, -, -, row, member', same⟩ := settling.saga_known found completes
          obtain rfl : row = s := Table.eq_of_col_eq SagaRecord.id (by simp) member' present
            (same.id.trans (id.trans mine.symm))
          obtain ⟨past', member'', longer⟩ := continues call past (List.mem_of_getElem? found)
          have bought : saga.SamePurchase s' := same.trans becomes.same
          rw [becomes.same.id, mine]
          rcases undone with ⟨s₁, earlier, rfl, voided⟩ | ⟨⟨actorId, traceId, did⟩, s₁, earlier, rfl,
            reversed⟩
          · have ended := (recalled s₁ List.mem_cons_self).voided _ _ voided
            refine ⟨Ended.kept settling.orderly ended, .inl ?_⟩
            exact ⟨call, past', args, saga, orderId, reason, member'', completes.mono longer, bought,
              (did_cons voided).mono longer⟩
          · have lapsed := settling.refused_of_did found did
            rw [id] at lapsed
            refine ⟨lapsed.ended.kept settling.orderly, .inr ?_⟩
            -- The reversal was for the saga that was refunded just before.
            have permitted := lawful.1
            rw [reversed.1] at permitted
            obtain ⟨args', saga', reason', actorId', traceId', amountMinor, key, completes', same',
              did', s₂, earlier', rfl, refunded⟩ := permitted
            have longer' : s₂ :: earlier' <:+ s₁ :: s₂ :: earlier' := List.suffix_cons _ _
            obtain ⟨id', -, -, row', present', bought'⟩ :=
              settling.saga_known found (completes'.mono longer')
            have sameId : args.sagaId = args'.sagaId := congrArg Gate.Compensation.refId same'
            obtain rfl : row' = row := Table.eq_of_col_eq SagaRecord.id (by simp) present' present
              (bought'.id.trans (id'.trans (sameId.symm.trans mine.symm)))
            obtain ⟨args'', completes'', paid, verified, charged⟩ :=
              settled_charged recalled lawful (did'.mono longer')
            have returned := (recalled s₂ (by simp)).refunded _ amountMinor key refunded
            rw [← paid] at charged returned
            have provider := execute_provider P (.finalizeSaga args.sagaId step status) input w
            refine ⟨args'', saga', orderId, ⟨call, past', member'', completes''.mono longer, verified⟩,
              bought'.trans becomes.same, provider.captured charged, provider.refunded returned, ?_⟩
            rw [becomes.same.id, mine]
            exact lapsed.kept settling.orderly
      | _ => exact written.elim
  · exact absurd born.status (by rw [compensated]; decide)

theorem charged_step (settling : Settling P w journal)
    (found : journal[index]? = some (call, past)) (permitted : May P call past action) :
    ∀ paymentId ∈ (execute P action input w).2.provider.captured, ∃ args saga orderId,
      Authorized P (journal.set index (call, ⟨action, input, w⟩ :: past)) args saga orderId ∧
        args.providerPaymentId = paymentId := by
  have continues := continues_stepped found ⟨action, input, w⟩
  intro paymentId member
  rcases (execute_provider P action input w).charges paymentId member with old | ⟨amountMinor, rfl⟩
  · obtain ⟨args, saga, orderId, authorized, mine⟩ := settling.charged paymentId old
    exact ⟨args, saga, orderId, authorized.mono continues, mine⟩
  · obtain ⟨args, saga, orderId, completes, rfl, verified⟩ := permitted
    obtain ⟨past', member', longer⟩ := continues call past (List.mem_of_getElem? found)
    exact ⟨args, saga, orderId, ⟨call, past', member', completes.mono longer, verified⟩, rfl⟩

theorem refunded_step (settling : Settling P w journal)
    (found : journal[index]? = some (call, past))
    (lawful : Lawful (S := application P) (May P) call past) (permitted : May P call past action) :
    ∀ paymentId ∈ (execute P action input w).2.provider.refunded,
      paymentId ∈ (execute P action input w).2.provider.captured ∧ ∃ args saga orderId,
        Authorized P (journal.set index (call, ⟨action, input, w⟩ :: past)) args saga orderId ∧
          args.providerPaymentId = paymentId ∧ Lapsed (execute P action input w).2.db saga.id := by
  have continues := continues_stepped found ⟨action, input, w⟩
  have provider := execute_provider P action input w
  intro paymentId member
  rcases provider.refunds paymentId member with old | ⟨amountMinor, key, rfl⟩
  · obtain ⟨charged, args, saga, orderId, authorized, mine, lapsed⟩ :=
      settling.refunded paymentId old
    exact ⟨provider.captured charged, args, saga, orderId, authorized.mono continues, mine,
      lapsed.kept settling.orderly⟩
  · obtain ⟨args, saga, orderId, actorId, traceId, -, rfl, did⟩ := permitted
    obtain ⟨args', completes', paid, verified, charged⟩ := settled_charged
      (settling.recalls _ (List.mem_of_getElem? found)) lawful did
    obtain ⟨past', member', longer⟩ := continues call past (List.mem_of_getElem? found)
    exact ⟨provider.captured charged, args', saga, orderId,
      ⟨call, past', member', completes'.mono longer, verified⟩, paid,
      (settling.refused_of_did found did).kept settling.orderly⟩

theorem stepped (settling : Settling P w journal)
    (found : journal[index]? = some (call, past))
    (lawful : Lawful (S := application P) (May P) call past) (permitted : May P call past action) :
    Settling P (execute P action input w).2
      (journal.set index (call, ⟨action, input, w⟩ :: past)) where
  enrolled := settling.enrolled.kept
  orderly := (execute_holds P action input w settling.orderly).orderly
  paired := settling.paired.grows (execute_grows P action input w)
  unreversed := settling.unreversed_step found permitted
  recalls := settling.recalls.stepped found
    (fun _ leaves => leaves.kept settling.orderly action input)
    (settling.leaves_step found permitted)
  awaiting := settling.awaiting_step found permitted
  completed := settling.completed_step found lawful permitted
  compensated := settling.compensated_step found lawful permitted
  charged := settling.charged_step found permitted
  refunded := settling.refunded_step found lawful permitted

end Settling

/-! ## Runs -/

theorem run_settling (P : Platform) (w : World) (blank : Blank w)
    (events : List (application P).Event) :
    Settling P ((initial w : (application P).Config).run events).state
      ((initial w : (application P).Config).run events).journal := by
  refine run_journal_invariant (S := application P) (code_obeys P) (fun _ _ _ _ _ => True)
    (Settling P) (fun w journal call settling => settling.started call)
    (fun c index r action input disciplined settling found permitted _ => ?_)
    (Settling.initial P blank) (admissible_of_forall (fun c e => ?_) _ events)
  · exact settling.stepped found (disciplined.lawful (List.mem_of_getElem? found)) permitted
  · cases e <;> simp [Foundation.System.Guarded]

/-- The configuration after a run of the application. -/
abbrev afterRun (P : Platform) (w : World) (events : List (application P).Event) :
    (application P).Config :=
  (initial w : (application P).Config).run events

/-- In every run of any number of calls, crashes included, a COMPLETED saga is paid for:
its reservation is captured, and a call completed it with a payment whose signature it had
verified, that the provider had captured, and that closes the settlement in the audit
log. -/
theorem completed_sagas_are_paid (P : Platform) (w : World) (blank : Blank w)
    (events : List (application P).Event)
    (s : SagaRecord) (member : s ∈ (afterRun P w events).state.db.sagas)
    (completed : s.status = .completed) :
    phaseOf (afterRun P w events).state.db s.id = some .captured ∧
      Paid P (afterRun P w events).state (afterRun P w events).journal s :=
  (run_settling P w blank events).completed s member completed

/-- In every run a COMPENSATED saga holds nothing any more: a call that completed it has
voided its order, or its payment was captured and refunded after its reservation lapsed. -/
theorem compensated_sagas_are_undone (P : Platform) (w : World) (blank : Blank w)
    (events : List (application P).Event)
    (s : SagaRecord) (member : s ∈ (afterRun P w events).state.db.sagas)
    (compensated : s.status = .compensated) :
    Ended (afterRun P w events).state.db s.id ∧
      (Voided P (afterRun P w events).journal s ∨
        Refunded P (afterRun P w events).state (afterRun P w events).journal s) :=
  (run_settling P w blank events).compensated s member compensated

/-- In every run the provider has captured only payments that a call had verified for a saga
it was completing, and it has refunded only captured payments of sagas whose reservations
had lapsed. -/
theorem provider_payments_accounted (P : Platform) (w : World) (blank : Blank w)
    (events : List (application P).Event) :
    (∀ paymentId ∈ (afterRun P w events).state.provider.captured, ∃ args saga orderId,
      Authorized P (afterRun P w events).journal args saga orderId ∧
        args.providerPaymentId = paymentId) ∧
    ∀ paymentId ∈ (afterRun P w events).state.provider.refunded,
      paymentId ∈ (afterRun P w events).state.provider.captured ∧ ∃ args saga orderId,
        Authorized P (afterRun P w events).journal args saga orderId ∧
          args.providerPaymentId = paymentId ∧
          Lapsed (afterRun P w events).state.db saga.id :=
  ⟨(run_settling P w blank events).charged,
    (run_settling P w blank events).refunded⟩

/-- In every run the compensation of a refund finds nothing to reverse: no reversal is ever
posted to the ledger. -/
theorem nothing_is_reversed (P : Platform) (w : World) (blank : Blank w)
    (events : List (application P).Event)
    (e : LedgerEntryRecord) (posted : e ∈ (afterRun P w events).state.db.ledgerEntries) :
    e.refType ≠ .reverse := by
  have settling := run_settling P w blank events
  intro reversal
  have listed : Ledger.RefType.reverse ∈ Ledger.refTypes (afterRun P w events).state.db e.refId := by
    rw [← reversal]
    exact List.mem_map_of_mem (List.mem_filter.mpr ⟨posted, decide_eq_true rfl⟩)
  obtain ⟨follows, excludes⟩ := settling.orderly e.refId
  have captured := follows listed
  obtain ⟨unexpired, unreleased⟩ := excludes captured
  refine settling.unreversed e.refId ?_
  simp [phaseOf, Ledger.phaseOfTypes, unexpired, unreleased, captured, listed]

namespace Fixture

theorem decided_blank : Blank (world decided) :=
  ⟨Table.not_mem_empty, rfl, rfl, rfl⟩

/-- A purchase is begun, and completed at once. -/
def bought : List Event :=
  .start (.beginPurchase request "ord_1") :: List.replicate 8 (.step 0 input) ++
    .start (.completePurchase completion) :: List.replicate 6 (.step 1 input)

/-- A step six minutes after the purchase was begun. -/
def late : Input := { input with now := fun _ _ => start + 360000000 }

/-- A purchase is begun, and completed after the sweeper has freed its reservation. -/
def boughtLate : List Event :=
  .start (.beginPurchase request "ord_1") :: List.replicate 8 (.step 0 input) ++
    [.start .sweep, .step 1 late] ++
    .start (.completePurchase completion) :: List.replicate 9 (.step 2 late)

theorem bought_is_paid : ∃ s ∈ (afterRun platform (world decided) bought).state.db.sagas,
    s.status = .completed ∧
      phaseOf (afterRun platform (world decided) bought).state.db s.id = some .captured ∧
      Paid platform (afterRun platform (world decided) bought).state
        (afterRun platform (world decided) bought).journal s := by
  have closed : (afterRun platform (world decided) bought).state.db.sagas.rows.any
      (fun s => s.status = .completed) = true := by
    decide +kernel
  obtain ⟨s, member, completed⟩ := List.any_eq_true.mp closed
  exact ⟨s, member, of_decide_eq_true completed, completed_sagas_are_paid platform (world decided)
    decided_blank bought s member (of_decide_eq_true completed)⟩

theorem boughtLate_run :
    (afterRun platform (world decided) boughtLate).state.db.sagas.rows.any
        (fun s => s.status = .compensated) = true ∧
      (afterRun platform (world decided) boughtLate).state.provider.refunded = ["pay_1"] ∧
      (afterRun platform (world decided) boughtLate).state.db.ledgerEntries.map
        LedgerEntryRecord.refType = [.reservation, .reservation, .expire, .expire] := by
  decide +kernel

theorem boughtLate_is_undone : ∃ s ∈ (afterRun platform (world decided) boughtLate).state.db.sagas,
    s.status = .compensated ∧ Ended (afterRun platform (world decided) boughtLate).state.db s.id ∧
      (Voided platform (afterRun platform (world decided) boughtLate).journal s ∨
        Refunded platform (afterRun platform (world decided) boughtLate).state
          (afterRun platform (world decided) boughtLate).journal s) := by
  obtain ⟨closed, -⟩ := boughtLate_run
  obtain ⟨s, member, compensated⟩ := List.any_eq_true.mp closed
  exact ⟨s, member, of_decide_eq_true compensated, compensated_sagas_are_undone platform
    (world decided) decided_blank boughtLate s member (of_decide_eq_true compensated)⟩

theorem late_payment_accounted :
    "pay_1" ∈ (afterRun platform (world decided) boughtLate).state.provider.captured ∧
      ∃ args saga orderId,
        Authorized platform (afterRun platform (world decided) boughtLate).journal args saga orderId ∧
          args.providerPaymentId = "pay_1" ∧
          Lapsed (afterRun platform (world decided) boughtLate).state.db saga.id := by
  obtain ⟨-, refunded, -⟩ := boughtLate_run
  exact (provider_payments_accounted platform (world decided) decided_blank
    boughtLate).2 "pay_1" (by rw [refunded]; exact List.mem_singleton_self _)

/-- The refund was made, and the ledger has no reversal of it. -/
theorem late_purchase_unreversed :
    (afterRun platform (world decided) boughtLate).state.provider.refunded = ["pay_1"] ∧
      ∀ e ∈ (afterRun platform (world decided) boughtLate).state.db.ledgerEntries,
        e.refType ≠ .reverse := by
  obtain ⟨-, refunded, -⟩ := boughtLate_run
  exact ⟨refunded, nothing_is_reversed platform (world decided) decided_blank boughtLate⟩

end Fixture

end Actl
