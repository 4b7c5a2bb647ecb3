import Actl.Effects.Store

/-!
# What the transactions of a purchase write

One lemma per transaction of order creation, of the gate, of the compensations
and of the saga: what it has seen and what it does to the store when it commits.
-/

set_option autoImplicit false

namespace Actl

open Foundation (Table bind_eq_ok)
open Payments (OrderArgs)
open Gate (MoneyActionRequest Compensation)

/-! ## Order creation -/

/-- What a won claim commits. -/
theorem claimOrder_ok {P : Platform} {args : OrderArgs} {now : Nat → Time} {db db' : Database}
    {won : Bool} (done : Payments.claimOrder P args now db = .ok (won, db')) :
    (won = false ∧ db' = db ∧ (∃ k ∈ db.idempotencyKeys, k.key = args.key P)) ∨
      (won = true ∧ (∀ k ∈ db.idempotencyKeys, k.key ≠ args.key P) ∧
        (∃ k, k.key = args.key P ∧ k.state = .inFlight ∧
          db.idempotencyKeys.insert? k = some db'.idempotencyKeys) ∧
        (∃ o : OrderRecord, o.id = args.orderId ∧ o.mandateId = args.mandateId ∧
          o.amountMinor = args.amountMinor ∧ o.currency = args.currency ∧
          o.quoteId = args.quoteId ∧ o.idempotencyKey = args.key P ∧ o.status = .created ∧ o.providerOrderId = none ∧
          db.orders.insert? o = some db'.orders) ∧
        (∃ row ∈ db.mandates, row.id = args.mandateId) ∧ 0 < args.amountMinor ∧
        db.Frame db' [.ledger, .sagas, .catalog]) := by
  unfold Payments.claimOrder at done
  dsimp only at done
  split at done
  · rename_i lost
    cases done
    refine .inl ⟨rfl, rfl, ?_⟩
    simp only [Database.claimIdempotencyKey, Option.map_eq_none_iff,
      Table.insert?_eq_none_iff] at lost
    obtain ⟨col, member, clash⟩ := lost
    simp only [List.mem_singleton] at member
    subst member
    obtain ⟨k, present, same⟩ := List.mem_map.mp clash
    exact ⟨k, present, same⟩
  · rename_i claimed won_claim
    obtain ⟨keys, inserted, rfl⟩ := Option.map_eq_some_iff.mp won_claim
    obtain ⟨ordered, added, rest⟩ := bind_eq_ok.mp done
    cases rest
    unfold Database.addOrder at added
    split at added
    · rename_i admits
      split at added
      · rename_i orders placed
        cases added
        refine .inr ⟨rfl, fun k present => ?_, ⟨_, rfl, rfl, inserted⟩,
          ⟨_, rfl, rfl, rfl, rfl, rfl, rfl, rfl, rfl, placed⟩, admits.1, admits.2.2.2,
          ⟨fun part member => by cases part <;> first | rfl | simp at member, rfl, fun _ => id⟩⟩
        exact Table.not_clashes_of_insert? inserted IdempotencyKeyRecord.key (by simp)
          present
      · cases added
    · cases added

/-- What `complete` does to a key. -/
theorem completeIdempotencyKey_ok {db db' : Database} {key : String} {state : KeyState}
    (done : db.completeIdempotencyKey key state = .ok db') :
    (∀ k', k' ∈ db'.idempotencyKeys ↔ ∃ k ∈ db.idempotencyKeys,
        k' = if k.key = key then { k with state := state } else k) ∧
      db.Frame db' [.orders, .ledger, .sagas, .catalog] := by
  unfold Database.completeIdempotencyKey at done
  split at done
  · cases done
  · cases done
    refine ⟨fun k' => ?_, ⟨fun part member => by cases part <;> first | rfl | simp at member, rfl, fun _ => id⟩⟩
    simp only [Table.mem_modify, decide_eq_true_eq]
    exact exists_congr fun k => and_congr_right fun _ => eq_comm

theorem recordOrderCreationFailed_ok {P : Platform} {args : OrderArgs} {message : String}
    {db db' : Database} (done : Payments.recordOrderCreationFailed P args message db = .ok db') :
    OrdersStep db.orders db'.orders (fun o s => o.id = args.orderId ∧ s = .failed) ∧
      (∀ k', k' ∈ db'.idempotencyKeys ↔ ∃ k ∈ db.idempotencyKeys,
        k' = if k.key = args.key P then { k with state := .failed } else k) ∧
      db.Frame db' [.ledger, .sagas, .catalog] := by
  obtain ⟨db₁, failed, rest⟩ := bind_eq_ok.mp done
  obtain ⟨db₂, completed, last⟩ := bind_eq_ok.mp rest
  cases last
  obtain ⟨step, -, -, frame⟩ := transitionStatus_ok failed
  obtain ⟨keys, frame'⟩ := completeIdempotencyKey_ok completed
  refine ⟨frame'.orders ▸ step, ?_, (frame.mono (by simp)).trans ((frame'.mono (by simp)).trans ?_)⟩
  · exact frame.keys ▸ keys
  · exact frame_appendEntry ..

/-- What a successful provider call commits. -/
theorem recordProviderOrder_ok {P : Platform} {args : OrderArgs} {providerOrderId : String}
    {db db' : Database} {order : OrderRecord}
    (done : Payments.recordProviderOrder P args providerOrderId db = .ok (order, db')) :
    (∀ o', o' ∈ db'.orders ↔ ∃ o ∈ db.orders,
        o' = if o.id = args.orderId then { o with providerOrderId := some providerOrderId } else o) ∧
      (∀ k', k' ∈ db'.idempotencyKeys ↔ ∃ k ∈ db.idempotencyKeys,
        k' = if k.key = args.key P then { k with state := .completed } else k) ∧
      db'.getOrder args.orderId = some order ∧ db.Frame db' [.ledger, .sagas, .catalog] := by
  obtain ⟨db₁, set, rest⟩ := bind_eq_ok.mp done
  obtain ⟨db₂, completed, last⟩ := bind_eq_ok.mp rest
  obtain ⟨keys, frame⟩ := completeIdempotencyKey_ok completed
  split at last
  · rename_i found
    cases last
    unfold Database.setProviderOrderId at set
    split at set
    · cases set
    · cases set
      refine ⟨fun o' => ?_, keys, found, ?_⟩
      · rw [frame.orders]
        exact mem_modifyOrder
      · exact (frame_modifyOrder.mono (by simp)).trans (frame.mono (by simp))
  · cases last

/-! ## Ledger operations -/

section LedgerFrames

variable (db : Database) (now : Nat → Time) (mandateId refId : String) (amountMinor : Int)

theorem frame_reserve (maxTotalMinor : Int) :
    db.Frame (Ledger.reserve db now mandateId amountMinor maxTotalMinor refId).2
      [.orders, .sagas, .keys, .catalog] := by
  unfold Ledger.reserve
  dsimp only
  repeat' split
  all_goals exact ⟨fun part member => by cases part <;> first | rfl | simp at member, rfl, fun _ => id⟩

theorem frame_capture :
    db.Frame (Ledger.capture db now mandateId amountMinor refId).2 [.orders, .sagas, .keys, .catalog] := by
  unfold Ledger.capture
  repeat' split
  all_goals exact ⟨fun part member => by cases part <;> first | rfl | simp at member, rfl, fun _ => id⟩

theorem frame_release :
    db.Frame (Ledger.release db now mandateId amountMinor refId).2 [.orders, .sagas, .keys, .catalog] := by
  unfold Ledger.release
  repeat' split
  all_goals exact ⟨fun part member => by cases part <;> first | rfl | simp at member, rfl, fun _ => id⟩

theorem frame_reverseSettlement :
    db.Frame (Ledger.reverseSettlement db now mandateId amountMinor refId).2
      [.orders, .sagas, .keys, .catalog] := by
  unfold Ledger.reverseSettlement
  dsimp only
  repeat' split
  all_goals exact ⟨fun part member => by cases part <;> first | rfl | simp at member, rfl, fun _ => id⟩

end LedgerFrames

/-- `_mark_compensated` always succeeds and touches nothing but a status. -/
theorem markCompensated_ok (db : Database) (mandateId : String) :
    ∃ db', Gate.markCompensated db mandateId = .ok db' ∧
      db.Frame db' [.orders, .ledger, .sagas, .keys, .catalog] := by
  unfold Gate.markCompensated
  split
  · exact ⟨db, rfl, .refl db _⟩
  · split
    · exact ⟨db.updateMandateStatus mandateId .compensated, rfl,
        ⟨fun part _ => by cases part <;> rfl, lockedMandates_updateMandateStatus .., fun _ => id⟩⟩
    · exact ⟨db, rfl, .refl db _⟩

/-! ## Compensations -/

theorem recordCompensation_ok (P : Platform) (c : Compensation) (orderId : Option String)
    (outcomeName : String) (outcome : Bool) (db : Database) :
    ∃ db', Gate.recordCompensation P c orderId outcomeName outcome db = .ok db' ∧
      db.Frame db' [.orders, .ledger, .sagas, .keys, .catalog] := by
  unfold Gate.recordCompensation
  obtain ⟨db', done, frame⟩ := markCompensated_ok _ c.mandateId
  exact ⟨db', done, (frame_appendEntry ..).trans frame⟩

/-- The release is the ledger's release, and it cannot fail. -/
theorem releaseReservation_ok (P : Platform) (c : Compensation) (now : Nat → Time)
    (db : Database) :
    ∃ db', Gate.releaseReservationAndMarkCompensated P c now db = .ok db' ∧
      db'.ledgerEntries
        = (Ledger.release db now c.mandateId c.amountMinor c.refId).2.ledgerEntries ∧
      db.Frame db' [.orders, .sagas, .keys, .catalog] := by
  obtain ⟨db', done, frame⟩ := recordCompensation_ok P c none "released"
    (Ledger.release db now c.mandateId c.amountMinor c.refId).1
    (Ledger.release db now c.mandateId c.amountMinor c.refId).2
  exact ⟨db', done, frame.ledger, (frame_release ..).trans (frame.mono (by simp))⟩

/-- An order that is not left alone fails. -/
theorem failOrder_ok {leftAlone : OrderStatus → Bool} {orderId reason : String}
    {db db' : Database} (done : Gate.failOrder leftAlone orderId reason db = .ok db') :
    OrdersStep db.orders db'.orders
        (fun o s => o.id = orderId ∧ leftAlone o.status = false ∧ s = .failed) ∧
      (∀ o ∈ db'.orders, o.id = orderId → leftAlone o.status = true ∨ o.status = .failed) ∧
      db.Frame db' [.ledger, .sagas, .keys, .catalog] := by
  unfold Gate.failOrder at done
  split at done
  · rename_i missing
    cases done
    refine ⟨.refl _ _, fun o member mine => ?_, .refl db _⟩
    rw [Database.getOrder_eq_some.mpr ⟨member, mine⟩] at missing
    cases missing
  · rename_i order found
    obtain ⟨present, named⟩ := Database.getOrder_eq_some.mp found
    have only : ∀ o ∈ db.orders, o.id = orderId → o = order := fun o member mine =>
      Database.order_unique_id member present (mine.trans named.symm)
    split at done
    · rename_i alone
      cases done
      exact ⟨.refl _ _, fun o member mine => .inl (only o member mine ▸ alone), .refl db _⟩
    · rename_i acted
      obtain ⟨step, -, failed, frame⟩ := transitionStatus_ok done
      refine ⟨step.mono fun o member status change => ⟨change.1, ?_, change.2⟩,
        fun o member mine => .inr (failed o member mine), frame⟩
      rw [only o member change.1]
      simpa using acted

/-- What a compensation of an order with a ledger operation does: the order part,
the ledger part and nothing else. -/
structure CompensatesOrder (db db' : Database) (leftAlone : OrderStatus → Bool)
    (orderId : String) (operation : Database → Database) : Prop where
  orders : OrdersStep db.orders db'.orders
    (fun o s => o.id = orderId ∧ leftAlone o.status = false ∧ s = .failed)
  closed : ∀ o ∈ db'.orders, o.id = orderId → leftAlone o.status = true ∨ o.status = .failed
  ledger : ∃ middle : Database, middle.ledgerEntries = db.ledgerEntries ∧
    middle.lockedMandates = db.lockedMandates ∧ db'.ledgerEntries = (operation middle).ledgerEntries
  frame : db.Frame db' [.sagas, .keys, .catalog]

theorem voidOrder_ok {P : Platform} {c : Compensation} {orderId : String} {now : Nat → Time}
    {db db' : Database} (done : Gate.voidOrderAndReleaseReservation P c orderId now db = .ok db') :
    CompensatesOrder db db' OrderStatus.isTerminal orderId
      (fun db => (Ledger.release db now c.mandateId c.amountMinor c.refId).2) := by
  obtain ⟨db₁, failed, rest⟩ := bind_eq_ok.mp done
  obtain ⟨step, closed, frame⟩ := failOrder_ok failed
  obtain ⟨db₂, recorded, frame'⟩ := recordCompensation_ok P c (some orderId) "released"
    (Ledger.release db₁ now c.mandateId c.amountMinor c.refId).1
    (Ledger.release db₁ now c.mandateId c.amountMinor c.refId).2
  rw [recorded] at rest
  cases rest
  have released := frame_release db₁ now c.mandateId c.refId c.amountMinor
  have orders : db'.orders = db₁.orders := frame'.orders.trans released.orders
  exact ⟨orders ▸ step, fun o member mine => closed o (orders ▸ member) mine,
    ⟨db₁, frame.ledger, frame.mandates, frame'.ledger⟩,
    (frame.mono (by simp)).trans ((released.mono (by simp)).trans (frame'.mono (by simp)))⟩

theorem reverseSettlementAfterRefund_ok {P : Platform} {c : Compensation} {orderId : String}
    {now : Nat → Time} {db db' : Database}
    (done : Gate.reverseSettlementAfterRefund P c orderId now db = .ok db') :
    CompensatesOrder db db' (· = .failed) orderId
      (fun db => (Ledger.reverseSettlement db now c.mandateId c.amountMinor c.refId).2) := by
  obtain ⟨db₁, failed, rest⟩ := bind_eq_ok.mp done
  obtain ⟨step, closed, frame⟩ := failOrder_ok failed
  obtain ⟨db₂, recorded, frame'⟩ := recordCompensation_ok P c (some orderId) "reversed"
    (Ledger.reverseSettlement db₁ now c.mandateId c.amountMinor c.refId).1
    (Ledger.reverseSettlement db₁ now c.mandateId c.amountMinor c.refId).2
  rw [recorded] at rest
  cases rest
  have reversed := frame_reverseSettlement db₁ now c.mandateId c.refId c.amountMinor
  have orders : db'.orders = db₁.orders := frame'.orders.trans reversed.orders
  exact ⟨orders ▸ step, fun o member mine => closed o (orders ▸ member) mine,
    ⟨db₁, frame.ledger, frame.mandates, frame'.ledger⟩,
    (frame.mono (by simp)).trans ((reversed.mono (by simp)).trans (frame'.mono (by simp)))⟩

/-! ## The capture of a payment -/

theorem recordPaymentFailed_ok {P : Platform} {orderId declineReason reason actorId traceId : String}
    {signature : JSONValue} {db db' : Database}
    (done : Payments.recordPaymentFailed P orderId declineReason reason signature actorId traceId db
      = .ok db') :
    OrdersStep db.orders db'.orders (fun o s => o.id = orderId ∧ s = .failed) ∧
      db.Frame db' [.ledger, .sagas, .keys, .catalog] := by
  obtain ⟨db₁, failed, rest⟩ := bind_eq_ok.mp done
  cases rest
  obtain ⟨step, -, -, frame⟩ := transitionStatus_ok failed
  exact ⟨step, frame.trans (frame_appendEntry ..)⟩

theorem recordPaymentCaptured_ok {P : Platform} {orderId paymentId actorId traceId : String}
    {signature : JSONValue} {db db' : Database}
    (done : Payments.recordPaymentCaptured P orderId paymentId signature actorId traceId db
      = .ok db') :
    OrdersStep db.orders db'.orders (fun o s => o.id = orderId ∧ s = .captured) ∧
      (∃ o ∈ db.orders, o.id = orderId) ∧
      (∀ o ∈ db'.orders, o.id = orderId → o.status = .captured) ∧
      db.Frame db' [.ledger, .sagas, .keys, .catalog] := by
  obtain ⟨db₁, captured, rest⟩ := bind_eq_ok.mp done
  cases rest
  obtain ⟨step, exists', set, frame⟩ := transitionStatus_ok captured
  exact ⟨step, exists', set, frame.trans (frame_appendEntry ..)⟩

/-! ## Sagas -/

theorem Database.getSaga_eq_some {db : Database} {sagaId : String} {s : SagaRecord} :
    db.getSaga sagaId = some s ↔ s ∈ db.sagas ∧ s.id = sagaId :=
  Table.get?_eq_some_iff (by simp)

theorem Database.saga_unique {db : Database} {s s' : SagaRecord} (member : s ∈ db.sagas)
    (member' : s' ∈ db.sagas) (same : s.id = s'.id) : s = s' :=
  Table.eq_of_col_eq SagaRecord.id (by simp) member member' same

/-- The new form of a saga row. -/
def SagaRecord.written (s : SagaRecord) (step : String) (status : SagaStatus)
    (orderId : Option String) : SagaRecord :=
  { s with step := step, status := status, orderId := orderId.or s.orderId }

theorem writeSaga_ok {sagaId step : String} {status : SagaStatus} {orderId : Option String}
    {db db' : Database} {final : SagaRecord}
    (done : Saga.writeSaga sagaId step status orderId db = .ok (final, db')) :
    (∃ s ∈ db.sagas, s.id = sagaId ∧ final = s.written step status orderId) ∧
      (∀ s', s' ∈ db'.sagas ↔ ∃ s ∈ db.sagas,
        s' = if s.id = sagaId then s.written step status orderId else s) ∧
      db.Frame db' [.orders, .ledger, .keys, .catalog] := by
  obtain ⟨db₁, updated, rest⟩ := bind_eq_ok.mp done
  unfold Database.updateSaga at updated
  split at updated
  · cases updated
  · cases updated
    split at rest
    · rename_i found
      cases rest
      have rows : ∀ s', s' ∈ (db.sagas.modify (fun s => s.id = sagaId)
          (fun s => { s with step := step, status := status, orderId := orderId.or s.orderId })
          (by simp) : Table SagaRecord [SagaRecord.id]) ↔ ∃ s ∈ db.sagas,
            s' = if s.id = sagaId then s.written step status orderId else s := by
        intro s'
        simp only [Table.mem_modify, decide_eq_true_eq]
        exact exists_congr fun s => and_congr_right fun _ => eq_comm
      refine ⟨?_, rows, ⟨fun part member => by cases part <;> first | rfl | simp at member, rfl, fun _ => id⟩⟩
      obtain ⟨present, named⟩ := Database.getSaga_eq_some.mp found
      obtain ⟨s, old, same⟩ := (rows final).mp present
      by_cases mine : s.id = sagaId
      · exact ⟨s, old, mine, by rw [same, if_pos mine]⟩
      · rw [if_neg mine] at same
        exact absurd (same ▸ named) mine
    · cases rest

theorem openSaga_ok {req : MoneyActionRequest} {key : String} {db db' : Database}
    {existing : Option SagaRecord} (done : Saga.openSaga req key db = .ok (existing, db')) :
    (db' = db ∧ ∃ s ∈ db.sagas, s.id = key ∧
        existing = if s.status = .running then none else some s) ∨
      (existing = none ∧ (∀ s ∈ db.sagas, s.id ≠ key) ∧
        (∃ s : SagaRecord, s.id = key ∧ s.mandateId = req.mandateId ∧
          s.amountMinor = req.amountMinor ∧ s.status = .running ∧ s.orderId = none ∧
          db.sagas.insert? s = some db'.sagas) ∧
        db.Frame db' [.orders, .ledger, .keys, .catalog]) := by
  unfold Saga.openSaga at done
  split at done
  · rename_i found
    cases done
    obtain ⟨present, named⟩ := Database.getSaga_eq_some.mp found
    exact .inl ⟨rfl, _, present, named, rfl⟩
  · rename_i missing
    obtain ⟨db₁, added, rest⟩ := bind_eq_ok.mp done
    cases rest
    unfold Database.addSaga at added
    split at added
    · split at added
      · rename_i inserted
        cases added
        refine .inr ⟨rfl, Table.get?_eq_none_iff.mp missing, ⟨_, rfl, rfl, rfl, rfl, rfl, inserted⟩,
          ⟨fun part member => by cases part <;> first | rfl | simp at member, rfl, fun _ => id⟩⟩
      · cases added
    · cases added

theorem markSettled_ok (db : Database) (mandateId : String) (amountMinor : Int) :
    ∃ db', Saga.markSettled db mandateId amountMinor = .ok db' ∧
      db.Frame db' [.orders, .ledger, .sagas, .keys, .catalog] := by
  unfold Saga.markSettled
  split
  · exact ⟨db, rfl, .refl db _⟩
  · split
    · have settled : Mandates.transition .executing .captured
          { reservedMinor := amountMinor, capturedMinor := amountMinor } = .ok .settled := by
        simp [Mandates.transition, Mandates.transitions, Mandates.guardCaptured]
      rw [settled]
      exact ⟨db.updateMandateStatus mandateId .settled, rfl,
        ⟨fun part _ => by cases part <;> rfl, lockedMandates_updateMandateStatus .., fun _ => id⟩⟩
    · exact ⟨db, rfl, .refl db _⟩

/-- What a settlement commits: the capture, and with it the completed saga. -/
theorem settle_ok {P : Platform} {saga : SagaRecord} {orderId paymentId actorId traceId : String}
    {now : Nat → Time} {db db' : Database} {final : Option SagaRecord}
    (done : Saga.settle P saga orderId paymentId actorId traceId now db = .ok (final, db')) :
    (final = none ∧ (Ledger.capture db now saga.mandateId saga.amountMinor saga.id).1 = false ∧
        db' = (Ledger.capture db now saga.mandateId saga.amountMinor saga.id).2) ∨
      ((Ledger.capture db now saga.mandateId saga.amountMinor saga.id).1 = true ∧
        final ≠ none ∧
        db'.ledgerEntries
          = (Ledger.capture db now saga.mandateId saga.amountMinor saga.id).2.ledgerEntries ∧
        (∃ s ∈ db.sagas, s.id = saga.id) ∧
        (∀ s', s' ∈ db'.sagas ↔ ∃ s ∈ db.sagas,
          s' = if s.id = saga.id then s.written "S5_SETTLE" .completed none else s) ∧
        db.Frame db' [.orders, .keys, .catalog]) := by
  unfold Saga.settle at done
  dsimp only at done
  have captured := frame_capture db now saga.mandateId saga.id saga.amountMinor
  split at done
  · rename_i succeeded
    obtain ⟨db₁, marked, rest⟩ := bind_eq_ok.mp done
    obtain ⟨written, wrote, last⟩ := bind_eq_ok.mp rest
    cases last
    obtain ⟨db₂, marked', frame⟩ := markSettled_ok
      (Ledger.capture db now saga.mandateId saga.amountMinor saga.id).2 saga.mandateId
      saga.amountMinor
    rw [marked] at marked'
    cases marked'
    obtain ⟨final', db₃⟩ := written
    obtain ⟨⟨s, present, named, -⟩, rows, frame'⟩ := writeSaga_ok wrote
    have sagas : db₁.sagas = db.sagas := frame.sagas.trans captured.sagas
    refine .inr ⟨succeeded, by simp, frame'.ledger.trans frame.ledger,
      ⟨s, sagas ▸ present, named⟩, ?_, ?_⟩
    · exact sagas ▸ rows
    · refine (captured.mono (by simp)).trans ((frame.mono (by simp)).trans
        (Database.Frame.trans ?_ (frame'.mono (by simp))))
      exact frame_appendEntry ..
  · rename_i failed
    cases done
    exact .inl ⟨rfl, by simpa using failed, rfl⟩

/-! ## The gate -/

theorem check_ok {ok : Bool} {code : Policy.ReasonCode}
    (passed : Gate.check ok code = .ok ()) : ok = true := by
  unfold Gate.check at passed
  split at passed
  · assumption
  · cases passed

/-- What G1 has seen of the mandate it lets through. -/
theorem g1_ok {P : Platform} {req : MoneyActionRequest} {now : Time} {db : Database}
    {row : MandateRow} (passed : Gate.g1 P req now db = .ok row) :
    db.getMandate req.mandateId = some row ∧ (row.status = .locked ∨ row.status = .executing) ∧
      Mandates.verifySpecHash P row.mandate = true := by
  unfold Gate.g1 at passed
  split at passed
  · cases passed
  · rename_i row' found
    obtain ⟨_, unrevoked, rest⟩ := bind_eq_ok.mp passed
    obtain ⟨_, inForce, rest⟩ := bind_eq_ok.mp rest
    obtain ⟨_, unaltered, rest⟩ := bind_eq_ok.mp rest
    have same : row' = row := by
      split at rest
      · obtain ⟨_, signed, rest⟩ := bind_eq_ok.mp rest
        obtain ⟨_, unexpired, rest⟩ := bind_eq_ok.mp rest
        cases rest
        rfl
      · cases rest
    subst same
    exact ⟨found, by simpa using check_ok inForce, check_ok unaltered⟩

/-- What G2 and G3 have seen of the decision they let through. -/
theorem g2g3_ok {req : MoneyActionRequest} {mandate : Mandates.Mandate} {now : Time}
    {db : Database} (passed : Gate.g2g3 req mandate now db = .ok ()) :
    ∃ decision, db.decisions.get? Policy.DecisionRecord.decisionId req.decisionId = some decision ∧
      decision.intentHash = req.intentHash ∧
      some decision.mandateSpecHash = mandate.specHash ∧ decision.verdict = .allow := by
  unfold Gate.g2g3 at passed
  split at passed
  · cases passed
  · rename_i decision found
    obtain ⟨_, bound, rest⟩ := bind_eq_ok.mp passed
    obtain ⟨_, sealed', rest⟩ := bind_eq_ok.mp rest
    obtain ⟨_, fresh, rest⟩ := bind_eq_ok.mp rest
    refine ⟨decision, found, by simpa using check_ok bound, by simpa using check_ok sealed', ?_⟩
    by_contra denied
    rw [if_pos denied] at rest
    split at rest <;> cases rest

theorem markExecuting_ok {row : MandateRow} {now : Time} {db db' : Database}
    (done : Gate.markExecuting row now db = .ok db') :
    db.Frame db' [.orders, .ledger, .sagas, .keys, .catalog] := by
  unfold Gate.markExecuting at done
  split at done
  · split at done
    · cases done
      exact ⟨fun part _ => by cases part <;> rfl, lockedMandates_updateMandateStatus .., fun _ => id⟩
    · cases done
  · cases done
    exact .refl db _

/-- What a passed gate has seen, and what it commits: the reservation. -/
structure GatePassed (P : Platform) (req : MoneyActionRequest) (key : String) (now : Nat → Time)
    (db db' : Database) : Prop where
  mandate : ∃ row, db.getMandate req.mandateId = some row ∧
    Mandates.verifySpecHash P row.mandate = true ∧
    (∃ decision, db.decisions.get? Policy.DecisionRecord.decisionId req.decisionId = some decision ∧
      decision.intentHash = req.intentHash ∧
      some decision.mandateSpecHash = row.mandate.specHash ∧ decision.verdict = .allow) ∧
    (Ledger.reserve db (fun i => now (i + 2)) req.mandateId req.amountMinor
      row.mandate.bounds.maxTotalMinor key).1.isSome = true ∧
    db'.ledgerEntries = (Ledger.reserve db (fun i => now (i + 2)) req.mandateId req.amountMinor
      row.mandate.bounds.maxTotalMinor key).2.ledgerEntries
  frame : db.Frame db' [.orders, .sagas, .keys, .catalog]

theorem attemptG1ThroughG5_ok {P : Platform} {req : MoneyActionRequest} {key : String}
    {now : Nat → Time} {db db' : Database} {result : Option Gate.MoneyActionResult}
    (done : Gate.attemptG1ThroughG5 P req key now db = .ok (result, db')) :
    (∃ code, result = some (Gate.deny code req.traceId) ∧ db' = db) ∨
      (result = none ∧ GatePassed P req key now db db') := by
  unfold Gate.attemptG1ThroughG5 at done
  split at done
  · rename_i passed
    cases done
    refine .inr ⟨rfl, ?_⟩
    obtain ⟨row, one, rest⟩ := bind_eq_ok.mp passed
    obtain ⟨_, two, rest⟩ := bind_eq_ok.mp rest
    obtain ⟨_, four, rest⟩ := bind_eq_ok.mp rest
    obtain ⟨_, five, rest⟩ := bind_eq_ok.mp rest
    obtain ⟨db₁, marked, last⟩ := bind_eq_ok.mp rest
    cases last
    have frame := markExecuting_ok marked
    obtain ⟨found, -, unaltered⟩ := g1_ok one
    refine ⟨⟨row, found, unaltered, g2g3_ok two, check_ok four, frame.ledger⟩, ?_⟩
    exact (frame_reserve ..).trans ((frame.mono (by simp)).trans (frame_appendEntry ..))
  · cases done
    exact .inl ⟨_, rfl, rfl⟩
  · cases done

/-! ## Proposals -/

theorem proposeOrder_ok {P : Platform} {args : Saga.ProposeArgs} {decisionId : String}
    {now : Nat → Time} {db db' : Database} {proposal : Saga.Proposal}
    (done : Saga.proposeOrder P args decisionId now db = .ok (proposal, db')) :
    db.Frame db' [.orders, .ledger, .sagas, .keys, .catalog] := by
  unfold Saga.proposeOrder at done
  split at done
  · cases done
    exact .refl db _
  · dsimp only at done
    split at done
    · cases done
    · split at done <;>
      · cases done
        exact ⟨fun part _ => by cases part <;> rfl, rfl, fun _ => id⟩

end Actl
