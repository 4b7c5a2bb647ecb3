import Actl.Effects.Actions

/-!
# What the actions do to the rows

Orders, idempotency keys and sagas are never deleted. For each of the three, one
inversion says everything an action can do to a row: which actions write it, what
they have seen, and what the row becomes.
-/

set_option autoImplicit false

namespace Actl

open Foundation (Table)
open Payments (OrderArgs)

/-! ## Orders -/

/-- The changes of an order's status that an action can make. -/
def Action.Changes (P : Platform) (action : Action) (input : Input) (db : Database)
    (o : OrderRecord) (status : OrderStatus) : Prop :=
  match action with
  | .recordOrderCreationFailed args _ => o.id = args.orderId ∧ status = .failed
  | .recordPaymentFailed orderId _ _ _ _ _ => o.id = orderId ∧ status = .failed
  | .recordPaymentCaptured orderId _ _ _ _ => o.id = orderId ∧ status = .captured
  | .voidOrder _ orderId => o.id = orderId ∧ o.status.isTerminal = false ∧ status = .failed
  | .reverseSettlement _ orderId => o.id = orderId ∧ o.status ≠ .failed ∧ status = .failed
  | .processUnprocessedWebhooks => o.status.isTerminal = false ∧
      (status = .failed ∨
        status = .captured ∧ ∃ event ∈ db.listUnprocessed, ReportsCaptured event o)
  | .reconcileNonTerminalOrders => o.status.isTerminal = false ∧
      (status = .failed ∨ status = .captured ∧ ∃ j : Nat,
        (reconcileCandidates P input db)[j]? = some o ∧ PollsCaptured (input.polls j))
  | _ => False

/-- The orders that an action gives their provider order id. -/
def Action.Numbers (action : Action) (o : OrderRecord) : Prop :=
  ∃ args providerOrderId, action = .recordProviderOrder args providerOrderId ∧ o.id = args.orderId

/-- An order before and after an action. -/
structure OrderBecomes (P : Platform) (action : Action) (input : Input) (db : Database) (o o' : OrderRecord) :
    Prop where
  same : o.SamePurchase o'
  status : o'.status = o.status ∨ action.Changes P input db o o'.status
  number : o'.providerOrderId = o.providerOrderId ∨ action.Numbers o

theorem OrderBecomes.refl (P : Platform) (action : Action) (input : Input) (db : Database)
    (o : OrderRecord) :
    OrderBecomes P action input db o o := ⟨.refl o, .inl rfl, .inl rfl⟩

/-- The order an action has claimed. -/
structure OrderBorn (P : Platform) (action : Action) (input : Input) (w : World)
    (args : OrderArgs) (o : OrderRecord) : Prop where
  action : action = .claimOrder args
  won : (execute P (.claimOrder args) input w).1 = .ok true
  fresh : ∀ k ∈ w.db.idempotencyKeys, k.key ≠ args.key P
  id : o.id = args.orderId
  mandateId : o.mandateId = args.mandateId
  amountMinor : o.amountMinor = args.amountMinor
  currency : o.currency = args.currency
  quoteId : o.quoteId = args.quoteId
  idempotencyKey : o.idempotencyKey = args.key P
  status : o.status = .created
  number : o.providerOrderId = none

/-- The orders before and after an action. -/
structure OrdersAfter (P : Platform) (action : Action) (input : Input) (w : World)
    (orders' : OrderTable) : Prop where
  forward : ∀ o ∈ w.db.orders, ∃ o' ∈ orders', OrderBecomes P action input w.db o o'
  backward : ∀ o' ∈ orders', (∃ o ∈ w.db.orders, OrderBecomes P action input w.db o o') ∨
    ∃ args, OrderBorn P action input w args o'

section Orders

variable {P : Platform} {action : Action} {input : Input} {w : World}

theorem ordersAfter_of_eq {orders' : OrderTable} (same : orders' = w.db.orders) :
    OrdersAfter P action input w orders' := by
  subst same
  exact ⟨fun o member => ⟨o, member, .refl ..⟩, fun o member => .inl ⟨o, member, .refl ..⟩⟩

theorem ordersAfter_of_step {orders' : OrderTable} {changes : OrderRecord → OrderStatus → Prop}
    (step : OrdersStep w.db.orders orders' changes)
    (allowed : ∀ o ∈ w.db.orders, ∀ status, changes o status → action.Changes P input w.db o status) :
    OrdersAfter P action input w orders' := by
  refine ⟨fun o member => ?_, fun o' member => ?_⟩
  · obtain ⟨o', present, same, status⟩ := step.forward o member
    exact ⟨o', present, same.toSamePurchase, status.imp_right (allowed o member _),
      .inl same.providerOrderId⟩
  · obtain ⟨o, present, same, status⟩ := step.backward o' member
    exact .inl ⟨o, present, same.toSamePurchase, status.imp_right (allowed o present _),
      .inl same.providerOrderId⟩

theorem ordersAfter_of_command {body : Database → Except Failure Database}
    (after : ∀ db, body w.db = .ok db → OrdersAfter P action input w db.orders) :
    OrdersAfter P action input w (w.command input.dbError body).2.db.orders := by
  rcases w.command_cases input.dbError body with ⟨failure, done, -⟩ | ⟨db, -, ran, done⟩
  · rw [done]
    exact ordersAfter_of_eq rfl
  · rw [done]
    exact after db ran

end Orders

/-- What an action does to the orders. -/
theorem execute_orders (P : Platform) (action : Action) (input : Input) (w : World) :
    OrdersAfter P action input w (execute P action input w).2.db.orders := by
  by_cases written : Part.orders ∈ action.writes
  swap
  · exact ordersAfter_of_eq ((execute_frame P action input w).orders (Action.mem_spares.mpr written))
  cases action with
  | claimOrder args =>
      simp only [execute]
      rcases w.transaction_cases input.dbError (Payments.claimOrder P args (input.now 0)) with
        ⟨failure, done, -⟩ | ⟨won, db, -, ran, done⟩
      · rw [done]
        exact ordersAfter_of_eq rfl
      · rw [done]
        rcases claimOrder_ok ran with ⟨-, rfl, -⟩ | ⟨rfl, fresh, -, ⟨o, id, mandateId, amountMinor,
          currency, quoteId, idempotencyKey, status, number, inserted⟩, -⟩
        · exact ordersAfter_of_eq rfl
        · have members := fun x => Table.mem_of_insert? inserted (x := x)
          refine ⟨fun o member => ⟨o, (members o).mpr (.inl member), .refl ..⟩, fun o' member => ?_⟩
          rcases (members o').mp member with old | rfl
          · exact .inl ⟨o', old, .refl ..⟩
          · exact .inr ⟨args, rfl, by simp [execute, done], fresh, id, mandateId, amountMinor,
              currency, quoteId, idempotencyKey, status, number⟩
  | recordOrderCreationFailed args message =>
      exact ordersAfter_of_command fun db ran =>
        ordersAfter_of_step (recordOrderCreationFailed_ok ran).1 fun o _ _ change => change
  | recordProviderOrder args providerOrderId =>
      simp only [execute]
      rcases w.transaction_cases input.dbError
        (Payments.recordProviderOrder P args providerOrderId) with
        ⟨failure, done, -⟩ | ⟨order, db, -, ran, done⟩
      · rw [done]
        exact ordersAfter_of_eq rfl
      · rw [done]
        obtain ⟨rows, -⟩ := recordProviderOrder_ok ran
        have becomes : ∀ o : OrderRecord, OrderBecomes P (.recordProviderOrder args providerOrderId)
            input w.db o (if o.id = args.orderId then
              { o with providerOrderId := some providerOrderId } else o) := by
          intro o
          split
          · rename_i mine
            exact ⟨⟨rfl, rfl, rfl, rfl, rfl, rfl⟩, .inl rfl, .inr ⟨args, providerOrderId, rfl, mine⟩⟩
          · exact .refl ..
        refine ⟨fun o member => ⟨_, (rows _).mpr ⟨o, member, rfl⟩, becomes o⟩, fun o' member => ?_⟩
        obtain ⟨o, old, rfl⟩ := (rows o').mp member
        exact .inl ⟨o, old, becomes o⟩
  | recordPaymentFailed orderId declineReason reason signature actorId traceId =>
      exact ordersAfter_of_command fun db ran =>
        ordersAfter_of_step (recordPaymentFailed_ok ran).1 fun o _ _ change => change
  | recordPaymentCaptured orderId paymentId signature actorId traceId =>
      exact ordersAfter_of_command fun db ran =>
        ordersAfter_of_step (recordPaymentCaptured_ok ran).1 fun o _ _ change => change
  | reverseSettlement c orderId =>
      exact ordersAfter_of_command fun db ran =>
        ordersAfter_of_step (reverseSettlementAfterRefund_ok ran).orders fun o _ _ change =>
          ⟨change.1, by simpa using change.2.1, change.2.2⟩
  | voidOrder c orderId =>
      exact ordersAfter_of_command fun db ran =>
        ordersAfter_of_step (voidOrder_ok ran).orders fun o _ _ change => change
  | processUnprocessedWebhooks =>
      exact ordersAfter_of_command fun db ran =>
        ordersAfter_of_step (processUnprocessedWebhooks_ok ran).1 fun o _ _ change => change
  | reconcileNonTerminalOrders =>
      exact ordersAfter_of_command fun db ran =>
        ordersAfter_of_step (reconcileNonTerminalOrders_ok ran).1 fun o _ _ change => change
  | _ => simp [Action.writes] at written

/-! ## Idempotency keys -/

/-- The state to which an action completes a key. -/
def Action.Completes (P : Platform) (action : Action) (key : String) (state : KeyState) : Prop :=
  match action with
  | .recordOrderCreationFailed args _ => args.key P = key ∧ state = .failed
  | .recordProviderOrder args _ => args.key P = key ∧ state = .completed
  | _ => False

/-- The keys before and after an action. -/
structure KeysAfter (P : Platform) (action : Action) (input : Input) (w : World)
    (keys' : Table IdempotencyKeyRecord [IdempotencyKeyRecord.key]) : Prop where
  forward : ∀ k ∈ w.db.idempotencyKeys, ∃ k' ∈ keys', k'.key = k.key ∧
    (k'.state = k.state ∨ action.Completes P k.key k'.state ∧
      ∃ value, (execute P action input w).1 = .ok value)
  backward : ∀ k' ∈ keys', (∃ k ∈ w.db.idempotencyKeys, k'.key = k.key ∧
      (k'.state = k.state ∨ action.Completes P k.key k'.state ∧
        ∃ value, (execute P action input w).1 = .ok value)) ∨
    ∃ args, action = .claimOrder args ∧ k'.key = args.key P ∧ k'.state = .inFlight ∧
      (execute P (.claimOrder args) input w).1 = .ok true

section Keys

variable {P : Platform} {action : Action} {input : Input} {w : World}

theorem keysAfter_of_eq {keys' : Table IdempotencyKeyRecord [IdempotencyKeyRecord.key]}
    (same : keys' = w.db.idempotencyKeys) : KeysAfter P action input w keys' := by
  subst same
  exact ⟨fun k member => ⟨k, member, rfl, .inl rfl⟩,
    fun k member => .inl ⟨k, member, rfl, .inl rfl⟩⟩

theorem keysAfter_of_complete {keys' : Table IdempotencyKeyRecord [IdempotencyKeyRecord.key]}
    {key : String} {state : KeyState}
    (rows : ∀ k', k' ∈ keys' ↔ ∃ k ∈ w.db.idempotencyKeys,
      k' = if k.key = key then { k with state := state } else k)
    (allowed : action.Completes P key state)
    (answered : ∃ value, (execute P action input w).1 = .ok value) :
    KeysAfter P action input w keys' := by
  have change : ∀ k : IdempotencyKeyRecord,
      (if k.key = key then { k with state := state } else k).key = k.key ∧
        ((if k.key = key then { k with state := state } else k).state = k.state ∨
          action.Completes P k.key (if k.key = key then { k with state := state } else k).state ∧
            ∃ value, (execute P action input w).1 = .ok value) := by
    intro k
    split
    · rename_i mine
      exact ⟨rfl, .inr ⟨mine ▸ allowed, answered⟩⟩
    · exact ⟨rfl, .inl rfl⟩
  refine ⟨fun k member => ⟨_, (rows _).mpr ⟨k, member, rfl⟩, change k⟩, fun k' member => ?_⟩
  obtain ⟨k, old, rfl⟩ := (rows k').mp member
  exact .inl ⟨k, old, change k⟩

end Keys

/-- What an action does to the keys. -/
theorem execute_keys (P : Platform) (action : Action) (input : Input) (w : World) :
    KeysAfter P action input w (execute P action input w).2.db.idempotencyKeys := by
  by_cases written : Part.keys ∈ action.writes
  swap
  · exact keysAfter_of_eq ((execute_frame P action input w).keys (Action.mem_spares.mpr written))
  cases action with
  | claimOrder args =>
      simp only [execute]
      rcases w.transaction_cases input.dbError (Payments.claimOrder P args (input.now 0)) with
        ⟨failure, done, -⟩ | ⟨won, db, -, ran, done⟩
      · rw [done]
        exact keysAfter_of_eq rfl
      · rw [done]
        rcases claimOrder_ok ran with ⟨-, rfl, -⟩ | ⟨rfl, -, ⟨k, named, state, inserted⟩, -⟩
        · exact keysAfter_of_eq rfl
        · have members := fun x => Table.mem_of_insert? inserted (x := x)
          refine ⟨fun k member => ⟨k, (members k).mpr (.inl member), rfl, .inl rfl⟩,
            fun k' member => ?_⟩
          rcases (members k').mp member with old | rfl
          · exact .inl ⟨k', old, rfl, .inl rfl⟩
          · exact .inr ⟨args, rfl, named, state, by simp [execute, done]⟩
  | recordOrderCreationFailed args message =>
      simp only [execute]
      rcases w.command_cases input.dbError (Payments.recordOrderCreationFailed P args message) with
        ⟨failure, done, -⟩ | ⟨db, -, ran, done⟩
      · rw [done]
        exact keysAfter_of_eq rfl
      · rw [done]
        exact keysAfter_of_complete (recordOrderCreationFailed_ok ran).2.1 ⟨rfl, rfl⟩
          ⟨(), by simp [execute, done]⟩
  | recordProviderOrder args providerOrderId =>
      simp only [execute]
      rcases w.transaction_cases input.dbError
        (Payments.recordProviderOrder P args providerOrderId) with
        ⟨failure, done, -⟩ | ⟨order, db, -, ran, done⟩
      · rw [done]
        exact keysAfter_of_eq rfl
      · rw [done]
        exact keysAfter_of_complete (recordProviderOrder_ok ran).2.1 ⟨rfl, rfl⟩
          ⟨order, by simp [execute, done]⟩
  | _ => simp [Action.writes] at written

/-! ## Sagas -/

/-- A saga of the same purchase. -/
structure SagaRecord.SamePurchase (s s' : SagaRecord) : Prop where
  id : s'.id = s.id
  mandateId : s'.mandateId = s.mandateId
  amountMinor : s'.amountMinor = s.amountMinor

/-- The changes of a saga row that an action can make. -/
def Action.WritesSaga (action : Action) (input : Input) (db : Database) (s s' : SagaRecord) :
    Prop :=
  match action with
  | .resolveSaga key result => s.id = key ∧
      (result.verdict = .allow ∧ s'.status = .awaitingAuthorization ∧
          s'.orderId = result.orderId.or s.orderId ∨
        result.verdict = .deny ∧ s'.status = .failed ∧ s'.orderId = s.orderId)
  | .settle saga _ _ _ _ => s.id = saga.id ∧ s'.status = .completed ∧ s'.orderId = s.orderId ∧
      (Ledger.capture db (input.now 0) saga.mandateId saga.amountMinor saga.id).1 = true
  | .finalizeSaga sagaId _ status => s.id = sagaId ∧ s'.status = status ∧ s'.orderId = s.orderId
  | _ => False

/-- A saga before and after an action. -/
structure SagaBecomes (action : Action) (input : Input) (db : Database) (s s' : SagaRecord) :
    Prop where
  same : s.SamePurchase s'
  written : s' = s ∨ action.WritesSaga input db s s'

theorem SagaBecomes.refl (action : Action) (input : Input) (db : Database) (s : SagaRecord) :
    SagaBecomes action input db s s := ⟨⟨rfl, rfl, rfl⟩, .inl rfl⟩

/-- The saga an action has opened. -/
structure SagaBorn (action : Action) (db : Database) (req : Gate.MoneyActionRequest)
    (s : SagaRecord) : Prop where
  action : action = .openSaga req s.id
  fresh : ∀ s' ∈ db.sagas, s'.id ≠ s.id
  mandateId : s.mandateId = req.mandateId
  amountMinor : s.amountMinor = req.amountMinor
  status : s.status = .running
  orderId : s.orderId = none

abbrev SagaTable : Type := Table SagaRecord [SagaRecord.id]

/-- The sagas before and after an action. -/
structure SagasAfter (action : Action) (input : Input) (db : Database) (sagas' : SagaTable) :
    Prop where
  forward : ∀ s ∈ db.sagas, ∃ s' ∈ sagas', SagaBecomes action input db s s'
  backward : ∀ s' ∈ sagas', (∃ s ∈ db.sagas, SagaBecomes action input db s s') ∨
    ∃ req, SagaBorn action db req s'

section Sagas

variable {action : Action} {input : Input} {db : Database}

theorem sagasAfter_of_eq {sagas' : SagaTable} (same : sagas' = db.sagas) :
    SagasAfter action input db sagas' := by
  subst same
  exact ⟨fun s member => ⟨s, member, .refl ..⟩, fun s member => .inl ⟨s, member, .refl ..⟩⟩

theorem sagasAfter_of_write {sagas' : SagaTable} {sagaId step : String} {status : SagaStatus}
    {orderId : Option String}
    (rows : ∀ s', s' ∈ sagas' ↔ ∃ s ∈ db.sagas,
      s' = if s.id = sagaId then s.written step status orderId else s)
    (allowed : ∀ s ∈ db.sagas, s.id = sagaId →
      action.WritesSaga input db s (s.written step status orderId)) :
    SagasAfter action input db sagas' := by
  have change : ∀ s ∈ db.sagas, SagaBecomes action input db s
      (if s.id = sagaId then s.written step status orderId else s) := by
    intro s member
    split
    · rename_i mine
      exact ⟨⟨rfl, rfl, rfl⟩, .inr (allowed s member mine)⟩
    · exact .refl ..
  refine ⟨fun s member => ⟨_, (rows _).mpr ⟨s, member, rfl⟩, change s member⟩, fun s' member => ?_⟩
  obtain ⟨s, old, rfl⟩ := (rows s').mp member
  exact .inl ⟨s, old, change s old⟩

theorem sagasAfter_of_transaction {α : Type} {w : World}
    {body : Database → Except Failure (α × Database)}
    (after : ∀ value db, body w.db = .ok (value, db) → SagasAfter action input w.db db.sagas) :
    SagasAfter action input w.db (w.transaction input.dbError body).2.db.sagas := by
  rcases w.transaction_cases input.dbError body with ⟨failure, done, -⟩ | ⟨value, db, -, ran, done⟩
  · rw [done]
    exact sagasAfter_of_eq rfl
  · rw [done]
    exact after value db ran

end Sagas

/-- What an action does to the sagas. -/
theorem execute_sagas (P : Platform) (action : Action) (input : Input) (w : World) :
    SagasAfter action input w.db (execute P action input w).2.db.sagas := by
  by_cases written : Part.sagas ∈ action.writes
  swap
  · exact sagasAfter_of_eq ((execute_frame P action input w).sagas (Action.mem_spares.mpr written))
  cases action with
  | openSaga req key =>
      refine sagasAfter_of_transaction fun existing db ran => ?_
      rcases openSaga_ok ran with ⟨rfl, -⟩ | ⟨-, fresh, ⟨s, rfl, mandateId, amountMinor, status,
        orderId, inserted⟩, -⟩
      · exact sagasAfter_of_eq rfl
      · have members := fun x => Table.mem_of_insert? inserted (x := x)
        refine ⟨fun s' member => ⟨s', (members s').mpr (.inl member), .refl ..⟩,
          fun s' member => ?_⟩
        rcases (members s').mp member with old | rfl
        · exact .inl ⟨s', old, .refl ..⟩
        · exact .inr ⟨req, rfl, fresh, mandateId, amountMinor, status, orderId⟩
  | resolveSaga key result =>
      refine sagasAfter_of_transaction fun final db ran => ?_
      unfold Saga.resolveSaga at ran
      split at ran
      · rename_i allowed
        exact sagasAfter_of_write (writeSaga_ok ran).2.1
          fun s _ mine => ⟨mine, .inl ⟨allowed, rfl, rfl⟩⟩
      · rename_i denied
        exact sagasAfter_of_write (writeSaga_ok ran).2.1
          fun s _ mine => ⟨mine, .inr ⟨denied, rfl, rfl⟩⟩
  | settle saga orderId paymentId actorId traceId =>
      refine sagasAfter_of_transaction fun final db ran => ?_
      rcases settle_ok ran with ⟨-, -, rfl⟩ | ⟨captured, -, -, -, rows, -⟩
      · exact sagasAfter_of_eq (frame_capture ..).sagas
      · exact sagasAfter_of_write rows fun s _ mine => ⟨mine, rfl, rfl, captured⟩
  | finalizeSaga sagaId step status =>
      exact sagasAfter_of_transaction fun final db ran =>
        sagasAfter_of_write (writeSaga_ok ran).2.1 fun s _ mine => ⟨mine, rfl, rfl⟩
  | _ => simp [Action.writes] at written

end Actl
