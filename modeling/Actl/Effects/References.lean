import Actl.Effects.Trail

/-!
# What an order refers to

An order refers to the decision that allowed it. No action gives an order another decision
(`execute_decided`) or takes a decision out of the store (`execute_keepsDecisions`).
-/

set_option autoImplicit false

namespace Actl

open Foundation (Table bind_eq_ok)
open Payments (OrderArgs)
open Gate (Compensation)

/-! ## Transactions -/

/-- Each order is an old one, with the decision it had. -/
def KeepsDecided (orders orders' : OrderTable) : Prop :=
  ∀ o' ∈ orders', ∃ o ∈ orders, o'.id = o.id ∧ o'.decisionId = o.decisionId

namespace KeepsDecided

variable {orders orders' orders'' : OrderTable}

theorem of_eq (same : orders' = orders) : KeepsDecided orders orders' := by
  intro o member
  exact ⟨o, same ▸ member, rfl, rfl⟩

theorem trans (first : KeepsDecided orders orders') (second : KeepsDecided orders' orders'') :
    KeepsDecided orders orders'' := by
  intro o'' member''
  obtain ⟨o', member', id', decided'⟩ := second o'' member''
  obtain ⟨o, member, id, decided⟩ := first o' member'
  exact ⟨o, member, id'.trans id, decided'.trans decided⟩

end KeepsDecided

section Transactions

variable {P : Platform} {db db' : Database}

theorem keepsDecided_modifyOrder {orderId : String} {f : OrderRecord → OrderRecord}
    {keeps : ∀ col ∈ [OrderRecord.id, OrderRecord.idempotencyKey], ∀ o, col (f o) = col o}
    (same : ∀ o, (f o).decisionId = o.decisionId) :
    KeepsDecided db.orders (db.modifyOrder orderId f keeps).orders := by
  intro o' member
  obtain ⟨o, old, rfl⟩ := mem_modifyOrder.mp member
  refine ⟨o, old, ?_⟩
  split
  · exact ⟨keeps OrderRecord.id List.mem_cons_self o, same o⟩
  · exact ⟨rfl, rfl⟩

theorem transitionStatus_decided {orderId : String} {status : OrderStatus}
    {paymentId reason : Option String}
    (done : db.transitionStatus orderId status paymentId reason = .ok db') :
    KeepsDecided db.orders db'.orders := by
  unfold Database.transitionStatus at done
  split at done
  · cases done
  · cases done
    exact keepsDecided_modifyOrder fun o => rfl

theorem recordOrderCreationFailed_decided {args : OrderArgs} {message : String}
    (done : Payments.recordOrderCreationFailed P args message db = .ok db') :
    KeepsDecided db.orders db'.orders := by
  obtain ⟨db₁, failed, rest⟩ := bind_eq_ok.mp done
  obtain ⟨db₂, completed, last⟩ := bind_eq_ok.mp rest
  cases last
  have same : db₂.orders = db₁.orders := (completeIdempotencyKey_ok completed).2.orders
  exact (transitionStatus_decided failed).trans (.of_eq same)

theorem recordProviderOrder_decided {args : OrderArgs} {providerOrderId : String}
    {order : OrderRecord}
    (done : Payments.recordProviderOrder P args providerOrderId db = .ok (order, db')) :
    KeepsDecided db.orders db'.orders := by
  intro o' member
  obtain ⟨o, old, rfl⟩ := ((recordProviderOrder_ok done).1 o').mp member
  refine ⟨o, old, ?_⟩
  split
  · exact ⟨rfl, rfl⟩
  · exact ⟨rfl, rfl⟩

theorem failOrder_decided {leftAlone : OrderStatus → Bool} {orderId reason : String}
    (done : Gate.failOrder leftAlone orderId reason db = .ok db') :
    KeepsDecided db.orders db'.orders := by
  unfold Gate.failOrder at done
  split at done
  · cases done
    exact .of_eq rfl
  · split at done
    · cases done
      exact .of_eq rfl
    · exact transitionStatus_decided done

theorem recordCompensation_orders {c : Compensation} {orderId : Option String}
    {outcomeName : String} {outcome : Bool}
    (done : Gate.recordCompensation P c orderId outcomeName outcome db = .ok db') :
    db'.orders = db.orders := by
  obtain ⟨after, recorded, frame⟩ := recordCompensation_ok P c orderId outcomeName outcome db
  obtain rfl : after = db' := Except.ok.inj (recorded.symm.trans done)
  exact frame.orders

theorem voidOrder_decided {c : Compensation} {orderId : String} {now : Nat → Time}
    (done : Gate.voidOrderAndReleaseReservation P c orderId now db = .ok db') :
    KeepsDecided db.orders db'.orders := by
  obtain ⟨db₁, failed, rest⟩ := bind_eq_ok.mp done
  refine (failOrder_decided failed).trans (.of_eq ((recordCompensation_orders rest).trans ?_))
  exact (frame_release ..).orders

theorem reverseSettlement_decided {c : Compensation} {orderId : String} {now : Nat → Time}
    (done : Gate.reverseSettlementAfterRefund P c orderId now db = .ok db') :
    KeepsDecided db.orders db'.orders := by
  obtain ⟨db₁, failed, rest⟩ := bind_eq_ok.mp done
  refine (failOrder_decided failed).trans (.of_eq ((recordCompensation_orders rest).trans ?_))
  exact (frame_reverseSettlement ..).orders

theorem recordPaymentFailed_decided {orderId declineReason reason actorId traceId : String}
    {signature : JSONValue}
    (done : Payments.recordPaymentFailed P orderId declineReason reason signature actorId traceId db
      = .ok db') : KeepsDecided db.orders db'.orders := by
  obtain ⟨db₁, failed, rest⟩ := bind_eq_ok.mp done
  cases rest
  have kept := transitionStatus_decided failed
  exact kept

theorem recordPaymentCaptured_decided {orderId paymentId actorId traceId : String}
    {signature : JSONValue}
    (done : Payments.recordPaymentCaptured P orderId paymentId signature actorId traceId db
      = .ok db') : KeepsDecided db.orders db'.orders := by
  obtain ⟨db₁, captured, rest⟩ := bind_eq_ok.mp done
  cases rest
  have kept := transitionStatus_decided captured
  exact kept

theorem applyWebhookEvent_decided {traceId actorId : String} {event : WebhookEventRecord}
    (done : Payments.applyWebhookEvent P traceId actorId event db = .ok db') :
    KeepsDecided db.orders db'.orders := by
  unfold Payments.applyWebhookEvent at done
  dsimp only at done
  split at done
  · cases done
    exact .of_eq rfl
  · split at done
    · obtain ⟨looked, found, rest⟩ := bind_eq_ok.mp done
      split at rest
      · cases rest
        exact .of_eq rfl
      · split at rest
        · cases rest
          exact .of_eq rfl
        · split at rest
          · obtain ⟨db₁, transitioned, last⟩ := bind_eq_ok.mp rest
            cases last
            have kept := transitionStatus_decided transitioned
            exact kept
          · split at rest
            · obtain ⟨db₁, transitioned, last⟩ := bind_eq_ok.mp rest
              cases last
              have kept := transitionStatus_decided transitioned
              exact kept
            · cases rest
              exact .of_eq rfl
    · cases done

theorem applyWebhookEvents_decided {now : Nat → Time} {traceId : Nat → String}
    {events : List WebhookEventRecord} {i : Nat}
    (done : Payments.applyWebhookEvents P now traceId i events db = .ok db') :
    KeepsDecided db.orders db'.orders := by
  induction events generalizing i db with
  | nil =>
      cases done
      exact .of_eq rfl
  | cons event events ih =>
      obtain ⟨db₁, applied, rest⟩ := bind_eq_ok.mp done
      obtain ⟨db₂, marked, rest⟩ := bind_eq_ok.mp rest
      have same : db₂.orders = db₁.orders := (markProcessed_ok marked).orders
      exact (applyWebhookEvent_decided applied).trans ((KeepsDecided.of_eq same).trans (ih rest))

theorem reconcileOrder_decided {traceId : String}
    {poll : Except Failure (List Payments.ProviderPayment)} {order : OrderRecord}
    (done : Payments.reconcileOrder P traceId poll order db = .ok db') :
    KeepsDecided db.orders db'.orders := by
  unfold Payments.reconcileOrder at done
  dsimp only at done
  split at done
  · cases done
    exact .of_eq rfl
  · split at done
    · split at done
      · cases done
        exact .of_eq rfl
      · cases done
    · split at done
      · cases done
        exact .of_eq rfl
      · split at done
        · obtain ⟨db₁, transitioned, last⟩ := bind_eq_ok.mp done
          cases last
          have kept := transitionStatus_decided transitioned
          exact kept
        · obtain ⟨db₁, transitioned, last⟩ := bind_eq_ok.mp done
          cases last
          have kept := transitionStatus_decided transitioned
          exact kept
        · cases done
          exact .of_eq rfl

theorem reconcileOrders_decided {traceId : Nat → String}
    {polls : Nat → Except Failure (List Payments.ProviderPayment)} {due : List OrderRecord}
    {i : Nat}
    (done : Payments.reconcileOrders P traceId polls i due db = .ok db') :
    KeepsDecided db.orders db'.orders := by
  induction due generalizing i db with
  | nil =>
      cases done
      exact .of_eq rfl
  | cons order due ih =>
      obtain ⟨db₁, reconciled, rest⟩ := bind_eq_ok.mp done
      exact (reconcileOrder_decided reconciled).trans (ih rest)

/-- The order is the one that is claimed. -/
structure ClaimedBy (P : Platform) (args : OrderArgs) (o : OrderRecord) : Prop where
  id : o.id = args.orderId
  mandateId : o.mandateId = args.mandateId
  decisionId : o.decisionId = args.decisionId
  quoteId : o.quoteId = args.quoteId
  idempotencyKey : o.idempotencyKey = args.key P

/-- A won claim adds the order and logs the payment to come, and the quote of the order is
there. -/
theorem claimOrder_decided {args : OrderArgs} {now : Nat → Time} {won : Bool}
    (done : Payments.claimOrder P args now db = .ok (won, db')) :
    (∀ o ∈ db'.orders, o ∈ db.orders ∨ won = true ∧ ClaimedBy P args o) ∧
      (won = true → (∃ quote ∈ db.quotes, quote.id = args.quoteId) ∧
        ∃ entry : Audit.AuditEntry, entry.Shows .paymentIntent (OrderArgs.texts P args) ∧
          db'.auditLog.entries = db.auditLog.entries ++ [entry]) := by
  unfold Payments.claimOrder at done
  dsimp only at done
  split at done
  · cases done
    exact ⟨fun o member => .inl member, fun won => by cases won⟩
  · rename_i claimed inserted
    obtain ⟨keys, -, rfl⟩ := Option.map_eq_some_iff.mp inserted
    obtain ⟨ordered, added, rest⟩ := bind_eq_ok.mp done
    cases rest
    unfold Database.addOrder at added
    split at added
    · rename_i admits
      split at added
      · rename_i orders placed
        cases added
        refine ⟨fun o member => ?_, fun _ => ⟨admits.2.2.1, ?_⟩⟩
        · rcases (Table.mem_of_insert? placed).mp member with old | rfl
          · exact .inl old
          · exact .inr ⟨rfl, rfl, rfl, rfl, rfl, rfl⟩
        · refine appendEntry_shows _ _ P _ _ _ ?_
          simp only [OrderArgs.texts, told_cons, told_nil, and_true]
          exact ⟨rfl, rfl, rfl⟩
      · cases added
    · cases added

end Transactions

/-! ## Actions -/

section Actions

variable {P : Platform} {action : Action} {input : Input} {w : World}

theorem keepsDecided_of_command {body : Database → Except Failure Database}
    (keeps : ∀ db, body w.db = .ok db → KeepsDecided w.db.orders db.orders) :
    KeepsDecided w.db.orders (w.command input.dbError body).2.db.orders := by
  rcases w.command_cases input.dbError body with ⟨failure, done, -⟩ | ⟨db, -, ran, done⟩
  · rw [done]
    exact .of_eq rfl
  · rw [done]
    exact keeps db ran

/-- Only a claim adds an order. -/
theorem execute_keepsDecided (P : Platform) (action : Action) (input : Input) (w : World)
    (other : ∀ args, action ≠ .claimOrder args) :
    KeepsDecided w.db.orders (execute P action input w).2.db.orders := by
  by_cases written : Part.orders ∈ action.writes
  swap
  · exact .of_eq ((execute_frame P action input w).orders (Action.mem_spares.mpr written))
  cases action with
  | claimOrder args => exact absurd rfl (other args)
  | recordOrderCreationFailed args message =>
      exact keepsDecided_of_command fun db ran => recordOrderCreationFailed_decided ran
  | recordProviderOrder args providerOrderId =>
      simp only [execute]
      rcases w.transaction_cases input.dbError
        (Payments.recordProviderOrder P args providerOrderId) with
        ⟨failure, done, -⟩ | ⟨order, db, -, ran, done⟩
      · rw [done]
        exact .of_eq rfl
      · rw [done]
        exact recordProviderOrder_decided ran
  | recordPaymentFailed orderId declineReason reason signature actorId traceId =>
      exact keepsDecided_of_command fun db ran => recordPaymentFailed_decided ran
  | recordPaymentCaptured orderId paymentId signature actorId traceId =>
      exact keepsDecided_of_command fun db ran => recordPaymentCaptured_decided ran
  | reverseSettlement c orderId =>
      exact keepsDecided_of_command fun db ran => reverseSettlement_decided ran
  | voidOrder c orderId => exact keepsDecided_of_command fun db ran => voidOrder_decided ran
  | processUnprocessedWebhooks =>
      refine keepsDecided_of_command fun db ran => ?_
      obtain ⟨_, -, rest⟩ := bind_eq_ok.mp ran
      exact applyWebhookEvents_decided rest
  | reconcileNonTerminalOrders =>
      refine keepsDecided_of_command fun db ran => ?_
      obtain ⟨_, -, rest⟩ := bind_eq_ok.mp ran
      exact reconcileOrders_decided rest
  | _ => simp [Action.writes] at written

/-- An order is an old one with the decision it had, or the one that was claimed. -/
theorem execute_decided (P : Platform) (action : Action) (input : Input) (w : World) :
    ∀ o' ∈ (execute P action input w).2.db.orders,
      (∃ o ∈ w.db.orders, o'.id = o.id ∧ o'.decisionId = o.decisionId) ∨
        ∃ args, action = .claimOrder args ∧
          (execute P (.claimOrder args) input w).1 = .ok true ∧ ClaimedBy P args o' := by
  intro o' member
  by_cases claim : ∃ args, action = .claimOrder args
  swap
  · exact .inl (execute_keepsDecided P action input w (not_exists.mp claim) o' member)
  · obtain ⟨args, rfl⟩ := claim
    simp only [execute] at member ⊢
    rcases w.transaction_cases input.dbError (Payments.claimOrder P args (input.now 0)) with
      ⟨failure, done, -⟩ | ⟨won, db, -, ran, done⟩
    · rw [done] at member
      exact .inl ⟨o', member, rfl, rfl⟩
    · rw [done] at member
      rcases (claimOrder_decided ran).1 o' member with old | ⟨rfl, claimed⟩
      · exact .inl ⟨o', old, rfl, rfl⟩
      · exact .inr ⟨args, rfl, by rw [done], claimed⟩

/-- The order a claim has added is for a quote of the store, and the log ends with its
payment. -/
theorem execute_claimed {args : OrderArgs}
    (won : (execute P (.claimOrder args) input w).1 = .ok true) :
    (∃ quote ∈ w.db.quotes, quote.id = args.quoteId) ∧
      ∃ entry : Audit.AuditEntry, entry.Shows .paymentIntent (OrderArgs.texts P args) ∧
        (execute P (.claimOrder args) input w).2.db.auditLog.entries =
          w.db.auditLog.entries ++ [entry] := by
  simp only [execute] at won ⊢
  rcases w.transaction_cases input.dbError (Payments.claimOrder P args (input.now 0)) with
    ⟨failure, done, -⟩ | ⟨value, db, -, ran, done⟩
  · rw [done] at won
    cases won
  · rw [done] at won ⊢
    exact (claimOrder_decided ran).2 (Except.ok.inj won)

/-- A decision stays in the store. -/
theorem execute_keepsDecisions (orderly : Ledger.Orderly w.db) :
    ∀ decision ∈ w.db.decisions, decision ∈ (execute P action input w).2.db.decisions := by
  intro decision member
  by_cases proposal : ∃ args, action = .proposeOrder args
  swap
  · rw [(execute_appends P action input w orderly (not_exists.mp proposal)).decisions]
    exact member
  · obtain ⟨args, rfl⟩ := proposal
    simp only [execute]
    rcases w.transaction_cases input.dbError
      (Saga.proposeOrder P args (input.ids 0) (input.now 0)) with
      ⟨failure, done, -⟩ | ⟨proposal, db, -, ran, done⟩
    · rw [done]
      exact member
    · rw [done]
      unfold Saga.proposeOrder at ran
      split at ran
      · cases ran
        exact member
      · dsimp only at ran
        split at ran
        · cases ran
        · rename_i decisions inserted
          have kept : decision ∈ decisions := (Table.mem_of_insert? inserted).mpr (.inl member)
          split at ran
          · cases ran
            exact kept
          · cases ran
            exact kept

end Actions

end Actl
