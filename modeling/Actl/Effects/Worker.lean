import Actl.Effects.Store

/-!
# What the worker's transactions write

Webhook handling and reconciliation change the status of orders that are not
terminal, and nothing else; the sweeper lets holds expire. Each is a loop, and
each result is an induction over it.
-/

set_option autoImplicit false

namespace Actl

open Foundation (bind_eq_ok)

/-! ## Webhooks -/

/-- The event reports the order with this provider order id as captured. -/
def ReportsCaptured (event : WebhookEventRecord) (o : OrderRecord) : Prop :=
  event.eventType = "payment.captured" ∧ ∃ providerOrderId,
    o.providerOrderId = some providerOrderId ∧
      ((Payments.extractPaymentEntity event.payload).bind (·.get? "order_id")).getD .null
        = .str providerOrderId

theorem getOrderByProviderOrderId_ok {db : Database} {providerOrderId : String} {o : OrderRecord}
    (found : db.getOrderByProviderOrderId providerOrderId = .ok (some o)) :
    o ∈ db.orders ∧ o.providerOrderId = some providerOrderId := by
  unfold Database.getOrderByProviderOrderId at found
  split at found
  · cases found
  · rename_i order only
    cases found
    have member : o ∈ [o] := List.mem_singleton_self o
    rw [← only, List.mem_filter] at member
    exact ⟨member.1, by simpa using member.2⟩
  · cases found

/-- What one webhook event changes: at most the status of one order that was not
terminal. -/
theorem applyWebhookEvent_ok {P : Platform} {traceId actorId : String}
    {event : WebhookEventRecord} {db db' : Database}
    (done : Payments.applyWebhookEvent P traceId actorId event db = .ok db') :
    OrdersStep db.orders db'.orders (fun o s => o.status.isTerminal = false ∧
        (s = .failed ∨ s = .captured ∧ ReportsCaptured event o)) ∧
      db.Frame db' [.ledger, .sagas, .keys, .catalog] := by
  unfold Payments.applyWebhookEvent at done
  dsimp only at done
  split at done
  · cases done
    exact ⟨.refl _ _, .refl db _⟩
  · split at done
    · rename_i providerOrderId named
      obtain ⟨looked, found, rest⟩ := bind_eq_ok.mp done
      split at rest
      · cases rest
        exact ⟨.refl _ _, .refl db _⟩
      · rename_i order
        obtain ⟨present, owns⟩ := getOrderByProviderOrderId_ok found
        split at rest
        · cases rest
          exact ⟨.refl _ _, .refl db _⟩
        · rename_i live
          have only : ∀ o ∈ db.orders, o.id = order.id → o = order := fun o member same =>
            Database.order_unique_id member present same
          split at rest
          · rename_i type
            obtain ⟨db₁, transitioned, last⟩ := bind_eq_ok.mp rest
            cases last
            obtain ⟨step, -, -, frame⟩ := transitionStatus_ok transitioned
            refine ⟨step.mono fun o member s change => ?_, frame.trans (frame_appendEntry ..)⟩
            rw [only o member change.1]
            exact ⟨by simpa using live, .inr ⟨change.2, type, providerOrderId, owns, named⟩⟩
          · split at rest
            · obtain ⟨db₁, transitioned, last⟩ := bind_eq_ok.mp rest
              cases last
              obtain ⟨step, -, -, frame⟩ := transitionStatus_ok transitioned
              refine ⟨step.mono fun o member s change => ?_, frame.trans (frame_appendEntry ..)⟩
              rw [only o member change.1]
              exact ⟨by simpa using live, .inl change.2⟩
            · cases rest
              exact ⟨.refl _ _, .refl db _⟩
    · cases done

theorem markProcessed_ok {db db' : Database} {eventId : String} {at' : Time}
    (done : db.markProcessed eventId at' = .ok db') :
    db.Frame db' [.orders, .ledger, .sagas, .keys, .catalog] := by
  unfold Database.markProcessed at done
  split at done
  · cases done
  · cases done
    exact ⟨fun part _ => by cases part <;> rfl, rfl, fun _ => id⟩

theorem applyWebhookEvents_ok {P : Platform} {now : Nat → Time} {traceId : Nat → String}
    {events : List WebhookEventRecord} {i : Nat} {db db' : Database}
    (done : Payments.applyWebhookEvents P now traceId i events db = .ok db') :
    OrdersStep db.orders db'.orders (fun o s => o.status.isTerminal = false ∧
        (s = .failed ∨ s = .captured ∧ ∃ event ∈ events, ReportsCaptured event o)) ∧
      db.Frame db' [.ledger, .sagas, .keys, .catalog] := by
  induction events generalizing i db with
  | nil =>
      cases done
      exact ⟨.refl _ _, .refl _ _⟩
  | cons event events ih =>
      obtain ⟨db₁, applied, rest⟩ := bind_eq_ok.mp done
      obtain ⟨db₂, marked, rest⟩ := bind_eq_ok.mp rest
      obtain ⟨step, frame⟩ := applyWebhookEvent_ok applied
      have frame₁ := markProcessed_ok marked
      obtain ⟨step', frame'⟩ := ih rest
      rw [frame₁.orders] at step'
      refine ⟨step.trans step' (fun o _ s change => ?_) (fun o _ o' _ same status s change => ?_),
        frame.trans ((frame₁.mono (by simp)).trans frame')⟩
      · refine ⟨change.1, change.2.imp_right fun captured => ⟨captured.1, event, ?_, captured.2⟩⟩
        exact List.mem_cons_self
      · -- An order that changed before is terminal by now.
        have live : o.status.isTerminal = false := by
          rcases status with unchanged | changed
          · rw [← unchanged]
            exact change.1
          · rcases changed.2 with failed | captured
            · rw [failed] at change
              cases change.1
            · rw [captured.1] at change
              cases change.1
        refine ⟨live, change.2.imp_right fun captured => ⟨captured.1, ?_⟩⟩
        obtain ⟨event', member, type, providerOrderId, owns, named⟩ := captured.2
        exact ⟨event', List.mem_cons_of_mem _ member, type, providerOrderId,
          same.providerOrderId ▸ owns, named⟩

theorem processUnprocessedWebhooks_ok {P : Platform} {now : Nat → Time} {traceId : Nat → String}
    {db db' : Database} (done : Payments.processUnprocessedWebhooks P now traceId db = .ok db') :
    OrdersStep db.orders db'.orders (fun o s => o.status.isTerminal = false ∧
        (s = .failed ∨ s = .captured ∧ ∃ event ∈ db.listUnprocessed, ReportsCaptured event o)) ∧
      db.Frame db' [.ledger, .sagas, .keys, .catalog] := by
  obtain ⟨_, -, rest⟩ := bind_eq_ok.mp done
  exact applyWebhookEvents_ok rest

theorem processWebhookDelivery_frame (P : Platform) (delivery : Payments.WebhookDelivery)
    (db : Database) :
    db.Frame (Payments.processWebhookDelivery P delivery db).2 [.orders, .ledger, .sagas, .keys, .catalog] := by
  unfold Payments.processWebhookDelivery
  split
  · exact .refl db _
  · split
    · exact .refl db _
    · split
      · rename_i claimed
        obtain ⟨events, -, rfl⟩ := Option.map_eq_some_iff.mp claimed
        exact ⟨fun part _ => by cases part <;> rfl, rfl, fun _ => id⟩
      · exact .refl db _

/-! ## Reconciliation -/

/-- The poll of the provider found a captured payment. -/
def PollsCaptured (poll : Except Failure (List Payments.ProviderPayment)) : Prop :=
  ∃ payments latest, poll = .ok payments ∧ Payments.latestPayment payments = some latest ∧
    latest.status = .captured

theorem reconcileOrder_ok {P : Platform} {traceId : String}
    {poll : Except Failure (List Payments.ProviderPayment)} {order : OrderRecord}
    {db db' : Database} (done : Payments.reconcileOrder P traceId poll order db = .ok db') :
    OrdersStep db.orders db'.orders (fun o s => o.id = order.id ∧
        (s = .failed ∨ s = .captured ∧ PollsCaptured poll)) ∧
      db.Frame db' [.ledger, .sagas, .keys, .catalog] := by
  unfold Payments.reconcileOrder at done
  dsimp only at done
  split at done
  · cases done
    exact ⟨.refl _ _, .refl db _⟩
  · split at done
    · split at done
      · cases done
        exact ⟨.refl _ _, .refl db _⟩
      · cases done
    · rename_i payments
      split at done
      · cases done
        exact ⟨.refl _ _, .refl db _⟩
      · rename_i latest chosen
        split at done
        · rename_i captured
          obtain ⟨db₁, transitioned, last⟩ := bind_eq_ok.mp done
          cases last
          obtain ⟨step, -, -, frame⟩ := transitionStatus_ok transitioned
          exact ⟨step.mono fun o _ s change =>
            ⟨change.1, .inr ⟨change.2, payments, latest, rfl, chosen, captured⟩⟩,
            frame.trans (frame_appendEntry ..)⟩
        · obtain ⟨db₁, transitioned, last⟩ := bind_eq_ok.mp done
          cases last
          obtain ⟨step, -, -, frame⟩ := transitionStatus_ok transitioned
          exact ⟨step.mono fun o _ s change => ⟨change.1, .inl change.2⟩,
            frame.trans (frame_appendEntry ..)⟩
        · cases done
          exact ⟨.refl _ _, .refl db _⟩

theorem reconcileOrders_ok {P : Platform} {traceId : Nat → String}
    {polls : Nat → Except Failure (List Payments.ProviderPayment)} {due : List OrderRecord}
    {i : Nat} {db db' : Database}
    (done : Payments.reconcileOrders P traceId polls i due db = .ok db') :
    OrdersStep db.orders db'.orders (fun o s => ∃ (j : Nat) (order : OrderRecord),
        due[j]? = some order ∧ order.id = o.id ∧
          (s = .failed ∨ s = .captured ∧ PollsCaptured (polls (i + j)))) ∧
      db.Frame db' [.ledger, .sagas, .keys, .catalog] := by
  induction due generalizing i db with
  | nil =>
      cases done
      exact ⟨.refl _ _, .refl _ _⟩
  | cons order due ih =>
      obtain ⟨db₁, reconciled, rest⟩ := bind_eq_ok.mp done
      obtain ⟨step, frame⟩ := reconcileOrder_ok reconciled
      obtain ⟨step', frame'⟩ := ih rest
      refine ⟨step.trans step' (fun o _ s change => ?_) (fun o _ o' _ same _ s change => ?_),
        frame.trans frame'⟩
      · exact ⟨0, order, rfl, change.1.symm, change.2⟩
      · obtain ⟨j, order', found, named, status⟩ := change
        refine ⟨j + 1, order', found, named.trans same.id, ?_⟩
        rwa [Nat.add_right_comm] at status

/-- The orders a reconciliation at these clock readings looks at. -/
def reconcileCandidates (P : Platform) (input : Input) (db : Database) : List OrderRecord :=
  db.listNonTerminalOlderThan (input.now 0 0 - seconds P.settings.reconcileAfterS)

/-- What a reconciliation changes: orders that were not terminal. -/
theorem reconcileNonTerminalOrders_ok {P : Platform} {input : Input} {db db' : Database}
    (done : Payments.reconcileNonTerminalOrders P (input.now 0) input.ids input.polls db
      = .ok db') :
    OrdersStep db.orders db'.orders (fun o s => o.status.isTerminal = false ∧
        (s = .failed ∨ s = .captured ∧ ∃ j : Nat, (reconcileCandidates P input db)[j]? = some o ∧
          PollsCaptured (input.polls j))) ∧
      db.Frame db' [.ledger, .sagas, .keys, .catalog] := by
  obtain ⟨_, -, rest⟩ := bind_eq_ok.mp done
  obtain ⟨step, frame⟩ := reconcileOrders_ok rest
  refine ⟨step.mono fun o member s change => ?_, frame⟩
  obtain ⟨j, order, found, named, status⟩ := change
  have due := List.mem_of_getElem? found
  simp only [Database.listNonTerminalOlderThan, List.mem_filter, Bool.and_eq_true] at due
  obtain rfl := Database.order_unique_id member due.1 named.symm
  refine ⟨by simpa using due.2.1, status.imp_right fun captured => ⟨captured.1, j, found, ?_⟩⟩
  rw [Nat.zero_add] at captured
  exact captured.2

/-! ## Sweeping -/

theorem sweepReservation_frame {P : Platform} {now : Nat → Time} {traceId refId : String}
    {db db' : Database} {expired : Bool}
    (done : Ledger.sweepReservation P db now traceId refId = .ok (expired, db')) :
    db.Frame db' [.orders, .sagas, .keys, .catalog] := by
  unfold Ledger.sweepReservation at done
  dsimp only at done
  split at done
  · cases done
    exact .refl db _
  · split at done
    · cases done
    · split at done
      · cases done
        exact .refl db _
      · cases done
        exact ⟨fun part member => by cases part <;> first | rfl | simp at member, rfl, fun _ => id⟩

theorem sweepAll_frame {P : Platform} {now : Nat → Nat → Time} {traceId : Nat → String}
    {candidates : List String} {i : Nat} {db db' : Database} {swept : List String}
    (done : Ledger.sweepAll P now traceId i candidates db = .ok (swept, db')) :
    db.Frame db' [.orders, .sagas, .keys, .catalog] := by
  induction candidates generalizing i db swept with
  | nil =>
      cases done
      exact .refl _ _
  | cons refId candidates ih =>
      obtain ⟨⟨expired, db₁⟩, first, rest⟩ := bind_eq_ok.mp done
      obtain ⟨⟨swept', db₂⟩, second, last⟩ := bind_eq_ok.mp rest
      cases last
      exact (sweepReservation_frame first).trans (ih second)

theorem sweep_frame {P : Platform} {now : Nat → Nat → Time} {traceId : Nat → String} {ttl : Int}
    {db db' : Database} {swept : List String}
    (done : Ledger.sweep P now traceId ttl db = .ok (swept, db')) :
    db.Frame db' [.orders, .sagas, .keys, .catalog] := by
  obtain ⟨_, -, rest⟩ := bind_eq_ok.mp done
  exact sweepAll_frame rest

/-- What a sweep changes: holds among its candidates expire. -/
structure Sweeps (db db' : Database) (candidates : List String) : Prop where
  phases : ∀ refId, Ledger.phaseOf db' refId = Ledger.phaseOf db refId ∨
    (refId ∈ candidates ∧ Ledger.phaseOf db refId = some .held ∧
      Ledger.phaseOf db' refId = some .expired)
  orderly : Ledger.Orderly db'

theorem sweepAll_ok {P : Platform} {now : Nat → Nat → Time} {traceId : Nat → String}
    {candidates : List String} {i : Nat} {db db' : Database} {swept : List String}
    (orderly : Ledger.Orderly db)
    (done : Ledger.sweepAll P now traceId i candidates db = .ok (swept, db')) :
    Sweeps db db' candidates := by
  induction candidates generalizing i db swept with
  | nil =>
      cases done
      exact ⟨fun _ => .inl rfl, orderly⟩
  | cons refId candidates ih =>
      obtain ⟨⟨expired, db₁⟩, first, rest⟩ := bind_eq_ok.mp done
      obtain ⟨⟨swept', db₂⟩, second, last⟩ := bind_eq_ok.mp rest
      cases last
      have step : (∀ ref, Ledger.phaseOf db₁ ref = Ledger.phaseOf db ref ∨
          (ref = refId ∧ Ledger.phaseOf db ref = some .held ∧
            Ledger.phaseOf db₁ ref = some .expired)) ∧ Ledger.Orderly db₁ := by
        rcases Ledger.sweepReservation_moves (now i) refId orderly first with same | moves
        · exact ⟨fun ref => .inl (by rw [same]), same ▸ orderly⟩
        · refine ⟨fun ref => ?_, moves.orderly⟩
          by_cases mine : ref = refId
          · subst mine
            exact .inr ⟨rfl, moves.before, moves.after⟩
          · exact .inl (moves.others ref mine)
      have tail := ih step.2 second
      refine ⟨fun ref => ?_, tail.orderly⟩
      rcases tail.phases ref with same | ⟨member, held, expired'⟩
      · rcases step.1 ref with same' | ⟨rfl, held, expired'⟩
        · exact .inl (same.trans same')
        · exact .inr ⟨List.mem_cons_self, held, same.trans expired'⟩
      · rcases step.1 ref with same' | ⟨rfl, held', expired''⟩
        · exact .inr ⟨List.mem_cons_of_mem _ member, same' ▸ held, expired'⟩
        · rw [held] at expired''
          cases expired''

theorem sweep_ok {P : Platform} {now : Nat → Nat → Time} {traceId : Nat → String} {ttl : Int}
    {db db' : Database} {swept : List String} (orderly : Ledger.Orderly db)
    (done : Ledger.sweep P now traceId ttl db = .ok (swept, db')) :
    Sweeps db db' (db.listReservationsOlderThan (now 0 0 - seconds ttl)) := by
  obtain ⟨_, -, rest⟩ := bind_eq_ok.mp done
  exact sweepAll_ok orderly rest

end Actl
