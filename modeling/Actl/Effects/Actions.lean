import Actl.Effects.Purchase
import Actl.Effects.Worker

/-!
# What the actions write

The parts of the store each action can write. Everything else it leaves alone,
whatever the environment decides, and no action ever changes a locked mandate.
-/

set_option autoImplicit false

namespace Actl

namespace World

variable {w : World} {α : Type} {dbError : Bool}

/-- A transaction has failed and changed nothing, or it has committed what its
body made of the store. -/
theorem transaction_cases (w : World) (dbError : Bool)
    (body : Database → Except Failure (α × Database)) :
    (∃ failure, w.transaction dbError body = (.error failure, w) ∧
        (dbError = true ∧ failure = .dbapiError ∨ body w.db = .error failure)) ∨
      ∃ value db, dbError = false ∧ body w.db = .ok (value, db) ∧
        w.transaction dbError body = (.ok value, { w with db }) := by
  unfold transaction
  cases dbError with
  | true => exact .inl ⟨.dbapiError, rfl, .inl ⟨rfl, rfl⟩⟩
  | false =>
      cases result : body w.db with
      | error failure => exact .inl ⟨failure, rfl, .inr rfl⟩
      | ok pair => exact .inr ⟨pair.1, pair.2, rfl, rfl, rfl⟩

theorem command_cases (w : World) (dbError : Bool) (body : Database → Except Failure Database) :
    (∃ failure, w.command dbError body = (.error failure, w) ∧
        (dbError = true ∧ failure = .dbapiError ∨ body w.db = .error failure)) ∨
      ∃ db, dbError = false ∧ body w.db = .ok db ∧
        w.command dbError body = (.ok (), { w with db }) := by
  unfold command
  rcases w.transaction_cases dbError (fun db => (body db).map fun db => ((), db)) with
    ⟨failure, done, why⟩ | ⟨value, db, clean, ran, done⟩
  · refine .inl ⟨failure, done, why.imp_right fun raised => ?_⟩
    cases result : body w.db with
    | error failure' =>
        rw [result] at raised
        cases raised
        rfl
    | ok db =>
        rw [result] at raised
        cases raised
  · refine .inr ⟨db, clean, ?_, done⟩
    cases result : body w.db with
    | error failure' =>
        rw [result] at ran
        cases ran
    | ok db' =>
        rw [result] at ran
        cases ran
        rfl

/-- A query changes nothing. -/
theorem query_cases (w : World) (dbError : Bool) (body : Database → Except Failure α) :
    w.query dbError body = (.error .dbapiError, w) ∧ dbError = true ∨
      w.query dbError body = (body w.db, w) ∧ dbError = false := by
  unfold query transaction
  cases dbError with
  | true => exact .inl ⟨rfl, rfl⟩
  | false =>
      refine .inr ⟨?_, rfl⟩
      cases result : body w.db <;> simp [result, Except.map]

theorem query_world (w : World) (dbError : Bool) (body : Database → Except Failure α) :
    (w.query dbError body).2 = w := by
  rcases w.query_cases dbError body with ⟨done, -⟩ | ⟨done, -⟩ <;> rw [done]

/-- A provider call leaves the store alone. -/
theorem external_db (w : World) (input : Input) (value : α) (effect : Provider → Provider) :
    (w.external input value effect).2.db = w.db := by
  unfold external
  split
  · rfl
  · dsimp only
    split <;> split <;> rfl

end World

/-- The parts an action can write. -/
def Action.writes : Action → List Part
  | .attemptG1ThroughG5 .. | .releaseReservation _ | .sweep => [.ledger]
  | .claimOrder _ | .recordOrderCreationFailed .. | .recordProviderOrder .. => [.orders, .keys]
  | .openSaga .. | .resolveSaga .. | .finalizeSaga .. => [.sagas]
  | .recordPaymentFailed .. | .recordPaymentCaptured .. => [.orders]
  | .settle .. => [.ledger, .sagas]
  | .reverseSettlement .. | .voidOrder .. => [.orders, .ledger]
  | .processUnprocessedWebhooks | .reconcileNonTerminalOrders => [.orders]
  | .createQuote _ | .mutatePrice _ | .upsertItem _ => [.catalog]
  | _ => []

/-- The parts an action leaves alone. -/
def Action.spares (action : Action) : List Part :=
  [Part.orders, .ledger, .sagas, .keys, .catalog].filter fun part => part ∉ action.writes

theorem Action.mem_spares {action : Action} {part : Part} :
    part ∈ action.spares ↔ part ∉ action.writes := by
  cases part <;> simp [Action.spares]

theorem frame_of_transaction {α : Type} {w : World} {dbError : Bool}
    {body : Database → Except Failure (α × Database)} {parts : List Part}
    (frame : ∀ value db, body w.db = .ok (value, db) → w.db.Frame db parts) :
    w.db.Frame (w.transaction dbError body).2.db parts := by
  rcases w.transaction_cases dbError body with ⟨failure, done, -⟩ | ⟨value, db, -, ran, done⟩
  · rw [done]
    exact .refl _ _
  · rw [done]
    exact frame value db ran

theorem frame_of_command {w : World} {dbError : Bool} {body : Database → Except Failure Database}
    {parts : List Part} (frame : ∀ db, body w.db = .ok db → w.db.Frame db parts) :
    w.db.Frame (w.command dbError body).2.db parts := by
  rcases w.command_cases dbError body with ⟨failure, done, -⟩ | ⟨db, -, ran, done⟩
  · rw [done]
    exact .refl _ _
  · rw [done]
    exact frame db ran

/-- A catalog transaction leaves all the other parts alone. -/
theorem Catalog.Catalogued.frame {P : Platform} {db db' : Database}
    (catalogued : Catalog.Catalogued P db db') :
    db.Frame db' [.orders, .ledger, .sagas, .keys] := by
  refine ⟨fun part member => ?_, ?_, catalogued.quotes⟩
  · cases part with
    | orders => exact catalogued.orders
    | ledger => exact catalogued.ledgerEntries
    | sagas => exact catalogued.sagas
    | keys => exact catalogued.idempotencyKeys
    | catalog => simp at member
  · simp only [Database.lockedMandates, catalogued.mandates]

/-- An action leaves alone what it does not write. -/
theorem execute_frame (P : Platform) (action : Action) (input : Input) (w : World) :
    w.db.Frame (execute P action input w).2.db action.spares := by
  cases action with
  | attemptG1ThroughG5 req key =>
      refine frame_of_transaction fun value db done => ?_
      rcases attemptG1ThroughG5_ok done with ⟨code, -, rfl⟩ | ⟨-, passed⟩
      · exact .refl _ _
      · exact passed.frame
  | claimOrder args =>
      refine frame_of_transaction fun won db done => ?_
      rcases claimOrder_ok done with ⟨-, rfl, -⟩ | ⟨-, -, -, -, -, -, frame⟩
      · exact .refl _ _
      · exact frame
  | recordOrderCreationFailed args message =>
      exact frame_of_command fun db done => (recordOrderCreationFailed_ok done).2.2
  | recordProviderOrder args providerOrderId =>
      exact frame_of_transaction fun order db done => (recordProviderOrder_ok done).2.2.2
  | releaseReservation c =>
      refine frame_of_command fun db done => ?_
      obtain ⟨db', done', -, frame⟩ := releaseReservation_ok P c (input.now 0) w.db
      rw [done] at done'
      cases done'
      exact frame
  | openSaga req key =>
      refine frame_of_transaction fun existing db done => ?_
      rcases openSaga_ok done with ⟨rfl, -⟩ | ⟨-, -, -, frame⟩
      · exact .refl _ _
      · exact frame
  | resolveSaga key result =>
      refine frame_of_transaction fun final db done => ?_
      unfold Saga.resolveSaga at done
      split at done
      · exact (writeSaga_ok done).2.2
      · exact (writeSaga_ok done).2.2
  | recordPaymentFailed orderId declineReason reason signature actorId traceId =>
      exact frame_of_command fun db done => (recordPaymentFailed_ok done).2
  | recordPaymentCaptured orderId paymentId signature actorId traceId =>
      exact frame_of_command fun db done => (recordPaymentCaptured_ok done).2.2.2
  | settle saga orderId paymentId actorId traceId =>
      refine frame_of_transaction fun final db done => ?_
      rcases settle_ok done with ⟨-, -, rfl⟩ | ⟨-, -, -, -, -, frame⟩
      · exact (frame_capture ..).mono (by simp [Action.spares, Action.writes])
      · exact frame
  | reverseSettlement c orderId =>
      exact frame_of_command fun db done => (reverseSettlementAfterRefund_ok done).frame
  | voidOrder c orderId => exact frame_of_command fun db done => (voidOrder_ok done).frame
  | finalizeSaga sagaId step status =>
      exact frame_of_transaction fun final db done => (writeSaga_ok done).2.2
  | proposeOrder args =>
      exact frame_of_transaction fun proposal db done => proposeOrder_ok done
  | updateMandateStatus mandateId status =>
      refine frame_of_command fun db done => ?_
      cases done
      exact ⟨fun part _ => by cases part <;> rfl, lockedMandates_updateMandateStatus .., fun _ => id⟩
  | processWebhookDelivery delivery =>
      refine frame_of_transaction fun receipt db done => ?_
      have frame := processWebhookDelivery_frame P delivery w.db
      rw [Except.ok.inj done] at frame
      exact frame
  | processUnprocessedWebhooks =>
      exact frame_of_command fun db done => (processUnprocessedWebhooks_ok done).2
  | reconcileNonTerminalOrders =>
      exact frame_of_command fun db done => (reconcileNonTerminalOrders_ok done).2
  | sweep =>
      refine frame_of_command fun db done => ?_
      cases swept : Ledger.sweep P input.now input.ids P.settings.reservationTtlS w.db with
      | error failure =>
          rw [swept] at done
          cases done
      | ok pair =>
          rw [swept] at done
          cases done
          exact sweep_frame swept
  | verifyChainAndHaltOnFailure tables fromSeq toSeq =>
      refine frame_of_transaction fun result db done => ?_
      rcases verifyChainAndHaltOnFailure_ok done with ⟨-, rfl⟩ | ⟨-, reason, trippedSeq, rfl⟩
      · exact .refl _ _
      · exact frame_tripIntegrity ..
  | createQuote args =>
      refine frame_of_transaction fun quote db done => ?_
      exact (Catalog.createQuote_ok done).2.2.frame
  | mutatePrice args =>
      exact frame_of_command fun db done => (Catalog.mutatePriceDemoOnly_ok done).2.frame
  | upsertItem item =>
      exact frame_of_command fun db done => (Catalog.upsertItem_ok (P := P) done).2.frame
  | createOrder args =>
      simp only [execute, World.external_db]
      exact .refl _ _
  | fetchPayments providerOrderId =>
      simp only [execute, World.external_db]
      exact .refl _ _
  | capturePayment paymentId amountMinor =>
      simp only [execute, World.external_db]
      exact .refl _ _
  | refundPayment paymentId amountMinor idempotencyKey =>
      simp only [execute, World.external_db]
      exact .refl _ _
  | getHaltState =>
      simp only [execute, World.query_world]
      exact .refl _ _
  | lookupIdempotencyKey key =>
      simp only [execute, World.query_world]
      exact .refl _ _
  | pollIdempotencyKey key =>
      simp only [execute, World.query_world]
      exact .refl _ _
  | getSaga sagaId =>
      simp only [execute, World.query_world]
      exact .refl _ _
  | getMandateStatus mandateId =>
      simp only [execute, World.query_world]
      exact .refl _ _
  | getOrder orderId =>
      simp only [execute, World.query_world]
      exact .refl _ _

end Actl
