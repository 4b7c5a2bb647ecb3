import Actl.Runs.WriteAhead

/-!
# The integrity halt

Once the halt is tripped its row never changes again, and the gate, the sweep and
the two ticks of the worker read it before they do anything. `complete_purchase`
does not: it goes by the status of its saga alone. So a call that is made after the
trip moves no money exactly as long as no completion finds a saga that is waiting
for its authorization.
-/

set_option autoImplicit false

namespace Actl

open Foundation (Step)
open Foundation.System (Admissible Guarded initial run_disciplined run_invariant getElem?_set_cases
  getElem?_append_cases)

/-- The step posts nothing, changes the status of no order, and asks the provider
for neither an order nor a capture. -/
structure MovesNothing (P : Platform) (s : Step Action Input World) : Prop where
  ledger : (execute P s.action s.input s.before).2.db.ledgerEntries = s.before.db.ledgerEntries
  orders : ∀ orderId, ((execute P s.action s.input s.before).2.db.getOrder orderId).map
    OrderRecord.status = (s.before.db.getOrder orderId).map OrderRecord.status
  createOrder : ∀ args, s.action ≠ .createOrder args
  capturePayment : ∀ paymentId amountMinor, s.action ≠ .capturePayment paymentId amountMinor

/-- The actions of a call that has not got past the halt. -/
def Action.Harmless : Action → Prop
  | .attemptG1ThroughG5 .. | .claimOrder _ | .createOrder _ | .recordOrderCreationFailed ..
  | .recordProviderOrder .. | .releaseReservation _ | .capturePayment .. | .recordPaymentFailed ..
  | .recordPaymentCaptured .. | .settle .. | .refundPayment .. | .reverseSettlement ..
  | .voidOrder .. | .finalizeSaga .. => False
  | _ => True

section Steps

variable {P : Platform} {w : World}

/-- A transaction that begins with the check of the halt. -/
theorem command_of_halted (halted : w.db.integrity.halted = true) (dbError : Bool)
    {body : Database → Except Failure Database}
    (checks : ∀ db, body w.db = .ok db → w.db.raiseIfHalted = .ok ()) :
    (w.command dbError body).2 = w := by
  rcases w.command_cases dbError body with ⟨failure, done, -⟩ | ⟨db, -, ran, -⟩
  · rw [done]
  · rw [Database.raiseIfHalted_eq_ok.mp (checks db ran)] at halted
    cases halted

/-- A tick in a halted store does nothing. -/
theorem tick_of_halted (halted : w.db.integrity.halted = true) (input : Input) {action : Action}
    (tick : action = .processUnprocessedWebhooks ∨ action = .reconcileNonTerminalOrders ∨
      action = .sweep) :
    (execute P action input w).2 = w := by
  rcases tick with rfl | rfl | rfl
  · refine command_of_halted halted input.dbError fun db done => ?_
    obtain ⟨_, passed, -⟩ := Foundation.bind_eq_ok.mp done
    exact passed
  · refine command_of_halted halted input.dbError fun db done => ?_
    obtain ⟨_, passed, -⟩ := Foundation.bind_eq_ok.mp done
    exact passed
  · refine command_of_halted halted input.dbError fun db done => ?_
    cases swept : Ledger.sweep P input.now input.ids P.settings.reservationTtlS w.db with
    | error failure =>
        rw [swept] at done
        cases done
    | ok pair =>
        obtain ⟨_, passed, -⟩ := Foundation.bind_eq_ok.mp swept
        exact passed

theorem movesNothing_of_harmless (halted : w.db.integrity.halted = true) {action : Action}
    (input : Input) (harmless : action.Harmless) : MovesNothing P ⟨action, input, w⟩ := by
  have silent : (∀ args, action ≠ .createOrder args) ∧
      ∀ paymentId amountMinor, action ≠ .capturePayment paymentId amountMinor :=
    ⟨by rintro args rfl; exact harmless, by rintro paymentId amountMinor rfl; exact harmless⟩
  by_cases tick : action = .processUnprocessedWebhooks ∨ action = .reconcileNonTerminalOrders ∨
      action = .sweep
  · have still : (execute P action input w).2 = w := tick_of_halted halted input tick
    exact ⟨by rw [still], fun orderId => by rw [still], silent.1, silent.2⟩
  · have spared : Part.orders ∈ action.spares ∧ Part.ledger ∈ action.spares := by
      rw [Action.mem_spares, Action.mem_spares]
      cases action <;> simp_all [Action.writes, Action.Harmless]
    have frame := execute_frame P action input w
    refine ⟨frame.ledger spared.2, fun orderId => ?_, silent.1, silent.2⟩
    rw [Database.getOrder, frame.orders spared.1, ← Database.getOrder]

/-- A verification that finds a break has tripped the halt when it returns. -/
theorem verification_trips {tables : Audit.AuditTables} {fromSeq toSeq : Int} {input : Input}
    {result : Audit.ChainVerificationResult}
    (answered : (execute P (.verifyChainAndHaltOnFailure tables fromSeq toSeq) input w).1 =
      .ok result) (broken : result.ok = false) :
    (execute P (.verifyChainAndHaltOnFailure tables fromSeq toSeq) input w).2.db.integrity.halted =
      true := by
  simp only [execute] at answered ⊢
  rcases w.transaction_cases input.dbError
    (Audit.verifyChainAndHaltOnFailure P tables fromSeq toSeq (input.now 0 0)) with
    ⟨failure, done, -⟩ | ⟨value, db, -, ran, done⟩
  · rw [done] at answered
    cases answered
  · rw [done] at answered ⊢
    cases answered
    rcases verifyChainAndHaltOnFailure_ok ran with ⟨intact, -⟩ | ⟨-, reason, trippedSeq, rfl⟩
    · rw [broken] at intact
      cases intact
    · exact Database.tripIntegrity_halted ..

end Steps

/-! ## The invariant -/

/-- The saga has an order and waits for its authorization. -/
def SagaRecord.Awaits (saga : SagaRecord) : Prop :=
  saga.status = .awaitingAuthorization ∧ saga.orderId ≠ none

instance (saga : SagaRecord) : Decidable saga.Awaits := inferInstanceAs (Decidable (_ ∧ _))

/-- A call that was made after the trip: it has met the halt at every step and has
not found a saga to complete. -/
structure Stopped (P : Platform) (past : Past) : Prop where
  halted : ∀ s ∈ past, s.before.db.integrity.halted = true
  harmless : ∀ s ∈ past, s.action.Harmless
  resting : ∀ sagaId saga, Did P past (.getSaga sagaId) (some saga) → ¬ saga.Awaits

/-- A completion that was started as the call at `started` or later does not find its
saga waiting for the authorization. -/
def FindsNoneAwaiting (P : Platform) (started : Nat) (c : (application P).Config) (index : Nat)
    (_ : (application P).Running) (action : Action) (_ : Input) : Prop :=
  started ≤ index → ∀ sagaId, action = .getSaga sagaId →
    ∀ saga, c.state.db.getSaga sagaId = some saga → ¬ saga.Awaits

namespace Stopped

variable {P : Platform} {past : Past} {call : Call}

theorem initial (P : Platform) : Stopped P [] where
  halted _ member := nomatch member
  harmless _ member := nomatch member
  resting _ _ did := by
    obtain ⟨_, member, _⟩ := did
    cases member

theorem not_running (stopped : Stopped P past) {haltState : HaltState}
    (read : Did P past .getHaltState haltState) : haltState.halted = true := by
  obtain ⟨s, member, same, answered⟩ := read
  have halted := stopped.halted s member
  simp only [execute] at answered
  rcases s.before.query_cases s.input.dbError (fun db => .ok db.integrity.toHaltState) with
    ⟨done, -⟩ | ⟨done, -⟩
  · rw [done] at answered
    cases answered
  · rw [done] at answered
    cases answered
    exact halted

theorem not_passed (stopped : Stopped P past) (req : Gate.MoneyActionRequest) :
    ¬ PassedGate P past req := by
  rintro ⟨s, member, same, -⟩
  have harmless := stopped.harmless s member
  rw [same] at harmless
  exact harmless

theorem not_owns (stopped : Stopped P past) (args : Payments.OrderArgs) : ¬ Owns P args past := by
  intro owns
  obtain ⟨s, member, same, -⟩ := owns.won
  have harmless := stopped.harmless s member
  rw [same] at harmless
  exact harmless

theorem not_completes (stopped : Stopped P past) {args : CompleteArgs} {saga : SagaRecord}
    {orderId : String} : ¬ Completes P call past args saga orderId := by
  intro completes
  exact stopped.resting _ _ completes.read ⟨completes.awaiting, by simp [completes.order]⟩

/-- What a stopped call may issue is harmless. -/
theorem permits (stopped : Stopped P past) (gated : call.Gated) {action : Action}
    (permitted : May P call past action) : action.Harmless := by
  cases action with
  | attemptG1ThroughG5 req key =>
      obtain ⟨-, -, -, haltState, read, running⟩ := permitted
      rw [stopped.not_running read] at running
      cases running
  | claimOrder args =>
      rcases permitted with direct | ⟨req, orderId, -, -, -, passed⟩
      · exact gated args direct
      · exact stopped.not_passed req passed
  | createOrder args => exact stopped.not_owns args permitted.1
  | recordOrderCreationFailed args message => exact stopped.not_owns args permitted
  | recordProviderOrder args providerOrderId => exact stopped.not_owns args permitted.1
  | releaseReservation c =>
      obtain ⟨req, reason, -, passed, -⟩ := permitted
      exact stopped.not_passed req passed
  | capturePayment paymentId amountMinor =>
      obtain ⟨args, saga, orderId, completes, -⟩ := permitted
      exact stopped.not_completes completes
  | recordPaymentFailed orderId declineReason reason signature actorId traceId =>
      obtain ⟨args, saga, completes⟩ := permitted
      exact stopped.not_completes completes
  | recordPaymentCaptured orderId paymentId signature actorId traceId =>
      obtain ⟨args, saga, amountMinor, completes, -⟩ := permitted
      exact stopped.not_completes completes
  | settle saga orderId paymentId actorId traceId =>
      obtain ⟨args, signature, actorId, traceId, completes, -⟩ := permitted
      exact stopped.not_completes completes
  | refundPayment paymentId amountMinor idempotencyKey =>
      obtain ⟨args, saga, orderId, actorId, traceId, completes, -⟩ := permitted
      exact stopped.not_completes completes
  | reverseSettlement c orderId =>
      obtain ⟨args, saga, reason, actorId, traceId, amountMinor, key, completes, -⟩ := permitted
      exact stopped.not_completes completes
  | voidOrder c orderId =>
      obtain ⟨args, saga, reason, completes, -⟩ := permitted
      exact stopped.not_completes completes
  | finalizeSaga sagaId step status =>
      obtain ⟨args, saga, orderId, reason, completes, -⟩ := permitted
      exact stopped.not_completes completes
  | _ => trivial

/-- A stopped call takes its next step. -/
theorem stepped (stopped : Stopped P past) (gated : call.Gated) {action : Action} {input : Input}
    {w : World} (halted : w.db.integrity.halted = true) (permitted : May P call past action)
    (resting : ∀ sagaId, action = .getSaga sagaId → ∀ saga, w.db.getSaga sagaId = some saga →
      ¬ saga.Awaits) :
    Stopped P (⟨action, input, w⟩ :: past) where
  halted s member := by
    rcases List.mem_cons.mp member with rfl | earlier
    · exact halted
    · exact stopped.halted s earlier
  harmless s member := by
    rcases List.mem_cons.mp member with rfl | earlier
    · exact stopped.permits gated permitted
    · exact stopped.harmless s earlier
  resting sagaId saga did := by
    obtain ⟨s, member, answered⟩ := did
    rcases List.mem_cons.mp member with rfl | earlier
    · obtain ⟨rfl, read⟩ := answered
      simp only [execute] at read
      rcases w.query_cases input.dbError (fun db => .ok (db.getSaga sagaId)) with
        ⟨done, -⟩ | ⟨done, -⟩
      · rw [done] at read
        cases read
      · rw [done] at read
        exact resting sagaId rfl saga (Except.ok.inj read)
    · exact stopped.resting sagaId saga ⟨s, earlier, answered⟩

theorem movesNothing (stopped : Stopped P past) {s : Step Action Input World} (member : s ∈ past) :
    MovesNothing P s :=
  movesNothing_of_harmless (stopped.halted s member) s.input (stopped.harmless s member)

end Stopped

/-! ## Runs -/

/-- No event changes the row of a tripped halt. -/
theorem halt_kept {P : Platform} (c : (application P).Config) (e : (application P).Event)
    (halted : c.state.db.integrity.halted = true) :
    (c.apply e).state.db.integrity = c.state.db.integrity := by
  cases e with
  | start call => rfl
  | crash index => rw [(c.journal_crash index).1]
  | step index input =>
      rcases c.apply_step_cases index input with same | ⟨r, action, next, -, after⟩
      · rw [same]
      · rw [after]
        exact (execute_grows P action input c.state).halt halted

/-- The invariant from the trip on: the row of the halt stays as it is, and every
gated call made since is stopped. -/
structure Halting (P : Platform) (row : IntegrityHaltRow) (started : Nat)
    (c : (application P).Config) : Prop where
  disciplined : c.Disciplined (May P) (Ends P)
  row : c.state.db.integrity = row
  made : started ≤ c.calls.length
  stopped : ∀ (i : Nat) call past, started ≤ i → c.journal[i]? = some (call, past) → call.Gated →
    Stopped P past

theorem Halting.apply {P : Platform} {row : IntegrityHaltRow} {started : Nat}
    {c : (application P).Config} (halting : Halting P row started c) (halted : row.halted = true)
    (e : (application P).Event) (allowed : Guarded (FindsNoneAwaiting P started) c e) :
    Halting P row started (c.apply e) := by
  have here : c.state.db.integrity.halted = true := by rw [halting.row, halted]
  have made : started ≤ (c.apply e).calls.length := by
    have calls := congrArg List.length (c.apply_calls e)
    simp only [List.length_map, List.length_append] at calls
    have := halting.made
    omega
  refine ⟨halting.disciplined.apply (code_obeys P) e, ?_, made, fun i call past later found gated => ?_⟩
  · exact (halt_kept c e here).trans halting.row
  · rcases halting.disciplined.journal_cases allowed with ⟨-, journal⟩ | ⟨call', -, journal⟩ |
      ⟨index, r, action, input, mine, permitted, resting, -, journal⟩
    · rw [journal] at found
      exact halting.stopped i call past later found gated
    · rw [journal] at found
      rcases getElem?_append_cases found with old | same
      · exact halting.stopped i call past later old gated
      · cases same
        exact Stopped.initial P
    · rw [journal] at found
      rcases getElem?_set_cases found with ⟨rfl, same⟩ | ⟨-, old⟩
      · cases same
        exact (halting.stopped i _ _ later mine gated).stepped gated here permitted (resting later)
      · exact halting.stopped i call past later old gated

/-- Once the halt is tripped its row is never changed again, by a later trip or by
any call. And in every run in which no completion that is started after the trip
finds its saga with an order and waiting for the authorization: no step of a call
that is started after the trip posts anything, changes the status of an order or
asks the provider for an order or a capture. -/
theorem integrity_halt_stops_money (P : Platform) (w : World)
    (before after : List (application P).Event)
    (tripped : ((initial w : (application P).Config).run before).state.db.integrity.halted = true) :
    let trip : (application P).Config := (initial w).run before
    let c := trip.run after
    c.state.db.integrity = trip.state.db.integrity ∧
      (∀ reason trippedSeq now, (c.state.db.tripIntegrity reason trippedSeq now).integrity =
        trip.state.db.integrity) ∧
      (Admissible (Guarded (FindsNoneAwaiting P trip.calls.length)) trip after →
        ∀ (i : Nat) r, trip.calls.length ≤ i → c.calls[i]? = some r → r.call.Gated →
          ∀ s ∈ r.history, MovesNothing P s) := by
  intro trip c
  have disciplined : trip.Disciplined (May P) (Ends P) := run_disciplined (code_obeys P) w before
  have frozen : c.state.db.integrity = trip.state.db.integrity := by
    have free : Admissible (fun _ _ => True) trip after :=
      Foundation.System.admissible_of_forall (fun _ _ => trivial) trip after
    refine run_invariant (S := application P)
      (fun c => c.state.db.integrity = trip.state.db.integrity)
      (fun c e same _ => ?_) rfl free
    exact (halt_kept c e (by rw [same, tripped])).trans same
  refine ⟨frozen, fun reason trippedSeq now => ?_, fun allowed i r later found gated s member => ?_⟩
  · rw [Database.tripIntegrity_of_halted (by rw [frozen, tripped]), frozen]
  · have halting : Halting P trip.state.db.integrity trip.calls.length c := by
      refine run_invariant _ (fun c e halting allowed => halting.apply tripped e allowed)
        ⟨disciplined, rfl, Nat.le_refl _, fun i call past later found => ?_⟩ allowed
      rw [List.getElem?_eq_none (by simpa [Foundation.System.Config.journal] using later)] at found
      cases found
    exact (halting.stopped i r.call r.history later
      (Foundation.System.Config.getElem?_journal found) gated).movesNothing member

namespace Fixture

/-- The completion of the first purchase. -/
def completion : CompleteArgs where
  sagaId := request.key platform
  providerOrderId := "order_1"
  providerPaymentId := "pay_1"
  providerSignature := "40f286445c15d34de201ce14fd13cb570ebd13eb8236590fabc98b1401c1aa57"
  actorId := "web_buyer"
  traceId := "trc_2"

/-- A purchase waits for its authorization when the verifier finds that the rows of
the log are gone. -/
def tripped : List Event :=
  .start (.beginPurchase request "ord_1") :: List.replicate 8 (.step 0 input) ++
    [.start (.verifyChainAndHaltOnFailure .empty 2 2), .step 1 input]

/-- Everyone but the completion of the purchase is asked for money. -/
def askedForMoney : List Event :=
  [.start (.executeMoneyAction request "ord_2"), .step 2 input, .start .sweep, .step 3 input,
    .start .processUnprocessedWebhooks, .step 4 input, .start .reconcileNonTerminalOrders,
    .step 5 input, .start (.completePurchase { completion with sagaId := "saga_0" }),
    .step 6 input]

/-- A check that is enough for completions of a saga there is not. -/
def checkAwaiting (started : Nat) (c : (application platform).Config) : Event → Bool
  | .step index _ =>
      match c.next? index with
      | some (.getSaga sagaId) => index < started || (c.state.db.getSaga sagaId).isNone
      | _ => true
  | _ => true

theorem findsNoneAwaiting_of_check (started : Nat) (c : (application platform).Config) (e : Event)
    (checked : checkAwaiting started c e = true) :
    Guarded (FindsNoneAwaiting platform started) c e := by
  cases e with
  | start call => trivial
  | crash index => trivial
  | step index input =>
      rintro r action next issues later sagaId rfl saga found
      simp only [checkAwaiting, issues.next?, Bool.or_eq_true, decide_eq_true_eq] at checked
      rcases checked with before | missing
      · omega
      · rw [found] at missing
        cases missing

/-- The trip holds, and none of them moves anything. -/
theorem tripped_moves_nothing :
    (reached decided (tripped ++ askedForMoney)).state.db.integrity =
        ⟨⟨true, some "cannot verify from seq=2: seq=1 is missing", some start⟩, some 1⟩ ∧
      ∀ (i : Nat) r, 2 ≤ i → (reached decided (tripped ++ askedForMoney)).calls[i]? = some r →
        r.call.Gated → ∀ s ∈ r.history, MovesNothing platform s := by
  have run : (reached decided tripped).state.db.integrity =
        ⟨⟨true, some "cannot verify from seq=2: seq=1 is missing", some start⟩, some 1⟩ ∧
      (reached decided tripped).calls.length = 2 ∧
      Foundation.System.checkRun (checkAwaiting 2) (reached decided tripped) askedForMoney = true := by
    decide +kernel
  have allowed := Foundation.System.admissible_of_checkRun (findsNoneAwaiting_of_check 2) run.2.2
  rw [reached] at run allowed ⊢
  obtain ⟨row, made, -⟩ := run
  obtain ⟨kept, -, still⟩ := integrity_halt_stops_money platform (world decided) tripped
    askedForMoney (by rw [row])
  rw [made] at still
  rw [Foundation.System.Config.run_append]
  exact ⟨kept.trans row, still allowed⟩

/-- The completion of the purchase is asked for after the trip. -/
def completed : List Event :=
  .start (.completePurchase completion) :: List.replicate 6 (.step 2 input)

/-- The completion captures, posts to the ledger and writes the order CAPTURED. -/
theorem halted_purchase_charged :
    (reached decided tripped).state.db.integrity.halted = true ∧
      (reached decided (tripped ++ completed)).state.provider.captured = ["pay_1"] ∧
      ¬ ∀ (i : Nat) r, (reached decided tripped).calls.length ≤ i →
        (reached decided (tripped ++ completed)).calls[i]? = some r → r.call.Gated →
          ∀ s ∈ r.history, MovesNothing platform s := by
  have run : (reached decided tripped).state.db.integrity.halted = true ∧
      (reached decided tripped).calls.length = 2 ∧
      (reached decided (tripped ++ completed)).state.provider.captured = ["pay_1"] ∧
      (reached decided (tripped ++ completed)).calls[2]?.map (fun r => r.history.any fun s =>
        match s.action with
        | .capturePayment .. => true
        | _ => false) = some true := by
    decide +kernel
  refine ⟨run.1, run.2.2.1, fun still => ?_⟩
  obtain ⟨r, found, charges⟩ := Option.map_eq_some_iff.mp run.2.2.2
  have call : r.call = .completePurchase completion := by
    have started := reached_call decided (tripped ++ completed) 2
    rw [found] at started
    exact Option.some.inj started
  obtain ⟨s, member, captures⟩ := List.any_eq_true.mp charges
  have moves := still 2 r (by rw [run.2.1]) found
    (fun args direct => by rw [call] at direct; cases direct) s member
  split at captures
  · rename_i paymentId amountMinor same
    exact moves.capturePayment paymentId amountMinor same
  · cases captures

end Fixture

end Actl
