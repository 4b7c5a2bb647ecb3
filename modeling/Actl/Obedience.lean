import Actl.Discipline

/-!
# The programs obey their discipline

Every entry point issues only what `May` permits and ends only as `Ends` permits
(`code_obeys`). Each program has one lemma here, and each is put together from
the lemmas of the programs it calls.
-/

set_option autoImplicit false

namespace Actl

open Foundation (Step Code System)
open Foundation.Code (ObeysCode obeys_pure obeys_throw obeys_perform obeys_bind obeys_tryCatch
  obeys_outcome obeys_mono)
open Payments (OrderArgs)
open Gate (MoneyActionRequest MoneyActionResult Compensation)

/-! ## Issuing and retrying -/

section Obey

variable {P : Platform} {may : Past → Action → Prop} {history : Past}

theorem obeys_issue {action : Action} {returns : Value action → Past → Prop}
    {raises : Failure → Past → Prop} (permitted : may history action)
    (answers : ∀ s : Step Action Input World, ∀ value, Answered P s action value →
      returns value (s :: history))
    (fails : ∀ s : Step Action Input World, ∀ failure, Raised P s action failure →
      raises failure (s :: history)) :
    ObeysCode (execute P) may returns raises history (issue action) := by
  refine obeys_perform permitted fun input before => ?_
  cases result : (execute P action input before).1 with
  | ok value => exact answers ⟨action, input, before⟩ value ⟨rfl, result⟩
  | error failure => exact fails ⟨action, input, before⟩ failure ⟨rfl, result⟩

/-- Retrying: what one attempt obeys from wherever an attempt can start, the
retries obey. -/
theorem obeys_retry {α : Type} (starts : Past → Prop) {returns : α → Past → Prop}
    {raises : Failure → Past → Prop} {maxAttempts : Nat} {retryOn : Failure → Bool}
    {body : Prog α}
    (attempt : ∀ past, starts past → ObeysCode (execute P) may returns
      (fun failure later => if retryOn failure then
        starts later ∧ ∀ message, raises (.retryExhausted message) later
        else raises failure later) past body)
    (unused : maxAttempts = 0 → raises .valueError history) (start : starts history) :
    ObeysCode (execute P) may returns raises history
      (retryWithFullJitter maxAttempts retryOn body) := by
  have remaining : ∀ n past, starts past → ObeysCode (execute P) may returns raises past
      (retryRemaining maxAttempts retryOn body (n + 1)) := by
    intro n
    induction n with
    | zero =>
        intro past begun
        refine obeys_tryCatch _ (attempt past begun) fun failure later _ raised => ?_
        split at raised
        · rename_i retried
          simp only [retried, if_true]
          exact obeys_throw (raised.2 _)
        · rename_i final
          simp only [final, Bool.false_eq_true, if_false]
          exact obeys_throw raised
    | succ n ih =>
        intro past begun
        refine obeys_tryCatch _ (attempt past begun) fun failure later _ raised => ?_
        split at raised
        · rename_i retried
          simp only [retried, if_true]
          exact ih later raised.1
        · rename_i final
          simp only [final, Bool.false_eq_true, if_false]
          exact obeys_throw raised
  unfold retryWithFullJitter
  cases maxAttempts with
  | zero => exact obeys_throw (unused rfl)
  | succ n => exact remaining n history start

/-- What holds however the history goes on holds at the end as well. -/
theorem obeys_along {α : Type} (kept : Past → Prop) {returns : α → Past → Prop}
    {raises : Failure → Past → Prop} {body : Prog α}
    (obeys : ObeysCode (execute P) may returns raises history body)
    (lasts : ∀ later, history <:+ later → kept later) :
    ObeysCode (execute P) may (fun value past => kept past ∧ returns value past)
      (fun failure past => kept past ∧ raises failure past) history body := by
  refine Foundation.Obeys.mono obeys.extends fun outcome past holds => ?_
  cases outcome with
  | ok value => exact ⟨lasts past holds.1, holds.2⟩
  | error failure => exact ⟨lasts past holds.1, holds.2⟩

/-- The exceptions that are not about a key in another attempt's hands. -/
def Failure.isForeign : Failure → Bool
  | .idempotentAttemptFailed | .idempotencyInFlightTimeout => false
  | _ => true

theorem external_foreign {α : Type} {w : World} {input : Input} {value : α}
    {effect : Provider → Provider} {failure : Failure}
    (raised : (w.external input value effect).1 = .error failure) : failure.isForeign = true := by
  unfold World.external at raised
  split at raised
  · cases raised
  · rename_i error answer
    cases raised
    cases error <;> rfl

end Obey

/-! ## Order creation -/

section CreateOrder

variable {P : Platform} {call : Call} {history : Past} {key : String}

/-- How waiting for another attempt may raise. -/
def AwaitRaises (P : Platform) (key : String) (failure : Failure) (past : Past) : Prop :=
  failure.isForeign = false → Latest past (Waits P · key)

theorem poll_failure {s : Step Action Input World} {failure : Failure}
    (raised : Raised P s (.pollIdempotencyKey key) failure) :
    failure.isForeign = false → failure = .idempotentAttemptFailed := by
  obtain ⟨-, result⟩ := raised
  simp only [execute] at result
  rcases s.before.query_cases s.input.dbError (Payments.pollIdempotencyKey · key) with
    ⟨done, -⟩ | ⟨done, -⟩
  · rw [done] at result
    cases result
    exact fun foreign => by cases foreign
  · rw [done] at result
    unfold Payments.pollIdempotencyKey at result
    split at result
    · cases result
    · split at result
      · cases result
      · cases result
        exact fun _ => rfl
      · cases result

theorem lookup_failure {s : Step Action Input World} {failure : Failure}
    (raised : Raised P s (.lookupIdempotencyKey key) failure) :
    failure.isForeign = false → failure = .idempotentAttemptFailed := by
  obtain ⟨-, result⟩ := raised
  simp only [execute] at result
  rcases s.before.query_cases s.input.dbError (Payments.lookupIdempotencyKey · key) with
    ⟨done, -⟩ | ⟨done, -⟩
  · rw [done] at result
    cases result
    exact fun foreign => by cases foreign
  · rw [done] at result
    unfold Payments.lookupIdempotencyKey at result
    split at result
    · cases result
    · split at result
      · split at result
        · cases result
        · cases result
          exact fun foreign => by cases foreign
      · cases result
        exact fun _ => rfl
      · cases result

theorem awaitPolls_obeys (n : Nat)
    (waiting : n = 0 → Latest history (Waits P · key)) :
    ObeysCode (execute P) (May P call)
      (fun order past => Latest past (Reports P · key order)) (AwaitRaises P key) history
      (awaitPolls key n) := by
  induction n generalizing history with
  | zero => exact obeys_throw fun _ => waiting rfl
  | succ n ih =>
      refine obeys_bind (fun found past => found.elim (Latest past (Waits P · key))
        fun order => Latest past (Reports P · key order)) ?_ ?_
      · refine obeys_issue trivial (fun s found answered => ?_) (fun s failure raised => ?_)
        · cases found with
          | some order => exact latest_cons (.inr (.inl answered))
          | none => exact latest_cons (.inr (.inr answered))
        · intro foreign
          exact latest_cons (.inr (.inl (poll_failure raised foreign ▸ raised)))
      · intro found past _ learned
        cases found with
        | some order => exact obeys_pure learned
        | none => exact ih fun _ => learned

theorem awaitInFlightCompletion_obeys :
    ObeysCode (execute P) (May P call)
      (fun order past => Latest past (Reports P · key order)) (AwaitRaises P key) history
      (awaitInFlightCompletion key) :=
  awaitPolls_obeys 40 (by simp)

theorem not_finishes_of_action {args : OrderArgs} {s : Step Action Input World}
    (failed : ∀ message, s.action ≠ .recordOrderCreationFailed args message)
    (recorded : ∀ providerOrderId, s.action ≠ .recordProviderOrder args providerOrderId) :
    ¬ Finishes P args s := by
  rintro (⟨message, same, -⟩ | ⟨providerOrderId, order, same, -⟩)
  · exact failed message same
  · exact recorded providerOrderId same

theorem transaction_foreign {α : Type} {w : World} {dbError : Bool}
    {body : Database → Except Failure (α × Database)} {failure : Failure}
    (raised : (w.transaction dbError body).1 = .error failure)
    (inner : ∀ failure, body w.db = .error failure → failure.isForeign = true) :
    failure.isForeign = true := by
  rcases w.transaction_cases dbError body with ⟨f, done, why⟩ | ⟨value, db, -, -, done⟩
  · rw [done] at raised
    cases raised
    rcases why with ⟨-, rfl⟩ | raisedInside
    · rfl
    · exact inner _ raisedInside
  · rw [done] at raised
    cases raised

theorem command_foreign {w : World} {dbError : Bool} {body : Database → Except Failure Database}
    {failure : Failure} (raised : (w.command dbError body).1 = .error failure)
    (inner : ∀ failure, body w.db = .error failure → failure.isForeign = true) :
    failure.isForeign = true := by
  rcases w.command_cases dbError body with ⟨f, done, why⟩ | ⟨db, -, -, done⟩
  · rw [done] at raised
    cases raised
    rcases why with ⟨-, rfl⟩ | raisedInside
    · rfl
    · exact inner _ raisedInside
  · rw [done] at raised
    cases raised

theorem transitionStatus_error {db : Database} {orderId : String} {status : OrderStatus}
    {paymentId reason : Option String} {failure : Failure}
    (raised : db.transitionStatus orderId status paymentId reason = .error failure) :
    failure = .keyError := by
  unfold Database.transitionStatus at raised
  split at raised <;> cases raised
  rfl

theorem completeIdempotencyKey_error {db : Database} {state : KeyState} {failure : Failure}
    (raised : db.completeIdempotencyKey key state = .error failure) : failure = .keyError := by
  unfold Database.completeIdempotencyKey at raised
  split at raised <;> cases raised
  rfl

theorem claim_foreign {s : Step Action Input World} {args : OrderArgs} {failure : Failure}
    (raised : Raised P s (.claimOrder args) failure) : failure.isForeign = true := by
  refine transaction_foreign raised.2 fun failure inside => ?_
  unfold Payments.claimOrder at inside
  dsimp only at inside
  split at inside
  · cases inside
  · rename_i db claimed
    unfold Database.addOrder at inside
    split at inside
    · split at inside <;> cases inside
      rfl
    · cases inside
      rfl

theorem recordFailed_foreign {s : Step Action Input World} {args : OrderArgs} {message : String}
    {failure : Failure} (raised : Raised P s (.recordOrderCreationFailed args message) failure) :
    failure.isForeign = true := by
  refine command_foreign raised.2 fun failure inside => ?_
  unfold Payments.recordOrderCreationFailed at inside
  cases first : s.before.db.transitionStatus args.orderId .failed none
      (some (Payments.truncated message)) with
  | error failure' =>
      rw [first] at inside
      cases inside
      rw [transitionStatus_error first]
      rfl
  | ok db =>
      rw [first] at inside
      cases second : db.completeIdempotencyKey (args.key P) .failed with
      | error failure' =>
          simp only [Foundation.ok_bind, second] at inside
          cases inside
          rw [completeIdempotencyKey_error second]
          rfl
      | ok db' =>
          simp only [Foundation.ok_bind, second] at inside
          cases inside

theorem recordProviderOrder_foreign {s : Step Action Input World} {args : OrderArgs}
    {providerOrderId : String} {failure : Failure}
    (raised : Raised P s (.recordProviderOrder args providerOrderId) failure) :
    failure.isForeign = true := by
  refine transaction_foreign raised.2 fun failure inside => ?_
  unfold Payments.recordProviderOrder at inside
  cases first : s.before.db.setProviderOrderId args.orderId providerOrderId with
  | error failure' =>
      rw [first] at inside
      cases inside
      unfold Database.setProviderOrderId at first
      split at first <;> cases first
      rfl
  | ok db =>
      rw [first] at inside
      cases second : db.completeIdempotencyKey (args.key P) .completed with
      | error failure' =>
          simp only [Foundation.ok_bind, second] at inside
          cases inside
          rw [completeIdempotencyKey_error second]
          rfl
      | ok db' =>
          simp only [Foundation.ok_bind, second] at inside
          split at inside <;> cases inside
          rfl

theorem Owns.step {args : OrderArgs} {past : Past} {s : Step Action Input World}
    (owns : Owns P args past) (unfinished : ¬ Finishes P args s) : Owns P args (s :: past) :=
  .inr ⟨owns, unfinished⟩

theorem isTransientProviderError_iff {failure : Failure} :
    failure.isTransientProviderError = true ↔
      ∃ message, failure = .transientProviderError message := by
  cases failure <;> simp [Failure.isTransientProviderError]

/-- The owner's calls of the provider: the first follows the claim, each further
one a transient error. -/
theorem createOrder_obeys {args : OrderArgs} (owns : Owns P args history)
    (claimed : Latest history (Answered P · (.claimOrder args) true)) :
    ObeysCode (execute P) (May P call)
      (fun providerOrderId past => Owns P args past ∧
        Latest past (Answered P · (.createOrder args) providerOrderId))
      (fun failure past => Owns P args past ∧ failure.isForeign = true) history
      (callWithRetry P (.createOrder args)) := by
  have unfinished : ∀ s : Step Action Input World, s.action = .createOrder args →
      ¬ Finishes P args s := fun s same =>
    not_finishes_of_action (fun _ other => by rw [same] at other; cases other)
      (fun _ other => by rw [same] at other; cases other)
  obtain ⟨s₀, earlier, same, won⟩ := claimed
  refine obeys_retry (fun past => May P call past (.createOrder args))
    (fun past begun => ?_) (fun _ => ⟨owns, rfl⟩) ⟨owns, s₀, earlier, same, .inl won⟩
  refine obeys_issue begun (fun s providerOrderId answered => ?_) (fun s failure raised => ?_)
  · exact ⟨begun.1.step (unfinished s answered.1), latest_cons answered⟩
  · have still := begun.1.step (unfinished s raised.1)
    split
    · rename_i transient
      obtain ⟨message, rfl⟩ := isTransientProviderError_iff.mp transient
      exact ⟨⟨still, latest_cons (.inr ⟨message, raised⟩)⟩, fun _ => ⟨still, rfl⟩⟩
    · exact ⟨still, external_foreign raised.2⟩

theorem orderAtProvider_obeys {args : OrderArgs} (owns : Owns P args history)
    (claimed : Latest history (Answered P · (.claimOrder args) true)) :
    ObeysCode (execute P) (May P call)
      (fun order past => Latest past (Reports P · (args.key P) order))
      (AwaitRaises P (args.key P)) history (orderAtProvider P args) := by
  have vacuous : ∀ {failure : Failure} {past : Past}, failure.isForeign = true →
      AwaitRaises P (args.key P) failure past := by
    intro failure past foreign waited
    rw [foreign] at waited
    cases waited
  refine obeys_bind (fun providerOrderId past => Owns P args past ∧
    Latest past (Answered P · (.createOrder args) providerOrderId)) ?_ ?_
  · refine obeys_tryCatch _ (createOrder_obeys owns claimed) fun failure past _ raised => ?_
    split
    · refine obeys_bind (fun _ _ => True) ?_ fun _ later _ _ => ?_
      · exact obeys_issue raised.1 (fun _ _ _ => trivial)
          (fun _ _ failed => vacuous (recordFailed_foreign failed))
      · exact obeys_throw (vacuous raised.2)
    · exact obeys_throw (vacuous raised.2)
  · intro providerOrderId past _ created
    refine obeys_issue created (fun s order answered => ?_) (fun s failure raised => ?_)
    · exact latest_cons (.inr (.inr ⟨args, providerOrderId, rfl, answered⟩))
    · exact vacuous (recordProviderOrder_foreign raised)

theorem createProviderOrder_obeys {args : OrderArgs} (orders : Orders P history args call) :
    ObeysCode (execute P) (May P call)
      (fun result past => Latest past (Reports P · (args.key P) result.1))
      (AwaitRaises P (args.key P)) history (createProviderOrder P args) := by
  have waited : ∀ past, ObeysCode (execute P) (May P call)
      (fun result past => Latest past (Reports P · (args.key P) result.1))
      (AwaitRaises P (args.key P)) past
      (do let order ← awaitInFlightCompletion (args.key P)
          return (order, true)) := fun past =>
    obeys_bind _ awaitInFlightCompletion_obeys fun _ _ _ reported => obeys_pure reported
  refine obeys_bind (fun found past => ∀ order, found = .completed order →
    Latest past (Reports P · (args.key P) order)) ?_ ?_
  · refine obeys_issue trivial (fun s found answered => ?_) (fun s failure raised => ?_)
    · rintro order rfl
      exact latest_cons (.inl answered)
    · intro foreign
      exact latest_cons (.inl (lookup_failure raised foreign ▸ raised))
  · intro found past longer learned
    cases found with
    | completed order => exact obeys_pure (learned order rfl)
    | inFlight => exact waited past
    | absent =>
        refine obeys_bind (fun won past => won = true →
          Owns P args past ∧ Latest past (Answered P · (.claimOrder args) true)) ?_ ?_
        · refine obeys_issue (orders.mono longer) (fun s won answered => ?_)
            (fun s failure raised => ?_)
          · rintro rfl
            exact ⟨.inl answered, latest_cons answered⟩
          · intro foreign
            rw [claim_foreign raised] at foreign
            cases foreign
        · intro won past' _ owns
          cases won with
          | true =>
              exact obeys_bind _ (orderAtProvider_obeys (owns rfl).1 (owns rfl).2)
                fun _ _ _ reported => obeys_pure reported
          | false => exact waited past'

end CreateOrder

/-! ## The gate -/

section GateCalls

variable {P : Platform} {call : Call} {history : Past} {req : MoneyActionRequest}

theorem runG6G7Execute_obeys {orderId : String} (requests : Requests P history req call)
    (drawn : call.orderId? = some orderId) (passed : PassedGate P history req) :
    ObeysCode (execute P) (May P call) (fun result past => GateReturns P past req result)
      (fun _ past => GateRaises P past req) history (runG6G7Execute P req orderId) := by
  have key : (req.orderArgs orderId).key P = req.key P := rfl
  have released : ∀ (reason : String) (result : MoneyActionResult) (past : Past),
      history <:+ past → result.verdict = .deny →
      ObeysCode (execute P) (May P call) (fun result past => GateReturns P past req result)
        (fun _ past => GateRaises P past req) past
        (do issue (.releaseReservation (gateCompensation P req reason))
            return result) := by
    intro reason result past longer denies
    have passed' : PassedGate P past req := passed.mono longer
    have later : ∀ s : Step Action Input World, PassedGate P (s :: past) req := fun s =>
      passed'.mono (List.suffix_cons s past)
    refine obeys_bind (fun _ past => Latest past fun s =>
      Answered P s (.releaseReservation (gateCompensation P req reason)) ()) ?_ ?_
    · refine obeys_issue ⟨req, reason, requests.mono longer, passed', rfl⟩
        (fun s _ answered => latest_cons answered) (fun s failure raised => ?_)
      exact ⟨later s, latest_cons ⟨reason, failure, raised⟩⟩
    · intro _ past' longer' answered
      obtain ⟨s, earlier, same, holds⟩ := answered
      exact obeys_pure (.inr ⟨denies, s, earlier, same,
        .inr (.inr (.inr ⟨reason, holds, passed'.mono longer'⟩))⟩)
  refine obeys_bind (fun outcome past => match outcome with
    | .ok result => Latest past (Reports P · (req.key P) result.1)
    | .error failure => AwaitRaises P (req.key P) failure past) ?_ ?_
  · refine obeys_outcome (obeys_retry (fun past => history <:+ past) ?_ (by simp)
      (List.suffix_refl _))
    intro past longer
    have orders : Orders P past (req.orderArgs orderId) call :=
      .inr ⟨req, orderId, requests.mono longer, drawn, rfl, passed.mono longer⟩
    refine obeys_mono (obeys_along (fun later => history <:+ later)
      (createProviderOrder_obeys orders) fun later longer' => longer.trans longer')
      (fun result later holds => holds.2) (fun failure later holds => ?_)
    split
    · exact ⟨holds.1, fun message foreign => by cases foreign⟩
    · exact holds.2
  · intro outcome past longer ended
    cases outcome with
    | ok result =>
        exact obeys_pure (.inl ⟨rfl, passed.mono longer, result.1, ended, rfl, rfl⟩)
    | error failure =>
        cases failure with
        | idempotentAttemptFailed =>
            obtain ⟨s, earlier, same, waits⟩ := ended rfl
            exact obeys_pure (.inr ⟨rfl, s, earlier, same, .inr (.inr (.inl waits))⟩)
        | idempotencyInFlightTimeout =>
            obtain ⟨s, earlier, same, waits⟩ := ended rfl
            exact obeys_pure (.inr ⟨rfl, s, earlier, same, .inr (.inr (.inl waits))⟩)
        | _ => exact released _ _ past longer rfl

/-- A denial of the gates is one. -/
theorem attempt_denies {s : Step Action Input World} {key : String} {result : MoneyActionResult}
    (answered : Answered P s (.attemptG1ThroughG5 req key) (some result)) :
    result.verdict = .deny := by
  have done := answered.2
  simp only [execute] at done
  rcases s.before.transaction_cases s.input.dbError
    (Gate.attemptG1ThroughG5 P req key (s.input.now 0)) with ⟨f, ran, -⟩ | ⟨value, db, -, body, ran⟩
  · rw [ran] at done
    cases done
  · rw [ran] at done
    cases done
    rcases attemptG1ThroughG5_ok body with ⟨code, same, -⟩ | ⟨same, -⟩
    · cases same
      rfl
    · cases same

theorem executeMoneyAction_obeys {orderId : String} (requests : Requests P history req call)
    (drawn : call.orderId? = some orderId) :
    ObeysCode (execute P) (May P call) (fun result past => GateReturns P past req result)
      (fun _ past => GateRaises P past req) history (executeMoneyAction P req orderId) := by
  refine obeys_bind (fun outcome past => (Latest past fun s => s.action = .getHaltState) ∧
    ∀ haltState, outcome = .ok haltState → Did P past .getHaltState haltState) ?_ ?_
  · refine obeys_outcome (obeys_issue trivial (fun s _ answered => ⟨latest_cons answered.1, ?_⟩)
      (fun s _ raised => ⟨latest_cons raised.1, fun _ same => by cases same⟩))
    rintro _ ⟨⟩
    exact did_cons answered
  · rintro outcome past longer ⟨halt, read⟩
    have denied : ∀ code, GateReturns P past req (Gate.deny code req.traceId) := by
      intro code
      obtain ⟨s, earlier, same, holds⟩ := halt
      exact .inr ⟨rfl, s, earlier, same, .inl holds⟩
    cases outcome with
    | error failure => exact obeys_pure (denied _)
    | ok haltState =>
        dsimp only
        split
        · exact obeys_pure (denied _)
        rename_i running
        split
        · exact obeys_pure (denied _)
        rename_i malformed
        refine obeys_bind (fun outcome past => match outcome with
          | .ok none => PassedGate P past req
          | .ok (some result) => result.verdict = .deny ∧ Latest past fun s =>
              s.action = .attemptG1ThroughG5 req (req.key P) ∧
                ¬ Answered P s (.attemptG1ThroughG5 req (req.key P)) none
          | .error _ => Latest past fun s => s.action = .attemptG1ThroughG5 req (req.key P) ∧
              ¬ Answered P s (.attemptG1ThroughG5 req (req.key P)) none) ?_ ?_
        · refine obeys_outcome (obeys_retry (fun past => Requests P past req call ∧
            Did P past .getHaltState haltState) ?_ (by simp)
            ⟨requests.mono longer, read haltState rfl⟩)
          rintro past ⟨requests, read⟩
          refine obeys_issue ⟨rfl, requests, by simpa using malformed, haltState, read,
            by simpa using running⟩ (fun s result answered => ?_) (fun s failure raised => ?_)
          · cases result with
            | none => exact did_cons answered
            | some result =>
                refine ⟨attempt_denies answered, latest_cons ⟨answered.1, fun other => ?_⟩⟩
                cases answered.unique other
          · have here : Latest (s :: past) fun s =>
                s.action = .attemptG1ThroughG5 req (req.key P) ∧
                  ¬ Answered P s (.attemptG1ThroughG5 req (req.key P)) none :=
              latest_cons ⟨raised.1, raised.not_answered⟩
            split
            · exact ⟨⟨requests.mono (List.suffix_cons s past), read.mono (List.suffix_cons s past)⟩,
                fun _ => here⟩
            · exact here
        · intro outcome past' longer' ended
          cases outcome with
          | error failure =>
              obtain ⟨s, earlier, same, holds⟩ := ended
              exact obeys_pure (.inr ⟨rfl, s, earlier, same, .inr (.inl holds)⟩)
          | ok result =>
              cases result with
              | none => exact runG6G7Execute_obeys (requests.mono (longer.trans longer')) drawn ended
              | some result =>
                  obtain ⟨denies, s, earlier, same, holds⟩ := ended
                  exact obeys_pure (.inr ⟨denies, s, earlier, same, .inr (.inl holds)⟩)

theorem beginPurchase_obeys {orderId : String} (requests : Requests P history req call)
    (drawn : call.orderId? = some orderId) :
    ObeysCode (execute P) (May P call) (fun _ _ => True) (fun _ _ => True) history
      (beginPurchase P req orderId) := by
  refine obeys_bind (fun existing past => existing = none →
    Did P past (.openSaga req (req.key P)) none) ?_ ?_
  · refine obeys_issue ⟨rfl, requests⟩ (fun s existing answered => ?_) (fun _ _ _ => trivial)
    rintro rfl
    exact did_cons answered
  · intro existing past longer opened
    cases existing with
    | some existing => exact obeys_pure trivial
    | none =>
        have requests' := requests.mono longer
        refine obeys_bind _ (obeys_mono (executeMoneyAction_obeys requests' drawn)
          (fun _ _ returned => returned) (fun _ _ _ => trivial)) fun result past' longer' returned => ?_
        refine obeys_bind (fun _ _ => True) (obeys_issue ?_ (fun _ _ _ => trivial)
          (fun _ _ _ => trivial)) fun _ _ _ _ => obeys_pure trivial
        exact ⟨req, requests'.mono longer', rfl, (opened rfl).mono longer', returned⟩

end GateCalls

/-! ## Sagas -/

section SagaCalls

variable {P : Platform} {call : Call} {history : Past} {args : CompleteArgs} {saga : SagaRecord}
variable {orderId : String}

theorem voidPurchase_obeys (reason : String) (completes : Completes P call history args saga orderId) :
    ObeysCode (execute P) (May P call) (fun _ _ => True) (fun _ _ => True) history
      (voidPurchase args saga orderId reason) := by
  refine obeys_bind (fun _ past =>
    Latest past (Answered P · (.voidOrder (sagaCompensation args saga reason) orderId) ())) ?_ ?_
  · exact obeys_issue ⟨args, saga, reason, completes, rfl⟩
      (fun s _ answered => latest_cons answered) (fun _ _ _ => trivial)
  · intro _ past longer voided
    refine obeys_bind (fun _ _ => True) (obeys_issue ?_ (fun _ _ _ => trivial)
      (fun _ _ _ => trivial)) fun _ _ _ _ => obeys_pure trivial
    exact ⟨args, saga, orderId, reason, completes.mono longer, rfl, rfl, .inl voided⟩

theorem refundPurchase_obeys (completes : Completes P call history args saga orderId)
    {actorId traceId : String}
    (unsettled : Did P history (.settle saga orderId args.providerPaymentId actorId traceId) none) :
    ObeysCode (execute P) (May P call) (fun _ _ => True) (fun _ _ => True) history
      (refundPurchase P args saga orderId) := by
  refine obeys_bind (fun _ past => Latest past (Answered P ·
    (.refundPayment args.providerPaymentId saga.amountMinor ("ik_refund_" ++ args.sagaId)) ())) ?_ ?_
  · refine obeys_retry (fun past => history <:+ past) (fun past longer => ?_)
      (fun _ => trivial) (List.suffix_refl _)
    refine obeys_issue ⟨args, saga, orderId, actorId, traceId, completes.mono longer, rfl,
      unsettled.mono longer⟩ (fun s _ answered => latest_cons answered) (fun s failure _ => ?_)
    split
    · exact ⟨longer.trans (List.suffix_cons s past), fun _ => trivial⟩
    · trivial
  · intro _ past longer refunded
    refine obeys_bind (fun _ past => Latest past (Answered P · (.reverseSettlement
      (sagaCompensation args saga "ledger_capture_failed_after_provider_capture") orderId) ())) ?_ ?_
    · exact obeys_issue ⟨args, saga, _, actorId, traceId, _, _, completes.mono longer, rfl,
        unsettled.mono longer, refunded⟩ (fun s _ answered => latest_cons answered)
        (fun _ _ _ => trivial)
    · intro _ past' longer' reversed
      have further := longer.trans longer'
      refine obeys_bind (fun _ _ => True) (obeys_issue ?_ (fun _ _ _ => trivial)
        (fun _ _ _ => trivial)) fun _ _ _ _ => obeys_pure trivial
      exact ⟨args, saga, orderId, _, completes.mono further, rfl, rfl,
        .inr ⟨⟨actorId, traceId, unsettled.mono further⟩, reversed⟩⟩

/-- The call has captured the payment and recorded it on the order. -/
def Captured (P : Platform) (args : CompleteArgs) (orderId : String) (past : Past) : Prop :=
  P.verifyCheckoutSignature args.providerOrderId args.providerPaymentId args.providerSignature
      = true ∧
    ∃ signature actorId traceId, Latest past (Answered P ·
      (.recordPaymentCaptured orderId args.providerPaymentId signature actorId traceId) ())

theorem verifyAndCapture_obeys (completes : Completes P call history args saga orderId) :
    ObeysCode (execute P) (May P call) (fun _ past => Captured P args orderId past)
      (fun _ _ => True) history (verifyAndCapture P args saga orderId) := by
  unfold verifyAndCapture
  dsimp only
  split
  · rename_i verified
    refine obeys_bind (fun _ past => Latest past (Answered P ·
      (.capturePayment args.providerPaymentId saga.amountMinor) ())) ?_ ?_
    · refine obeys_tryCatch (fun _ _ => True) ?_ fun failure past longer _ => ?_
      · refine obeys_retry (fun past => history <:+ past) (fun past longer => ?_)
          (fun _ => trivial) (List.suffix_refl _)
        refine obeys_issue ⟨args, saga, orderId, completes.mono longer, rfl, verified⟩
          (fun s _ answered => latest_cons answered) (fun s failure _ => ?_)
        split
        · exact ⟨longer.trans (List.suffix_cons s past), fun _ => trivial⟩
        · trivial
      · split
        · refine obeys_bind (fun _ _ => True) (obeys_issue ?_ (fun _ _ _ => trivial)
            (fun _ _ _ => trivial)) fun _ _ _ _ => obeys_throw trivial
          exact ⟨args, saga, completes.mono longer⟩
        · exact obeys_throw trivial
    · intro _ past longer captured
      refine obeys_issue ⟨args, saga, saga.amountMinor, completes.mono longer, rfl, verified,
        captured⟩ (fun s _ answered => ?_) (fun _ _ _ => trivial)
      exact ⟨verified, _, _, _, latest_cons answered⟩
  · refine obeys_bind (fun _ _ => True) (obeys_issue ?_ (fun _ _ _ => trivial)
      (fun _ _ _ => trivial)) fun _ _ _ _ => obeys_throw trivial
    exact ⟨args, saga, completes⟩

theorem captureAndSettle_obeys (completes : Completes P call history args saga orderId) :
    ObeysCode (execute P) (May P call) (fun _ _ => True) (fun _ _ => True) history
      (captureAndSettle P args saga orderId) := by
  refine obeys_bind (fun outcome past => match outcome with
    | .ok _ => Captured P args orderId past
    | .error _ => True) (obeys_outcome (verifyAndCapture_obeys completes)) ?_
  intro outcome past longer captured
  have completes' := completes.mono longer
  cases outcome with
  | error failure =>
      cases failure with
      | checkoutSignatureInvalid => exact voidPurchase_obeys _ completes'
      | _ =>
          first
            | exact voidPurchase_obeys _ completes'
            | exact obeys_throw trivial
  | ok _ =>
      obtain ⟨verified, signature, actorId, traceId, recorded⟩ := captured
      refine obeys_bind (fun final past => final = none → Did P past
        (.settle saga orderId args.providerPaymentId args.actorId args.traceId) none) ?_ ?_
      · refine obeys_issue ⟨args, signature, actorId, traceId, completes', rfl, verified, recorded⟩
          (fun s final answered => ?_) (fun _ _ _ => trivial)
        rintro rfl
        exact did_cons answered
      · intro final past' longer' unsettled
        cases final with
        | some final => exact obeys_pure trivial
        | none => exact refundPurchase_obeys (completes'.mono longer') (unsettled rfl)

theorem completePurchase_obeys (about : CompletesWith P history args call) :
    ObeysCode (execute P) (May P call) (fun _ _ => True) (fun _ _ => True) history
      (completePurchase P args) := by
  refine obeys_bind (fun found past => ∀ saga, found = some saga →
    Did P past (.getSaga args.sagaId) (some saga)) ?_ ?_
  · refine obeys_issue trivial (fun s found answered => ?_) (fun _ _ _ => trivial)
    rintro saga rfl
    exact did_cons answered
  · intro found past longer read
    cases found with
    | none => exact obeys_throw trivial
    | some saga =>
        dsimp only
        split
        · exact obeys_pure trivial
        rename_i awaiting
        cases named : saga.orderId with
        | none => exact obeys_throw trivial
        | some orderId =>
            have completes : Completes P call past args saga orderId :=
              ⟨about.mono longer, read saga rfl, not_not.mp awaiting, named⟩
            refine obeys_bind (fun _ _ => True) (obeys_issue trivial
              (fun _ _ _ => trivial) (fun _ _ _ => trivial)) fun status past' longer' _ => ?_
            split
            · exact voidPurchase_obeys _ (completes.mono longer')
            · refine obeys_bind (fun _ _ => True) (obeys_issue trivial
                (fun _ _ _ => trivial) (fun _ _ _ => trivial)) fun payments past'' longer'' _ => ?_
              have completes' := completes.mono (longer'.trans longer'')
              split
              · exact voidPurchase_obeys _ completes'
              · exact captureAndSettle_obeys completes'

theorem checkout_obeys {body : CheckoutRequest} {traceId : String}
    (named : call = .checkout body traceId) :
    ObeysCode (execute P) (May P call) (fun _ _ => True) (fun _ _ => True) history
      (checkout P body traceId) := by
  subst named
  refine obeys_bind (fun found past => ∀ order, found = some order →
    Did P past (.getOrder body.orderId) (some order)) ?_ ?_
  · refine obeys_issue trivial (fun s found answered => ?_) (fun _ _ _ => trivial)
    rintro order rfl
    exact did_cons answered
  · intro found past longer read
    cases found with
    | none => exact obeys_throw trivial
    | some order =>
        dsimp only
        cases drawn : order.providerOrderId with
        | none => exact obeys_throw trivial
        | some providerOrderId =>
            have complete : ∀ past', past <:+ past' → ∀ paymentId signature,
                ObeysCode (execute P) (May P (.checkout body traceId)) (fun _ _ => True)
                  (fun _ _ => True) past' (completePurchase P
                    { sagaId := body.sagaId, providerOrderId := providerOrderId
                      providerPaymentId := paymentId, providerSignature := signature
                      actorId := "web_buyer", traceId := traceId }) :=
              fun past' longer' paymentId signature => completePurchase_obeys
                ⟨rfl, order, (read order rfl).mono longer', drawn⟩
            dsimp only
            split
            · exact complete past (List.suffix_refl _) _ _
            · split
              · exact obeys_throw trivial
              · refine obeys_bind (fun _ _ => True) (obeys_issue trivial
                  (fun _ _ _ => trivial) (fun _ _ _ => trivial)) fun payments past' longer' _ => ?_
                cases payments with
                | nil => exact obeys_throw trivial
                | cons payment payments => exact complete past' longer' _ _

end SagaCalls

/-! ## Every entry point -/

theorem handleOrderPropose_obeys {P : Platform} {call : Call} {args : Saga.ProposeArgs}
    {orderId : String} (named : call = .handleOrderPropose args orderId) :
    ObeysCode (execute P) (May P call) (fun _ _ => True) (fun _ _ => True) []
      (handleOrderPropose P args orderId) := by
  subst named
  refine obeys_bind (fun proposal past => ∀ req, proposal = .allowed req →
    Did P past (.proposeOrder args) (.allowed req)) ?_ ?_
  · refine obeys_issue ⟨rfl, orderId, rfl⟩ (fun s proposal answered => ?_) (fun _ _ _ => trivial)
    rintro req rfl
    exact did_cons answered
  · intro proposal past _ proposed
    cases proposal with
    | rejected code => exact obeys_pure trivial
    | allowed req =>
        refine obeys_bind _ (beginPurchase_obeys (proposed req rfl) rfl) fun snapshot _ _ _ => ?_
        split <;> exact obeys_pure trivial

/-- A call whose outcome is wrapped up at its end. -/
theorem obeys_call {P : Platform} (call : Call) {α : Type} {body : Prog α} (wrap : α → Outcome)
    (returns : α → Past → Prop) (raises : Failure → Past → Prop)
    (obeys : ObeysCode (execute P) (May P call) returns raises [] body)
    (returned : ∀ value past, returns value past → Ends P call (.ok (wrap value)) past)
    (raised : ∀ failure past, raises failure past → Ends P call (.error failure) past) :
    Foundation.Obeys (execute P) (May P call) (Ends P call) [] (do return wrap (← body) : Prog _) := by
  have wrapped : ObeysCode (execute P) (May P call)
      (fun outcome past => Ends P call (.ok outcome) past)
      (fun failure past => Ends P call (.error failure) past) [] (do return wrap (← body) : Prog _) :=
    obeys_bind _ (obeys_mono obeys returned raised) fun value past _ holds => obeys_pure holds
  refine Foundation.Obeys.mono wrapped fun outcome past holds => ?_
  cases outcome with
  | ok outcome => exact holds
  | error failure => exact holds

/-- A call about whose outcome nothing is said. -/
theorem obeys_free_call {P : Platform} (call : Call) {α : Type} {body : Prog α}
    (wrap : α → Outcome)
    (obeys : ObeysCode (execute P) (May P call) (fun _ _ => True) (fun _ _ => True) [] body)
    (ends : ∀ outcome past, Ends P call outcome past) :
    Foundation.Obeys (execute P) (May P call) (Ends P call) [] (do return wrap (← body) : Prog _) :=
  obeys_call call wrap _ _ obeys (fun _ _ _ => ends _ _) (fun _ _ _ => ends _ _)

/-- A call of one action. -/
theorem obeys_single {P : Platform} (call : Call) (action : Action) (wrap : Value action → Outcome)
    (permitted : May P call [] action) (ends : ∀ outcome past, Ends P call outcome past) :
    Foundation.Obeys (execute P) (May P call) (Ends P call) []
      (do return wrap (← issue action) : Prog _) :=
  obeys_free_call call wrap
    (obeys_issue permitted (fun _ _ _ => trivial) (fun _ _ _ => trivial)) ends

/-- Every call obeys its discipline. -/
theorem code_obeys (P : Platform) (call : Call) :
    Foundation.Obeys (execute P) (May P call) (Ends P call) [] (Call.code P call) := by
  cases call with
  | createProviderOrder args =>
      exact obeys_call (.createProviderOrder args)
        (fun result : OrderRecord × Bool => .order result.1 result.2) _ _
        (createProviderOrder_obeys (.inl rfl)) (fun _ _ reported => reported) (fun _ _ _ => trivial)
  | executeMoneyAction req orderId =>
      exact obeys_call (.executeMoneyAction req orderId) .money _ _
        (executeMoneyAction_obeys rfl rfl) (fun _ _ returned => returned) (fun _ _ raised => raised)
  | beginPurchase req orderId =>
      exact obeys_free_call (.beginPurchase req orderId) .saga (beginPurchase_obeys rfl rfl)
        (fun _ _ => trivial)
  | completePurchase args =>
      exact obeys_free_call (.completePurchase args) .saga (completePurchase_obeys rfl)
        (fun _ _ => trivial)
  | checkout body traceId =>
      exact obeys_free_call (.checkout body traceId) .saga (checkout_obeys rfl) (fun _ _ => trivial)
  | handleOrderPropose args orderId =>
      exact obeys_free_call (.handleOrderPropose args orderId) .handled
        (handleOrderPropose_obeys rfl) (fun _ _ => trivial)
  | updateMandateStatus mandateId status =>
      exact obeys_single _ (.updateMandateStatus mandateId status) (fun _ => .nothing) trivial
        (fun _ _ => trivial)
  | processWebhookDelivery delivery =>
      exact obeys_single _ (.processWebhookDelivery delivery) .receipt trivial (fun _ _ => trivial)
  | verifyChainAndHaltOnFailure tables fromSeq toSeq =>
      exact obeys_single _ (.verifyChainAndHaltOnFailure tables fromSeq toSeq) .verified trivial
        (fun _ _ => trivial)
  | processUnprocessedWebhooks =>
      exact obeys_single _ .processUnprocessedWebhooks (fun _ => .nothing) trivial
        (fun _ _ => trivial)
  | reconcileNonTerminalOrders =>
      exact obeys_single _ .reconcileNonTerminalOrders (fun _ => .nothing) trivial
        (fun _ _ => trivial)
  | sweep => exact obeys_single _ .sweep (fun _ => .nothing) trivial (fun _ _ => trivial)
  | createQuote args =>
      exact obeys_single _ (.createQuote args) .quoted trivial (fun _ _ => trivial)
  | mutatePrice args =>
      exact obeys_single _ (.mutatePrice args) (fun _ => .nothing) trivial (fun _ _ => trivial)
  | upsertItem item =>
      exact obeys_single _ (.upsertItem item) (fun _ => .nothing) trivial (fun _ _ => trivial)

end Actl
