import Actl.Foundation.Program
import Actl.Payments.Service

/-!
# Deliveries and ticks

Webhooks arrive in `process_webhook_delivery`, which records them, and take effect
in the worker's ticks, `process_unprocessed_webhooks`. A run is a sequence of
deliveries and of ticks that do not overlap, each of which draws its timestamps
and trace ids from an environment of its own.

A forged delivery, one without an event id and a repeat leave no trace: a run and
the run without them end in the same store up to timestamps and trace ids
(`webhook_noise_inert`).
-/

set_option autoImplicit false

namespace Actl.Payments

open Audit (AuditEntry AuditLog)
open Foundation (bind_eq_ok)

/-! ## Runs -/

/-- What a tick of the worker draws from outside: the clock at each event and the
trace ids. -/
structure WorkerTick where
  now : Nat → Time
  traceId : Nat → String

/-- A tick is one transaction, rolled back when it raises. -/
def WorkerTick.run (P : Platform) (tick : WorkerTick) (db : Database) : Database :=
  match processUnprocessedWebhooks P tick.now tick.traceId db with
  | .ok db => db
  | .error _ => db

inductive WebhookEvent where
  | deliver (delivery : WebhookDelivery)
  | tick

/-- A run, whose ticks are numbered from `k` on. -/
def runWebhooks (P : Platform) (ticks : Nat → WorkerTick) :
    Nat → List WebhookEvent → Database → Database
  | _, [], db => db
  | k, .deliver delivery :: later, db =>
      runWebhooks P ticks k later (processWebhookDelivery P delivery db).2
  | k, .tick :: later, db => runWebhooks P ticks (k + 1) later ((ticks k).run P db)

/-- The ids of the events that were accepted. -/
def acceptedIds (db : Database) : List String :=
  db.webhookEvents.rows.map WebhookEventRecord.providerEventId

/-- The sequence without every delivery whose signature is invalid, that has no event
id, or whose event id was accepted before. -/
def withoutNoise (P : Platform) : List String → List WebhookEvent → List WebhookEvent
  | _, [] => []
  | accepted, .tick :: later => .tick :: withoutNoise P accepted later
  | accepted, .deliver delivery :: later =>
      if P.verifyWebhook delivery.rawBody delivery.signature = false ∨ delivery.eventId = "" ∨
          delivery.eventId ∈ accepted then
        withoutNoise P accepted later
      else .deliver delivery :: withoutNoise P (accepted ++ [delivery.eventId]) later

/-! ## Deliveries -/

section Deliveries

variable {P : Platform} {db db' : Database} {delivery : WebhookDelivery}

/-- The row a delivery is recorded as. -/
def WebhookDelivery.record (delivery : WebhookDelivery) : WebhookEventRecord where
  providerEventId := delivery.eventId
  eventType := delivery.eventType
  signatureValid := true
  payload := delivery.payload
  processedAt := none

/-- A delivery with an invalid signature changes no table. -/
theorem processWebhookDelivery_forged
    (forged : P.verifyWebhook delivery.rawBody delivery.signature = false) :
    (processWebhookDelivery P delivery db).2 = db := by
  rw [processWebhookDelivery, forged]
  rfl

theorem clashes_record :
    db.webhookEvents.Clashes delivery.record ↔ delivery.eventId ∈ acceptedIds db := by
  simp [Foundation.Table.Clashes, acceptedIds, WebhookDelivery.record]

/-- Neither does one without an event id, nor one whose event was accepted. -/
theorem processWebhookDelivery_noise
    (noise : P.verifyWebhook delivery.rawBody delivery.signature = false ∨
      delivery.eventId = "" ∨ delivery.eventId ∈ acceptedIds db) :
    (processWebhookDelivery P delivery db).2 = db := by
  cases valid : P.verifyWebhook delivery.rawBody delivery.signature with
  | false => exact processWebhookDelivery_forged valid
  | true =>
      rw [processWebhookDelivery, valid]
      by_cases missing : delivery.eventId = ""
      · simp [missing]
      · have accepted : delivery.eventId ∈ acceptedIds db := by simpa [valid, missing] using noise
        have refused : db.webhookEvents.insert? delivery.record = none :=
          Foundation.Table.insert?_eq_none_iff.mpr (clashes_record.mpr accepted)
        have unclaimed : db.claimWebhookEvent delivery.record = none := by
          rw [Database.claimWebhookEvent, refused]
          rfl
        rw [WebhookDelivery.record] at unclaimed
        simp [missing, unclaimed]

/-- Any other delivery is recorded, and nothing else happens. -/
theorem processWebhookDelivery_accepted
    (valid : P.verifyWebhook delivery.rawBody delivery.signature = true)
    (named : delivery.eventId ≠ "") (fresh : delivery.eventId ∉ acceptedIds db) :
    ∃ webhookEvents, webhookEvents.rows = db.webhookEvents.rows ++ [delivery.record] ∧
      (processWebhookDelivery P delivery db).2 = { db with webhookEvents } := by
  cases inserted : db.webhookEvents.insert? delivery.record with
  | none =>
      exact absurd (clashes_record.mp (Foundation.Table.insert?_eq_none_iff.mp inserted)) fresh
  | some webhookEvents =>
      have claimed : db.claimWebhookEvent delivery.record = some { db with webhookEvents } := by
        rw [Database.claimWebhookEvent, inserted]
        rfl
      refine ⟨webhookEvents, Foundation.Table.rows_of_insert? inserted, ?_⟩
      rw [WebhookDelivery.record] at claimed
      simp [processWebhookDelivery, valid, named, claimed]

theorem transitionStatus_webhookEvents {orderId : String} {status : OrderStatus}
    {providerPaymentId declineReason : Option String}
    (done : db.transitionStatus orderId status providerPaymentId declineReason = .ok db') :
    db'.webhookEvents = db.webhookEvents := by
  rw [Database.transitionStatus] at done
  split at done
  next => cases done
  next =>
    cases done
    rfl

/-- Applying an event records nothing in the table of events. -/
theorem applyWebhookEvent_webhookEvents {traceId actorId : String} {event : WebhookEventRecord}
    (done : applyWebhookEvent P traceId actorId event db = .ok db') :
    db'.webhookEvents = db.webhookEvents := by
  unfold applyWebhookEvent at done
  dsimp only at done
  split at done
  · cases done
    rfl
  · split at done
    · obtain ⟨looked, found, rest⟩ := bind_eq_ok.mp done
      split at rest
      · cases rest
        rfl
      · split at rest
        · cases rest
          rfl
        · split at rest
          · obtain ⟨db₁, transitioned, last⟩ := bind_eq_ok.mp rest
            cases last
            have kept := transitionStatus_webhookEvents transitioned
            exact kept
          · split at rest
            · obtain ⟨db₁, transitioned, last⟩ := bind_eq_ok.mp rest
              cases last
              have kept := transitionStatus_webhookEvents transitioned
              exact kept
            · cases rest
              rfl
    · cases done

theorem acceptedIds_markProcessed {eventId : String} {processedAt : Time}
    (done : db.markProcessed eventId processedAt = .ok db') : acceptedIds db' = acceptedIds db := by
  rw [Database.markProcessed] at done
  split at done
  next => cases done
  next =>
    cases done
    simp only [acceptedIds, Foundation.Table.modify, List.map_map]
    refine List.map_congr_left fun event _ => ?_
    simp only [Function.comp_apply]
    split
    next => rfl
    next => rfl

theorem acceptedIds_applyWebhookEvents {now : Nat → Time} {traceId : Nat → String}
    {events : List WebhookEventRecord} {i : Nat}
    (done : applyWebhookEvents P now traceId i events db = .ok db') :
    acceptedIds db' = acceptedIds db := by
  induction events generalizing i db with
  | nil =>
      cases done
      rfl
  | cons event events ih =>
      obtain ⟨db₁, applied, rest⟩ := bind_eq_ok.mp done
      obtain ⟨db₂, marked, rest⟩ := bind_eq_ok.mp rest
      rw [ih rest, acceptedIds_markProcessed marked, acceptedIds,
        applyWebhookEvent_webhookEvents applied, acceptedIds]

/-- A tick accepts no event. -/
theorem acceptedIds_tick (tick : WorkerTick) : acceptedIds (tick.run P db) = acceptedIds db := by
  rw [WorkerTick.run]
  cases ran : processUnprocessedWebhooks P tick.now tick.traceId db with
  | error failure => rfl
  | ok after =>
      obtain ⟨_, -, rest⟩ := bind_eq_ok.mp ran
      exact acceptedIds_applyWebhookEvents rest

end Deliveries

/-- A run ends in the same store as the run without the noise, drawing the same
timestamps and trace ids. -/
theorem runWebhooks_withoutNoise (P : Platform) (ticks : Nat → WorkerTick) (k : Nat)
    (events : List WebhookEvent) (db : Database) :
    runWebhooks P ticks k (withoutNoise P (acceptedIds db) events) db =
      runWebhooks P ticks k events db := by
  induction events generalizing k db with
  | nil => rfl
  | cons event later ih =>
      cases event with
      | tick =>
          rw [withoutNoise, runWebhooks, runWebhooks, ← ih (k + 1), acceptedIds_tick]
      | deliver delivery =>
          rw [withoutNoise]
          split
          next noise =>
            rw [runWebhooks, processWebhookDelivery_noise noise]
            exact ih k db
          next fresh =>
            rw [not_or, not_or, Bool.not_eq_false] at fresh
            obtain ⟨webhookEvents, rows, recorded⟩ :=
              processWebhookDelivery_accepted fresh.1 fresh.2.1 fresh.2.2
            have accepted : acceptedIds (processWebhookDelivery P delivery db).2 =
                acceptedIds db ++ [delivery.eventId] := by
              rw [recorded, acceptedIds, rows, List.map_append]
              rfl
            rw [runWebhooks, runWebhooks, ← ih k, accepted]

/-! ## Up to timestamps and trace ids -/

/-- A log without its trace ids, which are in no hash. -/
def untraced (log : AuditLog) : AuditLog :=
  { log with entries := log.entries.map fun entry => { entry with traceId := "" } }

def undated (event : WebhookEventRecord) : WebhookEventRecord :=
  { event with processedAt := event.processedAt.map fun _ => 0 }

theorem undated_keeps :
    ∀ col ∈ [WebhookEventRecord.providerEventId], ∀ event, col (undated event) = col event := by
  simp [undated]

/-- A store without the times at which events were processed and without trace
ids. -/
def timeless (db : Database) : Database :=
  { db with
    webhookEvents := db.webhookEvents.modify (fun _ => true) undated undated_keeps
    auditLog := untraced db.auditLog }

/-- The tick in which the clock stands still and no trace id is drawn. -/
def timelessTick : WorkerTick := ⟨fun _ => 0, fun _ => ""⟩

section Timeless

variable {P : Platform} {db db' : Database}

theorem untraced_writeCheckpoint (log : AuditLog) (toSeq : Nat) :
    untraced (log.writeCheckpoint P toSeq) = (untraced log).writeCheckpoint P toSeq := by
  rw [AuditLog.writeCheckpoint, AuditLog.writeCheckpoint]
  have stored : (untraced log).checkpoints = log.checkpoints := rfl
  have hashes : ∀ k, (((untraced log).entries.take toSeq).drop k).map AuditEntry.entryHash =
      ((log.entries.take toSeq).drop k).map AuditEntry.entryHash := by
    intro k
    rw [untraced, ← List.map_take, ← List.map_drop, List.map_map]
    rfl
  rw [stored]
  split
  next => rfl
  next =>
    dsimp only
    rw [hashes]
    split
    next => rfl
    next => rfl

theorem untraced_appendEntry (log : AuditLog) (traceId actorType actorId : String)
    (action : Audit.AuditAction) (subject payload : JSONValue) :
    untraced (log.appendEntry P traceId actorType actorId action subject payload) =
      (untraced log).appendEntry P "" actorType actorId action subject payload := by
  have length : (untraced log).entries.length = log.entries.length := by simp [untraced]
  have last : (untraced log).entries.getLast?.map AuditEntry.entryHash =
      log.entries.getLast?.map AuditEntry.entryHash := by
    rw [untraced, List.getLast?_map, Option.map_map]
    rfl
  rw [AuditLog.appendEntry, AuditLog.appendEntry]
  simp only [length, last]
  split
  next => rw [untraced_writeCheckpoint, untraced]; simp [untraced]
  next => simp [untraced]

theorem timeless_appendEntry (traceId actorType actorId : String) (action : Audit.AuditAction)
    (subject payload : JSONValue) :
    timeless (db.appendEntry P traceId actorType actorId action subject payload) =
      (timeless db).appendEntry P "" actorType actorId action subject payload := by
  rw [Database.appendEntry, Database.appendEntry, timeless, untraced_appendEntry]
  rfl

theorem timeless_transitionStatus (orderId : String) (status : OrderStatus)
    (providerPaymentId declineReason : Option String) :
    (db.transitionStatus orderId status providerPaymentId declineReason).map timeless =
      (timeless db).transitionStatus orderId status providerPaymentId declineReason := by
  have same : (timeless db).getOrder orderId = db.getOrder orderId := rfl
  rw [Database.transitionStatus, Database.transitionStatus, same]
  cases db.getOrder orderId with
  | none => rfl
  | some order => rfl

/-- A transition and its audit entry. -/
theorem timeless_settle (orderId : String) (status : OrderStatus)
    (providerPaymentId declineReason : Option String) (traceId actorType actorId : String)
    (action : Audit.AuditAction) (subject payload : JSONValue) :
    (db.transitionStatus orderId status providerPaymentId declineReason >>= fun db =>
        Except.ok (db.appendEntry P traceId actorType actorId action subject payload)).map timeless =
      ((timeless db).transitionStatus orderId status providerPaymentId declineReason >>= fun db =>
        Except.ok (db.appendEntry P "" actorType actorId action subject payload)) := by
  rw [← timeless_transitionStatus]
  cases db.transitionStatus orderId status providerPaymentId declineReason with
  | error failure => rfl
  | ok after => exact congrArg Except.ok (timeless_appendEntry ..)

/-- Applying an event commutes with forgetting. -/
theorem timeless_applyWebhookEvent (traceId actorId : String) (event : WebhookEventRecord) :
    (applyWebhookEvent P traceId actorId event db).map timeless =
      applyWebhookEvent P "" actorId event (timeless db) := by
  have lookup (providerOrderId : String) :
      (timeless db).getOrderByProviderOrderId providerOrderId =
        db.getOrderByProviderOrderId providerOrderId := rfl
  rw [applyWebhookEvent, applyWebhookEvent]
  dsimp only
  split
  next => rfl
  next named =>
    split
    next providerOrderId text =>
      rw [lookup]
      cases db.getOrderByProviderOrderId providerOrderId with
      | error failure => rfl
      | ok found =>
          cases found with
          | none => rfl
          | some order =>
              simp only [Foundation.ok_bind]
              split
              next => rfl
              next live =>
                split
                next captured => exact timeless_settle ..
                next notCaptured =>
                  split
                  next failed => exact timeless_settle ..
                  next => rfl
    next => rfl

theorem timeless_markProcessed (eventId : String) (processedAt : Time) :
    (db.markProcessed eventId processedAt).map timeless =
      (timeless db).markProcessed eventId 0 := by
  have same : (timeless db).webhookEvents.get? WebhookEventRecord.providerEventId eventId =
      (db.webhookEvents.get? WebhookEventRecord.providerEventId eventId).map undated :=
    @Foundation.Table.get?_modify _ _ db.webhookEvents (fun _ => true) undated undated_keeps _
      List.mem_cons_self eventId
  rw [Database.markProcessed, Database.markProcessed, same]
  cases db.webhookEvents.get? WebhookEventRecord.providerEventId eventId with
  | none => rfl
  | some event =>
      -- Marking and forgetting the mark commute on each row.
      have marked (e : WebhookEventRecord) :
          undated (if e.providerEventId = eventId then { e with processedAt := some processedAt }
            else e) =
          if (undated e).providerEventId = eventId then { undated e with processedAt := some 0 }
            else undated e := by
        by_cases mine : e.providerEventId = eventId
        · simp [undated, mine]
        · simp [undated, mine]
      have rows : (timeless { db with
          webhookEvents := db.webhookEvents.modify (fun e => e.providerEventId = eventId)
            (fun e => { e with processedAt := some processedAt }) (by simp) }).webhookEvents =
          (timeless db).webhookEvents.modify (fun e => e.providerEventId = eventId)
            (fun e => { e with processedAt := some 0 }) (by simp) := by
        refine Foundation.Table.ext ?_
        simp only [timeless, Foundation.Table.modify, List.map_map]
        refine List.map_congr_left fun e _ => ?_
        simpa using marked e
      exact congrArg (fun webhookEvents => Except.ok { timeless db with webhookEvents }) rows

theorem timeless_applyWebhookEvents (now : Nat → Time) (traceId : Nat → String)
    (events : List WebhookEventRecord) (i : Nat) :
    (applyWebhookEvents P now traceId i events db).map timeless =
      applyWebhookEvents P timelessTick.now timelessTick.traceId i events (timeless db) := by
  induction events generalizing i db with
  | nil => rfl
  | cons event events ih =>
      rw [applyWebhookEvents, applyWebhookEvents]
      have applied : applyWebhookEvent P (timelessTick.traceId i) "worker" event (timeless db) =
          (applyWebhookEvent P (traceId i) "worker" event db).map timeless :=
        (timeless_applyWebhookEvent ..).symm
      rw [applied]
      cases applyWebhookEvent P (traceId i) "worker" event db with
      | error failure => rfl
      | ok after =>
          have marked : (timeless after).markProcessed event.providerEventId (timelessTick.now i) =
              (after.markProcessed event.providerEventId (now i)).map timeless :=
            (timeless_markProcessed ..).symm
          simp only [Foundation.ok_bind, Except.map, marked]
          cases after.markProcessed event.providerEventId (now i) with
          | error failure => rfl
          | ok after => exact ih (i + 1)

/-- An event that waits has no time to forget. -/
theorem timeless_listUnprocessed : (timeless db).listUnprocessed = db.listUnprocessed := by
  have waiting (e : WebhookEventRecord) (waits : (e.processedAt.isNone && e.signatureValid) = true) :
      undated e = e := by
    obtain ⟨unprocessed, -⟩ := Bool.and_eq_true_iff.mp waits
    cases e with
    | mk providerEventId eventType signatureValid payload processedAt =>
        obtain rfl : processedAt = none := Option.isNone_iff_eq_none.mp unprocessed
        rfl
  have rows : (timeless db).webhookEvents.rows = db.webhookEvents.rows.map undated := by
    simp [timeless, Foundation.Table.modify]
  have kept : (fun e : WebhookEventRecord => e.processedAt.isNone && e.signatureValid) ∘ undated =
      fun e => e.processedAt.isNone && e.signatureValid := by
    funext e
    simp [undated]
  rw [Database.listUnprocessed, rows, List.filter_map, kept]
  conv_rhs => rw [← List.map_id db.listUnprocessed]
  exact List.map_congr_left fun e member => waiting e (List.mem_filter.mp member).2

theorem timeless_processUnprocessedWebhooks (now : Nat → Time) (traceId : Nat → String) :
    (processUnprocessedWebhooks P now traceId db).map timeless =
      processUnprocessedWebhooks P timelessTick.now timelessTick.traceId (timeless db) := by
  have halted : (timeless db).raiseIfHalted = db.raiseIfHalted := rfl
  rw [processUnprocessedWebhooks, processUnprocessedWebhooks, halted, timeless_listUnprocessed]
  cases db.raiseIfHalted with
  | error failure => rfl
  | ok _ => exact timeless_applyWebhookEvents ..

theorem timeless_tick (tick : WorkerTick) :
    timeless (tick.run P db) = timelessTick.run P (timeless db) := by
  rw [WorkerTick.run, WorkerTick.run,
    ← timeless_processUnprocessedWebhooks tick.now tick.traceId]
  cases processUnprocessedWebhooks P tick.now tick.traceId db with
  | error failure => rfl
  | ok after => rfl

theorem acceptedIds_timeless : acceptedIds (timeless db) = acceptedIds db := by
  simp only [acceptedIds, timeless, Foundation.Table.modify, List.map_map]
  exact List.map_congr_left fun e _ => rfl

theorem timeless_deliver (delivery : WebhookDelivery) :
    timeless (processWebhookDelivery P delivery db).2 =
      (processWebhookDelivery P delivery (timeless db)).2 := by
  by_cases noise : P.verifyWebhook delivery.rawBody delivery.signature = false ∨
      delivery.eventId = "" ∨ delivery.eventId ∈ acceptedIds db
  · rw [processWebhookDelivery_noise noise]
    rw [← acceptedIds_timeless] at noise
    rw [processWebhookDelivery_noise noise]
  · rw [not_or, not_or, Bool.not_eq_false] at noise
    obtain ⟨webhookEvents, rows, recorded⟩ :=
      processWebhookDelivery_accepted noise.1 noise.2.1 noise.2.2
    rw [← acceptedIds_timeless] at noise
    obtain ⟨webhookEvents', rows', recorded'⟩ :=
      processWebhookDelivery_accepted noise.1 noise.2.1 noise.2.2
    have same : webhookEvents.modify (fun _ => true) undated undated_keeps = webhookEvents' := by
      refine Foundation.Table.ext ?_
      rw [rows']
      simp only [Foundation.Table.modify, rows, List.map_append, timeless]
      rfl
    rw [recorded, recorded', ← same]
    rfl

/-- What a run comes to does not depend on the clock and the trace ids. -/
theorem timeless_runWebhooks (ticks : Nat → WorkerTick) (k : Nat) (events : List WebhookEvent) :
    timeless (runWebhooks P ticks k events db) =
      runWebhooks P (fun _ => timelessTick) k events (timeless db) := by
  induction events generalizing k db with
  | nil => rfl
  | cons event later ih =>
      cases event with
      | tick => rw [runWebhooks, runWebhooks, ih, timeless_tick]
      | deliver delivery => rw [runWebhooks, runWebhooks, ih, timeless_deliver]

end Timeless

/-- Whatever is delivered and whenever the worker ticks in between, the run ends as
the run without every delivery whose signature is invalid, that has no event id or
whose event was accepted before, up to timestamps and trace ids. A delivery whose
signature is invalid changes no table. -/
theorem webhook_noise_inert (P : Platform) (ticks ticks' : Nat → WorkerTick)
    (events : List WebhookEvent) (db : Database) :
    timeless (runWebhooks P ticks 0 events db) =
        timeless (runWebhooks P ticks' 0 (withoutNoise P (acceptedIds db) events) db) ∧
      ∀ (delivery : WebhookDelivery) (db : Database),
        P.verifyWebhook delivery.rawBody delivery.signature = false →
          (processWebhookDelivery P delivery db).2 = db := by
  refine ⟨?_, fun delivery db => processWebhookDelivery_forged⟩
  rw [← runWebhooks_withoutNoise, timeless_runWebhooks, timeless_runWebhooks]

end Actl.Payments
