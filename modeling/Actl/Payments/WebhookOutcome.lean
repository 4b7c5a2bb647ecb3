import Actl.Payments.Webhooks
import Actl.Fixture

/-!
# What the webhooks of an order come to

A tick applies the waiting events in the order in which they were delivered, and
the first terminal one settles the order: a later one finds it terminal. Once all
events of an order are processed, its status is therefore the one of the first
terminal event delivered, however the deliveries were divided into ticks
(`statusOf_of_completes`).

So the outcome depends on the order of delivery exactly when one of the events
captures and another one fails the order, as when a payment is attempted again
after a decline (`webhook_outcome_order_independent_iff`). The reconciler, which looks
at all payments of an order at once, takes the captured one.
-/

set_option autoImplicit false

namespace Actl.Payments

open Foundation (bind_eq_ok)

/-! ## The first terminal event -/

/-- What an event makes of an order that is not terminal. -/
def terminalOf (eventType : String) : Option OrderStatus :=
  if eventType = "payment.captured" then some .captured
  else if eventType = "payment.failed" then some .failed
  else none

/-- What the first terminal event makes of it. -/
def firstTerminal (deliveries : List WebhookDelivery) : Option OrderStatus :=
  deliveries.findSome? fun delivery => terminalOf delivery.eventType

theorem terminalOf_isTerminal {eventType : String} {status : OrderStatus}
    (terminal : terminalOf eventType = some status) : status.isTerminal = true := by
  rw [terminalOf] at terminal
  split at terminal
  next => cases terminal; rfl
  next =>
    split at terminal
    next => cases terminal; rfl
    next => cases terminal

/-- The status of an order behind one more event. -/
theorem firstTerminal_concat (deliveries : List WebhookDelivery) (delivery : WebhookDelivery)
    {status : OrderStatus} (live : status.isTerminal = false) :
    (firstTerminal (deliveries ++ [delivery])).getD status =
      if ((firstTerminal deliveries).getD status).isTerminal then
        (firstTerminal deliveries).getD status
      else (terminalOf delivery.eventType).getD ((firstTerminal deliveries).getD status) := by
  rw [firstTerminal, List.findSome?_append]
  cases first : firstTerminal deliveries with
  | none =>
      rw [firstTerminal] at first
      simp [first, live, List.findSome?]
      cases terminalOf delivery.eventType with
      | none => rfl
      | some status => rfl
  | some settled =>
      rw [firstTerminal] at first
      obtain ⟨event, -, terminal⟩ := List.exists_of_findSome?_eq_some first
      simp [first, terminalOf_isTerminal terminal]

/-- Without a failure among them, the events of an order capture it if one of them
does. -/
theorem firstTerminal_of_no_failure {deliveries : List WebhookDelivery}
    (unfailed : ∀ d ∈ deliveries, d.eventType ≠ "payment.failed")
    (captured : ∃ d ∈ deliveries, d.eventType = "payment.captured") :
    firstTerminal deliveries = some .captured := by
  induction deliveries with
  | nil =>
      obtain ⟨d, member, -⟩ := captured
      cases member
  | cons d deliveries ih =>
      rw [firstTerminal, List.findSome?_cons]
      by_cases captures : d.eventType = "payment.captured"
      · simp [terminalOf, captures]
      · obtain ⟨d', member, captures'⟩ := captured
        have inTail : d' ∈ deliveries := by
          rcases List.mem_cons.mp member with rfl | inTail
          · exact absurd captures' captures
          · exact inTail
        have neutral : terminalOf d.eventType = none := by
          simp [terminalOf, captures, unfailed d List.mem_cons_self]
        rw [neutral]
        exact ih (fun d member => unfailed d (List.mem_cons_of_mem _ member))
          ⟨d', inTail, captures'⟩

/-- Without a capture among them, what they come to is whether one of them fails. -/
theorem firstTerminal_of_no_capture {deliveries : List WebhookDelivery}
    (uncaptured : ∀ d ∈ deliveries, d.eventType ≠ "payment.captured") :
    firstTerminal deliveries =
      if ∃ d ∈ deliveries, d.eventType = "payment.failed" then some .failed else none := by
  induction deliveries with
  | nil => simp [firstTerminal]
  | cons d deliveries ih =>
      have rest := ih fun d member => uncaptured d (List.mem_cons_of_mem _ member)
      rw [firstTerminal] at rest ⊢
      rw [List.findSome?_cons]
      by_cases fails : d.eventType = "payment.failed"
      · simp [terminalOf, fails]
      · have neutral : terminalOf d.eventType = none := by
          simp [terminalOf, fails, uncaptured d List.mem_cons_self]
        rw [neutral, rest]
        simp [fails]

/-! ## One event -/

section Apply

variable {P : Platform} {db : Database} {providerOrderId : String} {order : OrderRecord}

/-- The payload names the order. -/
def IsFor (providerOrderId : String) (payload : JSONValue) : Prop :=
  ((extractPaymentEntity payload).bind (·.get? "order_id")).getD .null = .str providerOrderId

theorem filter_of_found
    (found : db.getOrderByProviderOrderId providerOrderId = .ok (some order)) :
    (db.orders.rows.filter fun o => o.providerOrderId = some providerOrderId) = [order] := by
  rw [Database.getOrderByProviderOrderId] at found
  split at found
  next => cases found
  next listed only =>
    cases found
    exact only
  next => cases found

theorem getOrder_of_found
    (found : db.getOrderByProviderOrderId providerOrderId = .ok (some order)) :
    db.getOrder order.id = some order := by
  have kept : order ∈ db.orders.rows.filter fun o => o.providerOrderId = some providerOrderId := by
    rw [filter_of_found found]
    exact List.mem_singleton_self order
  exact (Foundation.Table.get?_eq_some_iff (by simp)).mpr ⟨(List.mem_filter.mp kept).1, rfl⟩

/-- The order a transition wrote is found again, by the same id at the provider. -/
theorem transitionStatus_found
    (found : db.getOrderByProviderOrderId providerOrderId = .ok (some order)) (status : OrderStatus)
    (providerPaymentId declineReason : Option String) :
    ∃ db' order', db.transitionStatus order.id status providerPaymentId declineReason = .ok db' ∧
      db'.webhookEvents = db.webhookEvents ∧ db'.integrity = db.integrity ∧
      db'.getOrderByProviderOrderId providerOrderId = .ok (some order') ∧
      order'.id = order.id ∧ order'.status = status := by
  have only := filter_of_found found
  rw [Database.transitionStatus, getOrder_of_found found]
  refine ⟨_, { order with
    status := status
    providerPaymentId := providerPaymentId.or order.providerPaymentId
    declineReason := declineReason.or order.declineReason }, rfl, rfl, rfl, ?_, rfl, rfl⟩
  have columns : ((fun o : OrderRecord => decide (o.providerOrderId = some providerOrderId)) ∘
      fun o => if o.id = order.id then { o with
        status := status
        providerPaymentId := providerPaymentId.or o.providerPaymentId
        declineReason := declineReason.or o.declineReason } else o) =
      fun o => decide (o.providerOrderId = some providerOrderId) := by
    funext o
    simp only [Function.comp_apply]
    split
    next => rfl
    next => rfl
  simp [Database.getOrderByProviderOrderId, Database.modifyOrder, Foundation.Table.modify,
    List.filter_map, columns, only]

/-- An event for an order settles it if it is not settled, and is otherwise without
effect. -/
theorem applyWebhookEvent_found (traceId actorId : String) {event : WebhookEventRecord}
    (named : providerOrderId ≠ "") (about : IsFor providerOrderId event.payload)
    (found : db.getOrderByProviderOrderId providerOrderId = .ok (some order)) :
    ∃ db' order', applyWebhookEvent P traceId actorId event db = .ok db' ∧
      db'.webhookEvents = db.webhookEvents ∧ db'.integrity = db.integrity ∧
      db'.getOrderByProviderOrderId providerOrderId = .ok (some order') ∧
      order'.id = order.id ∧
      order'.status = if order.status.isTerminal then order.status
        else (terminalOf event.eventType).getD order.status := by
  have truthy : (JSONValue.str providerOrderId).truthy = true := by
    simpa [JSONValue.truthy] using named
  rw [IsFor] at about
  rw [applyWebhookEvent]
  simp only [about, truthy, found, Foundation.ok_bind, Bool.not_true, Bool.false_eq_true, if_false]
  cases terminal : order.status.isTerminal with
  | true => exact ⟨db, order, rfl, rfl, rfl, found, rfl, rfl⟩
  | false =>
      simp only [Bool.false_eq_true, if_false]
      by_cases captures : event.eventType = "payment.captured"
      · obtain ⟨db', order', done, events, integrity, found', same, settled⟩ :=
          transitionStatus_found found .captured (some (P.pyStr
            (((extractPaymentEntity event.payload).bind (·.get? "id")).getD .null))) none
        rw [if_pos captures, done]
        refine ⟨_, order', rfl, events, integrity, found', same, ?_⟩
        simp [settled, terminalOf, captures]
      · rw [if_neg captures]
        by_cases fails : event.eventType = "payment.failed"
        · rw [if_pos fails]
          obtain ⟨db', order', done, events, integrity, found', same, settled⟩ :=
            transitionStatus_found found .failed
              (if (((extractPaymentEntity event.payload).bind (·.get? "id")).getD .null).truthy then
                some (P.pyStr
                  (((extractPaymentEntity event.payload).bind (·.get? "id")).getD .null))
              else none) (some "payment.failed webhook")
          rw [done]
          refine ⟨_, order', rfl, events, integrity, found', same, ?_⟩
          simp [settled, terminalOf, fails]
        · rw [if_neg fails]
          refine ⟨db, order, rfl, rfl, rfl, found, rfl, ?_⟩
          simp [terminalOf, captures, fails]

end Apply

/-! ## A tick -/

section Tick

variable {P : Platform} {db db' : Database} {providerOrderId : String} {order : OrderRecord}

/-- Marking the rows of an id takes them out of the selected rows. -/
theorem filter_map_marked {rows : List WebhookEventRecord} {selected : WebhookEventRecord → Bool}
    {mark : WebhookEventRecord → WebhookEventRecord} {eventId : String}
    (unselects : ∀ e, selected (mark e) = false) :
    (rows.map fun e => if e.providerEventId = eventId then mark e else e).filter selected =
      (rows.filter selected).filter fun e => e.providerEventId ≠ eventId := by
  induction rows with
  | nil => rfl
  | cons row rows ih =>
      by_cases mine : row.providerEventId = eventId
      · cases chosen : selected row with
        | true => simp [mine, unselects, chosen, ih]
        | false => simp [mine, unselects, chosen, ih]
      · cases chosen : selected row with
        | true => simp [mine, chosen, ih]
        | false => simp [mine, chosen, ih]

/-- Marking the first of the waiting events leaves the others waiting. -/
theorem markProcessed_first {event : WebhookEventRecord} {events : List WebhookEventRecord}
    (waiting : db.listUnprocessed = event :: events) (processedAt : Time) :
    ∃ db', db.markProcessed event.providerEventId processedAt = .ok db' ∧
      db'.orders = db.orders ∧ db'.integrity = db.integrity ∧ db'.listUnprocessed = events := by
  have member : event ∈ db.webhookEvents := by
    have listed : event ∈ db.listUnprocessed := by
      rw [waiting]
      exact List.mem_cons_self
    exact (List.mem_filter.mp listed).1
  have found : db.webhookEvents.get? WebhookEventRecord.providerEventId event.providerEventId =
      some event := (Foundation.Table.get?_eq_some_iff (by simp)).mpr ⟨member, rfl⟩
  rw [Database.markProcessed, found]
  refine ⟨_, rfl, rfl, rfl, ?_⟩
  have marked : (db.webhookEvents.modify (fun e => e.providerEventId = event.providerEventId)
        (fun e => { e with processedAt := some processedAt }) (by simp)).rows.filter
        (fun e => e.processedAt.isNone && e.signatureValid) =
      db.listUnprocessed.filter fun e => e.providerEventId ≠ event.providerEventId := by
    have unselects (e : WebhookEventRecord) :
        ({ e with processedAt := some processedAt }.processedAt.isNone && e.signatureValid) =
          false := by simp
    rw [Database.listUnprocessed, ← filter_map_marked unselects]
    simp [Foundation.Table.modify]
  rw [Database.listUnprocessed, marked, waiting]
  -- No other waiting event has the id.
  have distinct : (db.listUnprocessed.map WebhookEventRecord.providerEventId).Nodup :=
    (List.filter_sublist.map _).nodup
      (db.webhookEvents.unique WebhookEventRecord.providerEventId (by simp))
  rw [waiting, List.map_cons, List.nodup_cons] at distinct
  rw [List.filter_cons_of_neg (by simp), List.filter_eq_self]
  intro e present
  have other : e.providerEventId ≠ event.providerEventId := by
    intro same
    exact distinct.1 (same ▸ List.mem_map_of_mem present)
  simpa using other

/-- The loop over the waiting events of an order, which are the deliveries' rows. -/
theorem applyWebhookEvents_found (now : Nat → Time) (traceId : Nat → String) (i : Nat)
    (named : providerOrderId ≠ "") {status : OrderStatus} (live : status.isTerminal = false)
    {done waiting : List WebhookDelivery}
    (about : ∀ d ∈ waiting, IsFor providerOrderId d.payload)
    (listed : db.listUnprocessed = waiting.map WebhookDelivery.record)
    (found : db.getOrderByProviderOrderId providerOrderId = .ok (some order))
    (settled : order.status = (firstTerminal done).getD status) :
    ∃ db' order', applyWebhookEvents P now traceId i (waiting.map WebhookDelivery.record) db =
        .ok db' ∧
      db'.integrity = db.integrity ∧ db'.listUnprocessed = [] ∧
      db'.getOrderByProviderOrderId providerOrderId = .ok (some order') ∧
      order'.id = order.id ∧ order'.status = (firstTerminal (done ++ waiting)).getD status := by
  induction waiting generalizing done i db order with
  | nil => exact ⟨db, order, rfl, rfl, listed, found, rfl, by simpa using settled⟩
  | cons delivery waiting ih =>
      have aboutFirst : IsFor providerOrderId delivery.record.payload :=
        about delivery List.mem_cons_self
      obtain ⟨db₁, order₁, applied, events, integrity, found₁, same₁, settled₁⟩ :=
        applyWebhookEvent_found (P := P) (traceId i) "worker" named aboutFirst found
      have listed₁ : db₁.listUnprocessed =
          delivery.record :: waiting.map WebhookDelivery.record := by
        rw [Database.listUnprocessed, events]
        exact listed
      obtain ⟨db₂, marked, orders, integrity₂, listed₂⟩ := markProcessed_first listed₁ (now i)
      have found₂ : db₂.getOrderByProviderOrderId providerOrderId = .ok (some order₁) := by
        rw [Database.getOrderByProviderOrderId, orders]
        exact found₁
      have status₂ : order₁.status = (firstTerminal (done ++ [delivery])).getD status := by
        rw [firstTerminal_concat done delivery live, ← settled]
        exact settled₁
      obtain ⟨db', order', rest, integrity', listed', found', same', settled'⟩ :=
        @ih db₂ order₁ (i + 1) (done ++ [delivery])
          (fun d member => about d (List.mem_cons_of_mem _ member)) listed₂ found₂ status₂
      refine ⟨db', order', ?_, integrity'.trans (integrity₂.trans integrity), listed', found',
        same'.trans same₁, by simpa using settled'⟩
      rw [List.map_cons, applyWebhookEvents, applied]
      simp only [Foundation.ok_bind, marked]
      exact rest

end Tick

/-! ## Runs over the events of one order -/

/-- The deliveries of a run, in order. -/
def deliveriesOf (events : List WebhookEvent) : List WebhookDelivery :=
  events.filterMap fun event =>
    match event with
    | .deliver delivery => some delivery
    | .tick => none

/-- An order that is not settled, in a store where no event waits and the worker is
not halted, and a set of deliveries for it that were not made before: signed, with
ids that are distinct and new. -/
structure Expected (P : Platform) (db : Database) (providerOrderId : String) (order : OrderRecord)
    (deliveries : List WebhookDelivery) : Prop where
  named : providerOrderId ≠ ""
  found : db.getOrderByProviderOrderId providerOrderId = .ok (some order)
  live : order.status.isTerminal = false
  running : db.integrity.halted = false
  idle : db.listUnprocessed = []
  signed : ∀ d ∈ deliveries, P.verifyWebhook d.rawBody d.signature = true
  about : ∀ d ∈ deliveries, IsFor providerOrderId d.payload
  identified : ∀ d ∈ deliveries, d.eventId ≠ ""
  fresh : ∀ d ∈ deliveries, d.eventId ∉ acceptedIds db
  distinct : (deliveries.map WebhookDelivery.eventId).Nodup

/-- A run that makes the deliveries, each once, and after which none waits. -/
structure Completes (P : Platform) (db : Database) (deliveries : List WebhookDelivery)
    (ticks : Nat → WorkerTick) (events : List WebhookEvent) : Prop where
  delivers : (deliveriesOf events).Perm deliveries
  processes : (runWebhooks P ticks 0 events db).listUnprocessed = []

/-- The status of an order. -/
def statusOf (orderId : String) (db : Database) : Option OrderStatus :=
  (db.getOrder orderId).map OrderRecord.status

/-- Where a run stands: the deliveries that are processed and those that wait. -/
structure Progress (providerOrderId : String) (order : OrderRecord) (before : List String)
    (done waiting : List WebhookDelivery) (db : Database) : Prop where
  running : db.integrity.halted = false
  listed : db.listUnprocessed = waiting.map WebhookDelivery.record
  accepted : acceptedIds db = before ++ (done ++ waiting).map WebhookDelivery.eventId
  settled : ∃ now, db.getOrderByProviderOrderId providerOrderId = .ok (some now) ∧
    now.id = order.id ∧ now.status = (firstTerminal done).getD order.status

section Runs

variable {P : Platform} {db : Database} {providerOrderId : String} {order : OrderRecord}
  {before : List String} {done waiting : List WebhookDelivery}

theorem Progress.deliver (progress : Progress providerOrderId order before done waiting db)
    {delivery : WebhookDelivery}
    (signed : P.verifyWebhook delivery.rawBody delivery.signature = true)
    (identified : delivery.eventId ≠ "") (fresh : delivery.eventId ∉ acceptedIds db) :
    Progress providerOrderId order before done (waiting ++ [delivery])
      (processWebhookDelivery P delivery db).2 := by
  obtain ⟨webhookEvents, rows, recorded⟩ := processWebhookDelivery_accepted signed identified fresh
  rw [recorded]
  refine ⟨progress.running, ?_, ?_, progress.settled⟩
  · rw [Database.listUnprocessed, rows, List.filter_append, List.map_append, ← progress.listed]
    rfl
  · rw [acceptedIds, rows, List.map_append, List.map_singleton]
    have accepted := progress.accepted
    rw [acceptedIds] at accepted
    rw [accepted]
    simp [WebhookDelivery.record]

theorem Progress.tick (progress : Progress providerOrderId order before done waiting db)
    (named : providerOrderId ≠ "") (live : order.status.isTerminal = false)
    (about : ∀ d ∈ waiting, IsFor providerOrderId d.payload) (tick : WorkerTick) :
    Progress providerOrderId order before (done ++ waiting) [] (tick.run P db) := by
  obtain ⟨now, found, same, settled⟩ := progress.settled
  obtain ⟨db', order', applied, integrity, listed, found', same', settled'⟩ :=
    applyWebhookEvents_found (P := P) tick.now tick.traceId 0 named live about progress.listed
      found settled
  have ran : processUnprocessedWebhooks P tick.now tick.traceId db = .ok db' := by
    rw [processUnprocessedWebhooks, Database.raiseIfHalted, progress.running, progress.listed]
    exact applied
  have accepted : acceptedIds (tick.run P db) = acceptedIds db := acceptedIds_tick tick
  rw [WorkerTick.run, ran] at accepted ⊢
  refine ⟨integrity ▸ progress.running, listed, ?_, order', found', same'.trans same, settled'⟩
  rw [List.append_nil]
  exact accepted.trans progress.accepted

/-- A run goes through its deliveries in order. -/
theorem Progress.run (named : providerOrderId ≠ "") (live : order.status.isTerminal = false)
    (ticks : Nat → WorkerTick) {events : List WebhookEvent}
    (progress : Progress providerOrderId order before done waiting db)
    (about : ∀ d ∈ waiting ++ deliveriesOf events, IsFor providerOrderId d.payload)
    (signed : ∀ d ∈ deliveriesOf events, P.verifyWebhook d.rawBody d.signature = true)
    (identified : ∀ d ∈ deliveriesOf events, d.eventId ≠ "")
    (fresh : ∀ d ∈ deliveriesOf events, d.eventId ∉ acceptedIds db)
    (distinct : ((deliveriesOf events).map WebhookDelivery.eventId).Nodup) (k : Nat) :
    ∃ done' waiting', done' ++ waiting' = done ++ waiting ++ deliveriesOf events ∧
      Progress providerOrderId order before done' waiting' (runWebhooks P ticks k events db) := by
  induction events generalizing k db done waiting with
  | nil => exact ⟨done, waiting, by simp [deliveriesOf], progress⟩
  | cons event later ih =>
      cases event with
      | tick =>
          have deliveries : deliveriesOf (.tick :: later) = deliveriesOf later := rfl
          rw [deliveries] at about signed identified fresh distinct ⊢
          have ticked := progress.tick (P := P) named live
            (fun d member => about d (List.mem_append_left _ member)) (ticks k)
          have accepted : acceptedIds ((ticks k).run P db) = acceptedIds db :=
            acceptedIds_tick (ticks k)
          obtain ⟨done', waiting', whole, reached⟩ := ih ticked
            (fun d member => about d (List.mem_append_right _ (by simpa using member))) signed
            identified (fun d member => by rw [accepted]; exact fresh d member) distinct (k + 1)
          exact ⟨done', waiting', by simpa using whole, reached⟩
      | deliver delivery =>
          have deliveries : deliveriesOf (.deliver delivery :: later) =
              delivery :: deliveriesOf later := rfl
          rw [deliveries] at about signed identified fresh distinct ⊢
          rw [List.map_cons, List.nodup_cons] at distinct
          have delivered := progress.deliver (signed delivery List.mem_cons_self)
            (identified delivery List.mem_cons_self) (fresh delivery List.mem_cons_self)
          have accepted : acceptedIds (processWebhookDelivery P delivery db).2 =
              acceptedIds db ++ [delivery.eventId] := by
            rw [delivered.accepted, progress.accepted]
            simp
          obtain ⟨done', waiting', whole, reached⟩ := ih delivered
            (fun d member => about d (by simpa using member))
            (fun d member => signed d (List.mem_cons_of_mem _ member))
            (fun d member => identified d (List.mem_cons_of_mem _ member))
            (fun d member => by
              rw [accepted, List.mem_append, List.mem_singleton, not_or]
              refine ⟨fresh d (List.mem_cons_of_mem _ member), fun same => ?_⟩
              exact distinct.1 (same ▸ List.mem_map_of_mem member))
            distinct.2 k
          exact ⟨done', waiting', by simpa using whole, reached⟩

/-- A run that makes some of the deliveries from the start. -/
theorem Expected.run {deliveries : List WebhookDelivery}
    (expected : Expected P db providerOrderId order deliveries) (ticks : Nat → WorkerTick)
    {events : List WebhookEvent} (delivers : (deliveriesOf events).Perm deliveries) (k : Nat) :
    ∃ done waiting, done ++ waiting = deliveriesOf events ∧
      Progress providerOrderId order (acceptedIds db) done waiting
        (runWebhooks P ticks k events db) := by
  have start : Progress providerOrderId order (acceptedIds db) [] [] db :=
    ⟨expected.running, expected.idle, by simp, order, expected.found, rfl, rfl⟩
  have member {d : WebhookDelivery} (present : d ∈ deliveriesOf events) : d ∈ deliveries :=
    delivers.mem_iff.mp present
  exact start.run expected.named expected.live ticks (fun d present => expected.about d (member present))
    (fun d present => expected.signed d (member present))
    (fun d present => expected.identified d (member present))
    (fun d present => expected.fresh d (member present))
    ((delivers.map WebhookDelivery.eventId).nodup_iff.mpr expected.distinct) k

/-- The status after a run that completes a set: the first terminal event's. -/
theorem statusOf_of_completes {deliveries : List WebhookDelivery}
    (expected : Expected P db providerOrderId order deliveries) {ticks : Nat → WorkerTick}
    {events : List WebhookEvent} (completes : Completes P db deliveries ticks events) :
    statusOf order.id (runWebhooks P ticks 0 events db) =
      some ((firstTerminal (deliveriesOf events)).getD order.status) := by
  obtain ⟨done, waiting, whole, progress⟩ := expected.run ticks completes.delivers 0
  have listed := progress.listed
  rw [completes.processes] at listed
  obtain rfl : waiting = [] := List.map_eq_nil_iff.mp listed.symm
  rw [List.append_nil] at whole
  obtain ⟨now, found, same, settled⟩ := progress.settled
  rw [statusOf, ← same, getOrder_of_found found, Option.map_some, settled, whole]

theorem runWebhooks_concat_tick (ticks : Nat → WorkerTick) (events : List WebhookEvent) (k : Nat)
    (db : Database) :
    ∃ j, runWebhooks P ticks k (events ++ [.tick]) db =
      (ticks j).run P (runWebhooks P ticks k events db) := by
  induction events generalizing k db with
  | nil => exact ⟨k, rfl⟩
  | cons event later ih =>
      cases event with
      | tick => exact ih (k + 1) ((ticks k).run P db)
      | deliver delivery => exact ih k (processWebhookDelivery P delivery db).2

/-- The deliveries in any order and then one tick complete the set. -/
theorem completes_of_perm {deliveries ordered : List WebhookDelivery}
    (expected : Expected P db providerOrderId order deliveries)
    (perm : ordered.Perm deliveries) (ticks : Nat → WorkerTick) :
    Completes P db deliveries ticks (ordered.map .deliver ++ [.tick]) ∧
      deliveriesOf (ordered.map .deliver ++ [.tick]) = ordered := by
  have delivered : deliveriesOf (ordered.map .deliver) = ordered := by
    rw [deliveriesOf, List.filterMap_map]
    exact List.filterMap_some
  have whole : deliveriesOf (ordered.map .deliver ++ [.tick]) = ordered := by
    rw [deliveriesOf, List.filterMap_append, ← deliveriesOf, delivered]
    exact List.append_nil ordered
  have perm' : (deliveriesOf (ordered.map .deliver)).Perm deliveries := by rwa [delivered]
  refine ⟨⟨by rwa [whole], ?_⟩, whole⟩
  obtain ⟨done, waiting, parts, progress⟩ := expected.run ticks perm' 0
  obtain ⟨j, last⟩ := runWebhooks_concat_tick (P := P) ticks (ordered.map .deliver) 0 db
  rw [last]
  have about : ∀ d ∈ waiting, IsFor providerOrderId d.payload := by
    intro d present
    have member : d ∈ ordered := by
      rw [← delivered, ← parts]
      exact List.mem_append_right _ present
    exact expected.about d (perm.mem_iff.mp member)
  exact (progress.tick expected.named expected.live about (ticks j)).listed

end Runs

/-- For every order that is not settled and every set of signed events for it: its
status once all are delivered and processed is the same for every order of delivery
and every division into ticks, and CAPTURED if one of them captures it, if and only
if the set does not have both an event that captures and one that fails. -/
theorem webhook_outcome_order_independent_iff (P : Platform) (db : Database)
    (providerOrderId : String) (order : OrderRecord) (deliveries : List WebhookDelivery)
    (expected : Expected P db providerOrderId order deliveries) :
    (∀ ticks ticks' events events', Completes P db deliveries ticks events →
        Completes P db deliveries ticks' events' →
      statusOf order.id (runWebhooks P ticks 0 events db) =
          statusOf order.id (runWebhooks P ticks' 0 events' db) ∧
        ((∃ d ∈ deliveries, d.eventType = "payment.captured") →
          statusOf order.id (runWebhooks P ticks 0 events db) = some .captured)) ↔
      ¬ ((∃ d ∈ deliveries, d.eventType = "payment.captured") ∧
        ∃ d ∈ deliveries, d.eventType = "payment.failed") := by
  constructor
  · rintro independent ⟨captured, failing, member, fails⟩
    obtain ⟨earlier, later, rfl⟩ := List.append_of_mem member
    -- The failure arrives first.
    have ticks : Nat → WorkerTick := fun _ => timelessTick
    obtain ⟨completes, whole⟩ :=
      completes_of_perm expected List.perm_middle.symm ticks
    have settled := statusOf_of_completes expected completes
    rw [(independent ticks ticks _ _ completes completes).2 captured, whole, firstTerminal,
      List.findSome?_cons, terminalOf, fails] at settled
    cases settled
  · intro exclusive ticks ticks' events events' completes completes'
    have settled := statusOf_of_completes expected completes
    have settled' := statusOf_of_completes expected completes'
    rw [settled, settled']
    by_cases captured : ∃ d ∈ deliveries, d.eventType = "payment.captured"
    · have unfailed : ∀ d ∈ deliveries, d.eventType ≠ "payment.failed" :=
        fun d member fails => exclusive ⟨captured, d, member, fails⟩
      have outcome {events : List WebhookEvent} (perm : (deliveriesOf events).Perm deliveries) :
          firstTerminal (deliveriesOf events) = some .captured := by
        obtain ⟨d, member, captures⟩ := captured
        exact firstTerminal_of_no_failure (fun d present => unfailed d (perm.mem_iff.mp present))
          ⟨d, perm.mem_iff.mpr member, captures⟩
      rw [outcome completes.delivers, outcome completes'.delivers]
      exact ⟨rfl, fun _ => rfl⟩
    · have outcome {events : List WebhookEvent} (perm : (deliveriesOf events).Perm deliveries) :
          firstTerminal (deliveriesOf events) =
            if ∃ d ∈ deliveries, d.eventType = "payment.failed" then some .failed else none := by
        rw [firstTerminal_of_no_capture fun d present captures =>
          captured ⟨d, perm.mem_iff.mp present, captures⟩]
        simp only [perm.mem_iff]
      rw [outcome completes.delivers, outcome completes'.delivers]
      exact ⟨rfl, fun present => absurd present captured⟩

namespace Fixture

open Actl.Fixture (platform decided start hmacSha256)

/-- The order of the decided purchase, at the provider. -/
def pendingOrder : OrderRecord where
  id := "ord_1"
  mandateId := "mdt_1"
  decisionId := "dec_1"
  quoteId := "qte_1"
  status := .created
  amountMinor := 840000
  currency := "INR"
  attemptNo := 1
  idempotencyKey := "ik_1"
  providerOrderId := some "order_1"
  providerPaymentId := none
  declineReason := none
  createdAt := start

def pending : Database := { decided with orders := ⟨[pendingOrder], by decide⟩ }

/-- A signed event about a payment of the order. -/
def event (eventId eventType paymentId : String) : WebhookDelivery :=
  let payload : JSONValue := .obj [("event", .str eventType), ("payload", .obj [("payment",
    .obj [("entity", .ofStrings [("id", paymentId), ("order_id", "order_1")])])])]
  { rawBody := Audit.jcs payload
    signature := hex (hmacSha256 (encode "simulator-webhook-secret") (Audit.jcs payload)).val
    eventId := eventId
    eventType := eventType
    payload := payload }

/-- A payment that was declined, and the one it was attempted again with. -/
def attempts : List WebhookDelivery :=
  [event "evt_1" "payment.failed" "pay_1", event "evt_2" "payment.captured" "pay_2"]

theorem expected_attempts : Expected platform pending "order_1" pendingOrder attempts where
  named := by decide
  found := rfl
  live := rfl
  running := rfl
  idle := rfl
  signed := by decide +kernel
  about := by
    intro d member
    rcases List.mem_pair.mp member with rfl | rfl
    · rfl
    · rfl
  identified := by decide
  fresh := by decide
  distinct := by decide

/-- The outcome of the two attempts depends on which event arrives first. -/
theorem attempts_depend_on_order :
    ¬ ∀ ticks ticks' events events', Completes platform pending attempts ticks events →
        Completes platform pending attempts ticks' events' →
      statusOf pendingOrder.id (runWebhooks platform ticks 0 events pending) =
          statusOf pendingOrder.id (runWebhooks platform ticks' 0 events' pending) ∧
        ((∃ d ∈ attempts, d.eventType = "payment.captured") →
          statusOf pendingOrder.id (runWebhooks platform ticks 0 events pending) =
            some .captured) := by
  have decides := webhook_outcome_order_independent_iff platform pending "order_1" pendingOrder
    attempts expected_attempts
  intro independent
  exact decides.mp independent ⟨⟨_, .tail _ (.head _), rfl⟩, ⟨_, .head _, rfl⟩⟩

/-- Delivered as they happened, the decline and the capture end the order as FAILED;
the other way round they capture it. -/
theorem capture_after_decline_lost :
    (∃ d ∈ attempts, d.eventType = "payment.captured") ∧
      Completes platform pending attempts (fun _ => timelessTick)
        (attempts.map .deliver ++ [.tick]) ∧
      statusOf "ord_1" (runWebhooks platform (fun _ => timelessTick) 0
        (attempts.map .deliver ++ [.tick]) pending) = some .failed ∧
      Completes platform pending attempts (fun _ => timelessTick)
        (attempts.reverse.map .deliver ++ [.tick]) ∧
      statusOf "ord_1" (runWebhooks platform (fun _ => timelessTick) 0
        (attempts.reverse.map .deliver ++ [.tick]) pending) = some .captured := by
  have forward := completes_of_perm expected_attempts (.refl attempts) fun _ => timelessTick
  have backward := completes_of_perm expected_attempts attempts.reverse_perm fun _ => timelessTick
  have failed := statusOf_of_completes expected_attempts forward.1
  have captured := statusOf_of_completes expected_attempts backward.1
  rw [forward.2] at failed
  rw [backward.2] at captured
  exact ⟨⟨_, .tail _ (.head _), rfl⟩, forward.1, failed, backward.1, captured⟩

end Fixture

end Actl.Payments
