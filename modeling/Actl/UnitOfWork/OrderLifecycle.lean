import Actl.Runs.Fixture
import Actl.UnitOfWork.OrderRuns

/-!
# The order lifecycle under concurrency

In every run on an order in which each session finds what it must when it gets the row
lock (`OrderTask.Finds`), a status CAPTURED or FAILED that has been committed stays,
except that a refund takes CAPTURED to FAILED (`order_terminal_status_stable`).

The condition is needed. `verify_and_capture` writes CAPTURED over the FAILED of a
webhook, and a tick of the reconciler writes FAILED over the CAPTURED that was committed
after it had read the order.
-/

set_option autoImplicit false

namespace Actl.UnitOfWork

open Foundation (Sessions Turn)
open Foundation.Sessions (AdmissibleRun Disciplined disciplined_initial)
open Gate (Compensation)

/-! ## Runs -/

instance decidableOrderFinds (task : OrderTask) (read written : OrderStatus) (now : Option OrderStatus) :
    Decidable (task.Finds read written now) :=
  inferInstanceAs (Decidable (_ ∨ _ ∨ _))

instance decidableOrderEnters (task : OrderTask) (memory : Memory) (now : Option OrderStatus) :
    (statement : Statement) → Decidable (task.Enters statement memory now)
  | .setOrderPayment orderId status _ _ =>
      inferInstanceAs (Decidable (∀ kept ∈ memory.order? orderId, kept.status ≠ status →
        task.Finds kept.status status now))
  | .now | .getMandate _ | .getMandateForUpdate _ | .setMandateStatus .. | .getDecision _
  | .getQuote _ | .currentVersion | .listForRefId _ | .listForAccount _ | .addLedgerEntry _
  | .appendEntry _ | .getOrder _ | .getOrderByProviderOrderId _ | .listNonTerminalOlderThan _
  | .updateSaga .. | .listUnprocessed | .markProcessed .. | .getHaltState | .fetchPayments _
  | .capturePayment .. | .commit => .isTrue trivial

/-- Sessions on the order, and what they have committed. -/
abbrev OrderRun : Type :=
  Sessions Statement Statement.Reply Database Memory Lock OrderTask (Except Failure Unit)

namespace OrderRun

variable (P : Platform) (orderId : String)

/-- Each session finds what it must when it gets the row lock of the order. -/
def Admissible (state : OrderRun) (turns : List (Turn StatementInput OrderTask)) : Prop :=
  AdmissibleRun (engine P) (OrderTask.code P orderId) (orderStatus orderId) (.order orderId)
    (fun task statement memory now => task.Enters statement memory now) state turns

instance (state : OrderRun) (turns : List (Turn StatementInput OrderTask)) :
    Decidable (state.Admissible P orderId turns) :=
  inferInstanceAs (Decidable (AdmissibleRun ..))

/-- The state after some turns. -/
def after (state : OrderRun) (turns : List (Turn StatementInput OrderTask)) : OrderRun :=
  state.run (engine P) (OrderTask.code P orderId) turns

/-- Every session keeps to the lock. -/
def Orderly (state : OrderRun) : Prop :=
  state.Disciplined (engine P) (orderStatus orderId) (.order orderId)
    (fun task statement memory now => task.Enters statement memory now)
    (fun task now later => task.Change now later)

variable {P orderId} {state : OrderRun}

theorem Orderly.run (orderly : state.Orderly P orderId)
    {turns : List (Turn StatementInput OrderTask)} (admissible : state.Admissible P orderId turns) :
    (state.after P orderId turns).Orderly P orderId := by
  induction turns generalizing state with
  | nil => exact orderly
  | cons turn turns ih =>
      exact ih (orderly.apply (orderTask_safe P orderId) admissible.1).1 admissible.2

theorem after_append (before later : List (Turn StatementInput OrderTask)) :
    state.after P orderId (before ++ later) =
      (state.after P orderId before).after P orderId later :=
  Sessions.run_append ..

theorem admissible_append {before later : List (Turn StatementInput OrderTask)} :
    state.Admissible P orderId (before ++ later) ↔ state.Admissible P orderId before ∧
      (state.after P orderId before).Admissible P orderId later :=
  Sessions.admissibleRun_append ..

end OrderRun

/-- A change of an order that is CAPTURED or FAILED. -/
theorem OrderTask.Change.settled {task : OrderTask} {status : OrderStatus}
    {later : Option OrderStatus} (change : task.Change (some status) later)
    (settled : OrderStatus.isSettled status = true) :
    later = some status ∨ (status = .captured ∧ later = some .failed ∧ task.isRefund = true) := by
  rcases change with same | ⟨written, rfl, ⟨refund, rfl⟩ | kept⟩
  · exact .inl same
  · cases status with
    | captured => exact .inr ⟨rfl, rfl, refund⟩
    | failed => exact .inl rfl
    | _ => cases settled
  · rw [kept status rfl settled]
    exact .inl rfl

/-- Any number of captures, webhook ticks, reconciler ticks, voiding compensations and
refunds of one order, interleaved statement by statement, as long as each finds what it
must when it gets the row lock: an order that is committed as CAPTURED or FAILED stays
so, except that a refund takes it from CAPTURED to FAILED. -/
theorem order_terminal_status_stable (P : Platform) (orderId : String) (db : Database)
    (turns : List (Turn StatementInput OrderTask))
    (admissible : OrderRun.Admissible P orderId (.initial db) turns) :
    ∀ before turn later, turns = before ++ turn :: later → ∀ status,
      orderStatus orderId (OrderRun.after P orderId (.initial db) before).store = some status →
      status = .captured ∨ status = .failed →
      let next := orderStatus orderId
        (OrderRun.after P orderId (.initial db) (before ++ [turn])).store
      next = some status ∨
        (status = .captured ∧ next = some .failed ∧ ∃ id input session c, turn = .step id input ∧
          (OrderRun.after P orderId (.initial db) before).sessions id = some session ∧
          session.task = .refund c) := by
  intro before turn later split status now terminal
  rw [split, OrderRun.admissible_append] at admissible
  have orderly : (OrderRun.after P orderId (.initial db) before).Orderly P orderId :=
    OrderRun.Orderly.run (disciplined_initial ..) admissible.1
  have settled : OrderStatus.isSettled status = true := by
    rcases terminal with rfl | rfl
    · rfl
    · rfl
  obtain ⟨-, changes⟩ := orderly.apply (orderTask_safe P orderId) admissible.2.1
  rw [OrderRun.after_append]
  rcases changes with same | ⟨id, input, session, turns, found, change⟩
  · exact .inl (same.trans now)
  · rw [now] at change
    rcases change.settled settled with kept | ⟨captured, failed, refund⟩
    · exact .inl kept
    · refine .inr ⟨captured, failed, id, input, session, ?_⟩
      cases task : session.task with
      | refund c => exact ⟨c, turns, found, rfl⟩
      | _ =>
          rw [task] at refund
          cases refund

/-! ## Concrete runs -/

section Concrete

open Fixture (platform decided)

/-- The order of the first purchase, waiting for its payment. -/
def waiting : OrderRecord where
  id := "ord_1"
  mandateId := "mdt_1"
  decisionId := "dec_1"
  quoteId := "qte_1"
  status := .created
  amountMinor := 420000
  currency := "INR"
  attemptNo := 1
  idempotencyKey := "ik_67e34bdc91084ae9992f70878d53edfc"
  providerOrderId := some "order_1"
  providerPaymentId := none
  declineReason := none
  createdAt := Fixture.start

/-- A webhook reports that the first payment was declined. -/
def declinedEvent : WebhookEventRecord where
  providerEventId := "evt_1"
  eventType := "payment.failed"
  signatureValid := true
  payload := .obj [("payload", .obj [("payment", .obj [("entity",
    .ofStrings [("order_id", "order_1"), ("id", "pay_0")])])])]
  processedAt := none

/-- The store with the order, and with these webhook events. -/
def orderStore (events : List WebhookEventRecord)
    (unique : (events.map WebhookEventRecord.providerEventId).Nodup) : Database :=
  { decided with
    orders := ⟨[waiting], by decide⟩
    webhookEvents := ⟨events, by simpa using unique⟩ }

/-- Five minutes later, when the provider reports the declined payment. -/
def orderInput : StatementInput :=
  ⟨none, Fixture.start + 300000000, .ok [⟨"pay_0", .failed, none⟩], .ok ()⟩

/-- A session for the task, and so many of its statements. -/
def orderSession (id : Nat) (task : OrderTask) (statements : Nat) :
    List (Turn StatementInput OrderTask) :=
  .start id task :: List.replicate statements (.step id orderInput)

def captureTask : OrderTask :=
  .verifyAndCapture ⟨"order_1", "pay_1",
    "40f286445c15d34de201ce14fd13cb570ebd13eb8236590fabc98b1401c1aa57", 420000, "web_buyer",
    "trc_2"⟩

def webhookTask : OrderTask := .processUnprocessedWebhooks fun _ => "trc_3"

def reconcileTask : OrderTask := .reconcileNonTerminalOrders fun _ => "trc_4"

def orderCompensation : Compensation :=
  ⟨"mdt_1", 420000, "ik_67e34bdc91084ae9992f70878d53edfc", "system", "trc_5", "payment_declined"⟩

/-- The committed status of the order after a run. -/
def statusAfter (db : Database) (turns : List (Turn StatementInput OrderTask)) :
    Option OrderStatus :=
  orderStatus "ord_1" (OrderRun.after platform "ord_1" (.initial db) turns).store

/-- The capture commits, and then a webhook, the reconciler and a voiding compensation
come for the order. -/
def inOrder : List (Turn StatementInput OrderTask) :=
  orderSession 0 captureTask 6 ++ orderSession 1 webhookTask 8 ++ orderSession 2 reconcileTask 5 ++
    orderSession 3 (.voidOrder orderCompensation) 9

def declinedStore : Database := orderStore [declinedEvent] (by simp)

/-- None of them finds anything to write over. -/
theorem captured_order_stays :
    statusAfter declinedStore (inOrder ++ [.step 3 orderInput]) ≠ some .created := by
  have evaluated : OrderRun.Admissible platform "ord_1" (.initial declinedStore)
      (inOrder ++ [.step 3 orderInput]) ∧ statusAfter declinedStore inOrder = some .captured := by
    decide +kernel
  rcases order_terminal_status_stable platform "ord_1" declinedStore _ evaluated.1 inOrder
    (.step 3 orderInput) [] rfl .captured evaluated.2 (.inl rfl) with kept | ⟨-, failed, -⟩
  · rw [statusAfter, kept]
    decide
  · rw [statusAfter, failed]
    decide

/-- The webhook of the declined payment fails the order, and then the second payment is
captured. -/
def secondPayment : List (Turn StatementInput OrderTask) :=
  orderSession 0 webhookTask 9 ++ orderSession 1 captureTask 6

/-- The reconciler has read the order and the declined payment when the second payment
is captured. -/
def staleReconciler : List (Turn StatementInput OrderTask) :=
  orderSession 0 reconcileTask 4 ++ orderSession 1 captureTask 6

/-- FAILED becomes CAPTURED without any interleaving, and CAPTURED becomes FAILED
without any refund. -/
theorem order_terminal_status_broken :
    (statusAfter declinedStore (orderSession 0 webhookTask 9) = some .failed ∧
      statusAfter declinedStore secondPayment = some .captured) ∧
    (statusAfter (orderStore [] (by simp)) staleReconciler = some .captured ∧
      statusAfter (orderStore [] (by simp))
        (staleReconciler ++ List.replicate 4 (.step 0 orderInput)) = some .failed) := by
  decide +kernel

end Concrete

end Actl.UnitOfWork
