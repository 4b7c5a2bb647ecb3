import Actl.UnitOfWork.Alone
import Actl.UnitOfWork.OrderWriters

/-!
# Sessions on one order

The row lock of an order protects its status: a session writes the status only
under the lock, and keeps the lock until it ends. What it does not protect is what a
session has read before. The voiding compensation and the ticks of the worker go by
a status that they have read without the lock, and `verify_and_capture` goes by
none.

`OrderTask.Finds` says what a session must find when it gets the lock to write a
status, and `OrderTask.Change` what it then makes of the status. Every task keeps to
this (`orderTask_safe`).
-/

set_option autoImplicit false

namespace Actl.UnitOfWork

open Foundation (Code Program Engine Sessions Table)
open Foundation.Code (ConfinedCode confined_bind confined_perform confined_pure confined_throw
  confined_tryCatch confined_outcome)
open Foundation.Sessions (Inside Outside)
open Gate (Compensation)
open Payments (ProviderPayment)

/-! ## What a session has written of an order -/

/-- The writes of an order, each with its status unless that was left alone. -/
def orderWrites (orderId : String) (memory : Memory) : List (Option OrderStatus) :=
  memory.writes.filterMap fun w => match w with
    | .order orderId' status _ _ => if orderId' = orderId then some status else none
    | _ => none

def Statement.writesOrder : Statement → Bool
  | .setOrderPayment .. => true
  | _ => false

/-- What has been written of the orders is the same, and the rows the session had it
still has. -/
structure Memory.Fixed (memory after : Memory) : Prop where
  writes : ∀ orderId, orderWrites orderId after = orderWrites orderId memory
  rows : ∀ orderId o, memory.order? orderId = some o → after.order? orderId = some o

namespace Memory.Fixed

variable {memory after later : Memory}

theorem refl (memory : Memory) : memory.Fixed memory := ⟨fun _ => rfl, fun _ _ found => found⟩

theorem trans (first : memory.Fixed after) (second : after.Fixed later) : memory.Fixed later :=
  ⟨fun orderId => (second.writes orderId).trans (first.writes orderId),
    fun orderId o found => second.rows orderId o (first.rows orderId o found)⟩

end Memory.Fixed

section Memory

variable {memory : Memory}

theorem id_of_order? {orderId : String} {o : OrderRecord}
    (found : memory.order? orderId = some o) : o.id = orderId := by
  have mine := List.find?_some (p := fun o : OrderRecord => decide (o.id = orderId)) found
  exact of_decide_eq_true mine

theorem orderWrites_write (orderId : String) (w : Write) :
    orderWrites orderId (memory.write w) = orderWrites orderId memory ++
      match w with
      | .order orderId' status _ _ => if orderId' = orderId then [status] else []
      | _ => [] := by
  rw [orderWrites, Memory.write, List.filterMap_append, ← orderWrites]
  congr 1
  cases w with
  | order orderId' status providerPaymentId declineReason =>
      by_cases mine : orderId' = orderId <;> simp [mine]
  | _ => rfl

theorem fixed_write {w : Write} (other : ∀ orderId status paymentId reason,
    w ≠ .order orderId status paymentId reason) : memory.Fixed (memory.write w) := by
  refine ⟨fun orderId => ?_, fun orderId o found => found⟩
  rw [orderWrites_write]
  cases w with
  | order orderId' status paymentId reason => exact absurd rfl (other orderId' status paymentId reason)
  | _ => exact List.append_nil _

theorem fixed_loadMandate (row : Option MandateRow) :
    memory.Fixed (memory.loadMandate row).2 := by
  unfold Memory.loadMandate
  split
  next => exact .refl memory
  next =>
    split
    next => exact .refl memory
    next => exact ⟨fun _ => rfl, fun _ _ found => found⟩

theorem fixed_setMandateStatus (mandateId : String) (status : Mandates.MandateStatus) :
    memory.Fixed (memory.setMandateStatus mandateId status) := by
  unfold Memory.setMandateStatus
  split
  next => exact .refl memory
  next =>
    split
    next => exact .refl memory
    next =>
      refine Memory.Fixed.trans ?_ (fixed_write fun _ _ _ _ same => by cases same)
      exact ⟨fun _ => rfl, fun _ _ found => found⟩

theorem fixed_loadOrder (o : OrderRecord) : memory.Fixed (memory.loadOrder o).2 := by
  unfold Memory.loadOrder
  split
  next => exact .refl memory
  next =>
    refine ⟨fun _ => rfl, fun orderId kept found => ?_⟩
    rw [Memory.order?, List.find?_append, ← Memory.order?, found]
    rfl

/-- The row that is answered is the one the session has from then on. -/
theorem order?_loadOrder (o : OrderRecord) :
    (memory.loadOrder o).1.id = o.id ∧
      (memory.loadOrder o).2.order? o.id = some (memory.loadOrder o).1 := by
  unfold Memory.loadOrder
  split
  next kept found => exact ⟨id_of_order? found, found⟩
  next absent =>
    refine ⟨rfl, ?_⟩
    dsimp only
    rw [Memory.order?, List.find?_append, ← Memory.order?, absent]
    simp

theorem fixed_loadOrders (os : List OrderRecord) :
    memory.Fixed (Memory.loadOrders os memory).2 := by
  induction os generalizing memory with
  | nil => exact .refl memory
  | cons o os ih => exact (fixed_loadOrder o).trans ih

/-- The rows that are answered, one for each row of the query. -/
theorem loadOrders_spec {good : OrderRecord → Prop} (os : List OrderRecord)
    (kept : ∀ o ∈ memory.orders, good o) (fine : ∀ o ∈ os, good o) :
    (Memory.loadOrders os memory).1.map OrderRecord.id = os.map OrderRecord.id ∧
      ∀ o ∈ (Memory.loadOrders os memory).1, good o ∧
        (Memory.loadOrders os memory).2.order? o.id = some o := by
  induction os generalizing memory with
  | nil => exact ⟨rfl, fun _ member => by cases member⟩
  | cons o os ih =>
      obtain ⟨id, found⟩ := @order?_loadOrder memory o
      have here : good (memory.loadOrder o).1 ∧ ∀ o' ∈ (memory.loadOrder o).2.orders, good o' := by
        unfold Memory.loadOrder
        split
        next row held => exact ⟨kept _ (List.mem_of_find?_eq_some held), kept⟩
        next =>
          refine ⟨fine o List.mem_cons_self, fun o' member => ?_⟩
          rcases List.mem_append.mp member with old | new
          · exact kept o' old
          · cases List.mem_singleton.mp new
            exact fine o List.mem_cons_self
      obtain ⟨ids, rest⟩ := ih here.2 fun o' member => fine o' (List.mem_cons_of_mem o member)
      simp only [Memory.loadOrders, List.map_cons]
      refine ⟨by rw [id, ids], fun o' member => ?_⟩
      rcases List.mem_cons.mp member with rfl | later
      · refine ⟨here.1, ?_⟩
        rw [id]
        exact (fixed_loadOrders os).rows _ _ found
      · exact rest o' later

/-- The order is in the session's rows with its new status, and its write is noted. -/
theorem setOrderPayment_spec {orderId : String} {kept : OrderRecord} (status : OrderStatus)
    (providerPaymentId declineReason : Option String)
    (found : memory.order? orderId = some kept) :
    let after := memory.setOrderPayment orderId status providerPaymentId declineReason
    (∀ other, orderWrites other after = orderWrites other memory ++
        if orderId = other then [if kept.status = status then none else some status] else []) ∧
      (∃ o, after.order? orderId = some o ∧ o.status = status) ∧
      ∀ other o, other ≠ orderId → memory.order? other = some o → after.order? other = some o := by
  simp only [Memory.setOrderPayment, found]
  have rows : ∀ other, (memory.orders.map fun o =>
      if o.id = orderId then
        { o with
          status := status
          providerPaymentId := providerPaymentId.or o.providerPaymentId
          declineReason := declineReason.or o.declineReason }
      else o).find? (fun o => o.id = other) = (memory.order? other).map fun o =>
      if o.id = orderId then
        { o with
          status := status
          providerPaymentId := providerPaymentId.or o.providerPaymentId
          declineReason := declineReason.or o.declineReason }
      else o := by
    intro other
    rw [List.find?_map, Memory.order?]
    congr 2
    funext o
    simp only [Function.comp_apply]
    split <;> rfl
  refine ⟨fun other => ?_, ?_, fun other o different found' => ?_⟩
  · rw [orderWrites_write]
    rfl
  · have mine : kept.id = orderId := id_of_order? found
    refine ⟨_, (rows orderId).trans (by rw [found]; rfl), ?_⟩
    simp [mine]
  · have id : o.id = other := id_of_order? found'
    refine (rows other).trans ?_
    rw [found', Option.map_some, id, if_neg different]

end Memory

section Reads

variable {P : Platform} {memory after : Memory} {input : StatementInput} {db : Database}

theorem getOrder_ok {orderId : String} {o : OrderRecord}
    (done : Statement.perform P input db memory (.getOrder orderId) = (.ok (some o), after)) :
    after.order? orderId = some o := by
  simp only [Statement.perform] at done
  split at done
  next kept held =>
    cases done
    exact held
  next =>
    split at done
    next => cases done
    next found present =>
      cases done
      obtain ⟨id, row⟩ := @order?_loadOrder memory found
      rw [(Table.get?_mem present).2] at row
      exact row

theorem getOrderByProviderOrderId_ok {providerOrderId : String} {o : OrderRecord}
    (done : Statement.perform P input db memory (.getOrderByProviderOrderId providerOrderId) =
      (.ok (some o), after)) : after.order? o.id = some o := by
  simp only [Statement.perform] at done
  split at done
  next => cases done
  next => cases done
  next found present =>
    cases done
    obtain ⟨id, row⟩ := @order?_loadOrder memory found
    rw [id]
    exact row

end Reads

/-- Every other statement, short of the commit, leaves what is written of the orders as
it is. -/
theorem perform_fixed (P : Platform) {statement : Statement} (other : statement.writesOrder = false)
    (open' : statement.isCommit = false) (input : StatementInput) (db : Database)
    (memory : Memory) : memory.Fixed (statement.perform P input db memory).2 := by
  cases statement with
  | getMandate mandateId =>
      simp only [Statement.perform]
      split
      next => exact .refl memory
      next => exact fixed_loadMandate _
  | getMandateForUpdate mandateId => exact fixed_loadMandate _
  | setMandateStatus mandateId status => exact fixed_setMandateStatus mandateId status
  | addLedgerEntry record => exact fixed_write fun _ _ _ _ same => by cases same
  | appendEntry request => exact fixed_write fun _ _ _ _ same => by cases same
  | getOrder orderId =>
      simp only [Statement.perform]
      split
      next => exact .refl memory
      next =>
        split
        next => exact .refl memory
        next => exact fixed_loadOrder _
  | getOrderByProviderOrderId providerOrderId =>
      simp only [Statement.perform]
      split
      next => exact .refl memory
      next => exact .refl memory
      next => exact fixed_loadOrder _
  | listNonTerminalOlderThan cutoff => exact fixed_loadOrders _
  | setOrderPayment orderId status providerPaymentId declineReason => cases other
  | updateSaga sagaId step status =>
      simp only [Statement.perform]
      split
      next => exact .refl memory
      next => exact fixed_write fun _ _ _ _ same => by cases same
  | markProcessed providerEventId processedAt =>
      simp only [Statement.perform]
      split
      next => exact .refl memory
      next => exact fixed_write fun _ _ _ _ same => by cases same
  | commit => cases open'
  | _ => exact .refl memory

theorem execute_fixed (P : Platform) {statement : Statement} (other : statement.writesOrder = false)
    (open' : statement.isCommit = false) (input : StatementInput) (db : Database)
    (memory : Memory) : memory.Fixed (statement.execute P input db memory).2 := by
  unfold Statement.execute
  split
  next => exact .refl memory
  next => exact perform_fixed P other open' input db memory

/-! ## Tasks -/

/-- What sessions are there for. The order is the same for the three that are about
one; a tick is about all orders. -/
inductive OrderTask where
  | verifyAndCapture (args : CaptureArgs)
  | processUnprocessedWebhooks (traceId : Nat → String)
  | reconcileNonTerminalOrders (traceId : Nat → String)
  | voidOrder (c : Compensation)
  | refund (c : Compensation)

namespace OrderTask

/-- The transaction of a task. -/
def code (P : Platform) (orderId : String) : OrderTask → Work Unit
  | .verifyAndCapture args => UnitOfWork.verifyAndCapture P args orderId
  | .processUnprocessedWebhooks traceId => UnitOfWork.processUnprocessedWebhooks P traceId
  | .reconcileNonTerminalOrders traceId => UnitOfWork.reconcileNonTerminalOrders P traceId
  | .voidOrder c => voidOrderAndReleaseReservation c orderId
  | .refund c => reverseSettlementAfterRefund c orderId

/-- The task goes by the status it has read. -/
def looks : OrderTask → Bool
  | .processUnprocessedWebhooks _ | .reconcileNonTerminalOrders _ | .voidOrder _ => true
  | _ => false

def isRefund : OrderTask → Bool
  | .refund _ => true
  | _ => false

end OrderTask

/-- The order is CAPTURED or FAILED. -/
def OrderStatus.isSettled (status : OrderStatus) : Bool :=
  status = .captured ∨ status = .failed

/-- What a task must find of the order when it gets the lock to write a status over the
one in its own row: the ones that look find the order as they have read it, or already
as they are about to write it; `verify_and_capture` finds it neither CAPTURED nor FAILED,
or already so. -/
def OrderTask.Finds (task : OrderTask) (read written : OrderStatus) (now : Option OrderStatus) :
    Prop :=
  task.isRefund = true ∨ now = some written ∨
    if task.looks then now = some read else ∀ status ∈ now, OrderStatus.isSettled status = false

def OrderTask.Enters (task : OrderTask) (statement : Statement) (memory : Memory)
    (now : Option OrderStatus) : Prop :=
  match statement with
  | .setOrderPayment orderId status _ _ =>
      ∀ kept ∈ memory.order? orderId, kept.status ≠ status → task.Finds kept.status status now
  | _ => True

/-- The status a task may give the order. -/
def OrderTask.Allows (task : OrderTask) (now : Option OrderStatus) (status : OrderStatus) : Prop :=
  (task.isRefund = true ∧ status = .failed) ∨
    ∀ before ∈ now, OrderStatus.isSettled before = true → before = status

/-- What a task does while it has the lock: it leaves the status, or gives the order
one that it may. -/
def OrderTask.Change (task : OrderTask) (now later : Option OrderStatus) : Prop :=
  later = now ∨ ∃ status, later = now.map (fun _ => status) ∧ task.Allows now status

/-! ## Careful code -/

/-- The statements a task may send: an order is written once, with a terminal status,
on the row that the session has; who looks has not seen it terminal; and a refund
writes FAILED. -/
def OrderTask.Sends (task : OrderTask) (statement : Statement) (memory : Memory) : Prop :=
  match statement with
  | .setOrderPayment orderId status _ _ =>
      orderWrites orderId memory = [] ∧ status.isTerminal = true ∧
        (task.isRefund = true → status = .failed) ∧
        ∃ kept, memory.order? orderId = some kept ∧
          (task.looks = true → kept.status.isTerminal = false)
  | _ => True

/-- Whatever is committed at each statement, the code sends what it may; it ends with the
commit, raises when the write of an order fails, and otherwise returns like this. -/
def Careful (P : Platform) {α : Type} (sends : Statement → Memory → Prop)
    (good : α → Memory → Prop) :
    Program Statement Statement.Reply (Except Failure α) → Memory → Prop
  | .done outcome, memory => ∀ value, outcome = .ok value → good value memory
  | .act statement next, memory =>
      sends statement memory ∧
      (statement.isCommit = true → ∀ reply, ∃ outcome, next reply = .done outcome) ∧
      (statement.writesOrder = true → ∀ failure, next (.error failure) = .done (.error failure)) ∧
      ∀ db input, Careful P sends good (next (statement.execute P input db memory).1)
        (statement.execute P input db memory).2

/-- The same before the commit. -/
def OrderTask.Within (task : OrderTask) (statement : Statement) (memory : Memory) : Prop :=
  statement.isCommit = false ∧ task.Sends statement memory

section Careful

variable {P : Platform} {α β : Type} {task : OrderTask} {memory : Memory}

theorem careful_pure {sends : Statement → Memory → Prop} {good : α → Memory → Prop} {value : α}
    (holds : good value memory) : Careful P sends good (pure value : Work α) memory := by
  intro value' same
  cases same
  exact holds

theorem careful_throw {sends : Statement → Memory → Prop} {good : α → Memory → Prop}
    (failure : Failure) : Careful P sends good (throw failure : Work α) memory := by
  intro value same
  cases same

theorem careful_send {sends : Statement → Memory → Prop} {statement : Statement}
    {good : statement.Value → Memory → Prop} (fine : sends statement memory)
    (holds : ∀ db input value after,
      statement.perform P input db memory = (.ok value, after) → good value after) :
    Careful P sends good (send statement) memory := by
  refine ⟨fine, fun _ reply => ⟨reply, rfl⟩, fun _ _ => rfl, fun db input value same => ?_⟩
  simp only [Statement.execute] at same ⊢
  split at same
  next => cases same
  next => exact holds db input value _ (Prod.ext same rfl)

/-- Code behind code that does not commit. -/
theorem careful_bind {sends : Statement → Memory → Prop} {good : β → Memory → Prop}
    {body : Work α} {rest : α → Work β}
    (weaker : ∀ statement memory, task.Within statement memory → sends statement memory)
    (first : Careful P task.Within (fun value after => Careful P sends good (rest value) after)
      body memory) :
    Careful P sends good (body >>= rest : Work β) memory := by
  rw [Code.bind_eq]
  induction body generalizing memory with
  | done outcome =>
      cases outcome with
      | ok value => exact first value rfl
      | error failure => exact fun value same => by cases same
  | act statement next ih =>
      obtain ⟨fine, -, raises, later⟩ := first
      refine ⟨weaker _ _ fine, fun commits => ?_, fun writes failure => ?_, fun db input =>
        ih _ (later db input)⟩
      · rw [fine.1] at commits
        cases commits
      · dsimp only
        rw [raises writes failure]
        rfl

theorem within_sends {task : OrderTask} (statement : Statement) (memory : Memory)
    (within : task.Within statement memory) : task.Sends statement memory := within.2

theorem within_within {task : OrderTask} (statement : Statement) (memory : Memory)
    (within : task.Within statement memory) : task.Within statement memory := within

theorem Careful.mono {sends : Statement → Memory → Prop} {good good' : α → Memory → Prop}
    {body : Program Statement Statement.Reply (Except Failure α)}
    (careful : Careful P sends good body memory)
    (weaker : ∀ value memory, good value memory → good' value memory) :
    Careful P sends good' body memory := by
  induction body generalizing memory with
  | done outcome => exact fun value same => weaker value memory (careful value same)
  | act statement next ih =>
      exact ⟨careful.1, careful.2.1, careful.2.2.1, fun db input => ih _ (careful.2.2.2 db input)⟩

/-- A statement that neither writes an order nor commits. -/
def Plain (statement : Statement) : Prop :=
  statement.writesOrder = false ∧ statement.isCommit = false

theorem within_of_plain {statement : Statement} (plain : Plain statement) :
    task.Within statement memory := by
  refine ⟨plain.2, ?_⟩
  cases statement with
  | setOrderPayment orderId status providerPaymentId declineReason => cases plain.1
  | _ => trivial

/-- Code of plain statements only. -/
theorem careful_of_plain {body : Program Statement Statement.Reply (Except Failure α)}
    (plain : body.Confined Plain) :
    Careful P task.Within (fun _ after => memory.Fixed after) body memory := by
  have all : ∀ now, memory.Fixed now →
      Careful P task.Within (fun _ after => memory.Fixed after) body now := by
    induction body with
    | done outcome => exact fun now fixed value _ => fixed
    | act statement next ih =>
        intro now fixed
        refine ⟨within_of_plain plain.1, fun commits => ?_, fun writes => ?_, fun db input =>
          ih _ (plain.2 _) _ (fixed.trans (execute_fixed P plain.1.1 plain.1.2 input db now))⟩
        · rw [plain.1.2] at commits
          cases commits
        · rw [plain.1.1] at writes
          cases writes
  exact all memory (.refl memory)

/-- A plain statement and what it answers. -/
theorem careful_read {statement : Statement} {good : statement.Value → Memory → Prop}
    (plain : Plain statement)
    (holds : ∀ db input value after, memory.Fixed after →
      statement.perform P input db memory = (.ok value, after) → good value after) :
    Careful P task.Within good (send statement) memory := by
  refine careful_send (within_of_plain plain) fun db input value after performed => ?_
  have fixed := perform_fixed P plain.1 plain.2 input db memory
  rw [performed] at fixed
  exact holds db input value after fixed performed

theorem careful_plain_send {statement : Statement} (plain : Plain statement) :
    Careful P task.Within (fun _ after => memory.Fixed after) (send statement) memory :=
  careful_of_plain (confined_perform plain _)

/-- The commit and what is left to say after it. -/
theorem careful_commit {rest : Unit → Work α} {outcome : Except Failure α}
    (ends : rest () = .done outcome) :
    Careful P task.Sends (fun _ _ => True) (send .commit >>= rest : Work α) memory := by
  rw [Code.bind_eq]
  refine ⟨trivial, fun _ reply => ?_, (fun writes => nomatch writes), fun db input => ?_⟩
  · cases reply with
    | ok value => exact ⟨outcome, ends⟩
    | error failure => exact ⟨.error failure, rfl⟩
  · generalize Statement.execute P .commit input db memory = replied
    obtain ⟨reply, after⟩ := replied
    cases reply with
    | ok value =>
        show Careful P task.Sends (fun _ _ => True) (rest ()) after
        rw [ends]
        exact fun _ _ => trivial
    | error failure => exact fun _ _ => trivial

theorem careful_commit_last :
    Careful P task.Sends (fun _ _ => True) (send .commit : Work Unit) memory :=
  careful_send trivial fun _ _ _ _ _ => trivial

end Careful

/-! ### The parts of the programs -/

section Parts

variable {P : Platform} {task : OrderTask} {memory : Memory}

theorem plain_callRemaining {maxAttempts : Nat} {statement : Statement} (plain : Plain statement)
    (remaining : Nat) : ConfinedCode Plain (callRemaining maxAttempts statement remaining) := by
  induction remaining with
  | zero => exact confined_throw _
  | succ remaining ih =>
      refine confined_tryCatch (confined_perform plain _) fun failure => ?_
      split
      next =>
        cases remaining with
        | zero => exact confined_throw _
        | succ remaining => exact ih
      next => exact confined_throw _

theorem plain_call {statement : Statement} (plain : Plain statement) :
    ConfinedCode Plain (callWithRetry P statement).outcome :=
  confined_outcome (plain_callRemaining plain _)

theorem plain_of_local {α : Type} {body : Work α} (quiet : ConfinedCode Local body) :
    ConfinedCode Plain body := by
  refine Program.Confined.mono quiet fun statement fine => ?_
  cases statement with
  | setOrderPayment => cases fine
  | commit => cases fine
  | _ => exact ⟨rfl, rfl⟩

theorem raiseIfHalted_careful {good : Unit → Memory → Prop} (holds : good () memory) :
    Careful P task.Within good raiseIfHalted memory := by
  refine careful_bind within_within
    (careful_send ⟨rfl, trivial⟩ fun db input state after performed => ?_)
  cases performed
  split
  next => exact careful_throw _
  next => exact careful_pure holds

/-- The session has the order in its rows with a terminal status, and nothing else of
what it has written or has has changed. -/
structure Wrote (orderId : String) (memory after : Memory) : Prop where
  row : ∃ o, after.order? orderId = some o ∧ o.status.isTerminal = true
  others : ∀ other, other ≠ orderId → orderWrites other after = orderWrites other memory
  rows : ∀ other o, other ≠ orderId → memory.order? other = some o → after.order? other = some o

/-- `transition_status` on an order that the session has not written yet. -/
theorem transitionStatus_careful {orderId : String} {status : OrderStatus}
    {providerPaymentId declineReason : Option String} (fresh : orderWrites orderId memory = [])
    (terminal : status.isTerminal = true) (refunds : task.isRefund = true → status = .failed)
    (looked : task.looks = true →
      ∃ kept, memory.order? orderId = some kept ∧ kept.status.isTerminal = false) :
    Careful P task.Within (fun _ after => Wrote orderId memory after)
      (transitionStatus orderId status providerPaymentId declineReason) memory := by
  refine careful_bind within_within
    (careful_read ⟨rfl, rfl⟩ fun db input found read fixed performed => ?_)
  cases found with
  | none => exact careful_throw _
  | some o =>
      have row := getOrder_ok performed
      refine careful_send ⟨rfl, (fixed.writes orderId).trans fresh, terminal, refunds, o, row,
        fun looks => ?_⟩ fun db input done after performed => ?_
      · obtain ⟨kept, held, open'⟩ := looked looks
        rw [fixed.rows orderId kept held] at row
        cases row
        exact open'
      · cases performed
        obtain ⟨writes, ⟨o', row', status'⟩, rows⟩ := setOrderPayment_spec status providerPaymentId
          declineReason row
        refine ⟨⟨o', row', by rw [status', terminal]⟩, fun other different => ?_,
          fun other kept different held => rows other kept different (fixed.rows other kept held)⟩
        rw [writes, if_neg (Ne.symm different), List.append_nil, fixed.writes]

theorem Wrote.fixed {orderId : String} {after later : Memory} (wrote : Wrote orderId memory after)
    (fixed : after.Fixed later) : Wrote orderId memory later := by
  obtain ⟨o, row, terminal⟩ := wrote.row
  exact ⟨⟨o, fixed.rows orderId o row, terminal⟩,
    fun other different => (fixed.writes other).trans (wrote.others other different),
    fun other kept different held => fixed.rows other kept (wrote.rows other kept different held)⟩

theorem writePayment_careful {orderId : String} {status : OrderStatus}
    {providerPaymentId declineReason : Option String} {audited : Audit.AppendRequest}
    (fresh : orderWrites orderId memory = []) (terminal : status.isTerminal = true)
    (refunds : task.isRefund = true → status = .failed)
    (looked : task.looks = true →
      ∃ kept, memory.order? orderId = some kept ∧ kept.status.isTerminal = false) :
    Careful P task.Within (fun _ after => Wrote orderId memory after)
      (writePayment orderId status providerPaymentId declineReason audited) memory :=
  careful_bind within_within ((transitionStatus_careful fresh terminal refunds looked).mono
    fun _ _ wrote => (careful_plain_send ⟨rfl, rfl⟩).mono fun _ _ fixed => wrote.fixed fixed)

/-- The compensations from their ledger operation on. -/
theorem compensate_careful {c : Compensation} {orderId : Option String} {outcomeName : String}
    {operation : Work Bool} (quiet : ConfinedCode Local operation) :
    Careful P task.Sends (fun _ _ => True) (compensate c orderId outcomeName operation) memory := by
  refine careful_bind within_sends ((careful_of_plain (plain_of_local quiet)).mono
    fun outcome after _ => ?_)
  refine careful_bind within_sends ((careful_plain_send ⟨rfl, rfl⟩).mono fun _ after _ => ?_)
  refine careful_bind within_sends ((careful_of_plain (plain_of_local
    (local_leaveExecuting ..))).mono fun _ after _ => ?_)
  exact careful_commit_last

/-- The order of a compensation, when the status that was read is not left alone. -/
theorem failOrder_careful {leftAlone : OrderStatus → Bool} {orderId reason : String}
    (fresh : orderWrites orderId memory = [])
    (looked : task.looks = true → ∀ status, leftAlone status = false → status.isTerminal = false) :
    Careful P task.Within (fun _ _ => True) (failOrder leftAlone orderId reason) memory := by
  refine careful_bind within_within
    (careful_read ⟨rfl, rfl⟩ fun db input found read fixed performed => ?_)
  cases found with
  | none => exact careful_pure trivial
  | some o =>
      have row := getOrder_ok performed
      dsimp only
      split
      next => exact careful_pure trivial
      next going =>
        refine (transitionStatus_careful ((fixed.writes orderId).trans fresh) rfl (fun _ => rfl)
          fun looks => ⟨o, row, looked looks o.status (by simpa using going)⟩).mono fun _ _ _ => trivial

theorem verifyAndCapture_careful (args : CaptureArgs) (orderId : String) :
    Careful P (OrderTask.verifyAndCapture args).Sends (fun _ _ => True)
      (verifyAndCapture P args orderId) .fresh := by
  have written : ∀ {status providerPaymentId declineReason audited} {memory : Memory}
      {last : Work Unit}, Memory.fresh.Fixed memory → status.isTerminal = true →
      (∀ after, Careful P (OrderTask.verifyAndCapture args).Sends (fun _ _ => True) last after) →
      Careful P (OrderTask.verifyAndCapture args).Sends (fun _ _ => True)
        (writePayment orderId status providerPaymentId declineReason audited >>= fun _ => last :
          Work Unit) memory := by
    intro status providerPaymentId declineReason audited memory last fixed terminal ends
    exact careful_bind within_sends ((writePayment_careful (fixed.writes orderId) terminal
      (fun refunds => by cases refunds) (fun looks => by cases looks)).mono fun _ after _ => ends after)
  unfold verifyAndCapture
  split
  next =>
    refine careful_bind within_sends ((careful_of_plain (plain_call ⟨rfl, rfl⟩)).mono
      fun outcome after fixed => ?_)
    cases outcome with
    | ok value => exact written fixed rfl fun _ => careful_commit_last
    | error failure =>
        dsimp only
        split
        next => exact written fixed rfl fun _ => careful_commit rfl
        next => exact careful_throw _
  next => exact written (.refl _) rfl fun _ => careful_commit rfl

theorem voidOrder_careful (c : Compensation) (orderId : String) :
    Careful P (OrderTask.voidOrder c).Sends (fun _ _ => True)
      (voidOrderAndReleaseReservation c orderId) .fresh :=
  careful_bind within_sends ((failOrder_careful rfl fun _ _ going => going).mono
    fun _ _ _ => compensate_careful (local_release ..))

theorem refund_careful (c : Compensation) (orderId : String) :
    Careful P (OrderTask.refund c).Sends (fun _ _ => True)
      (reverseSettlementAfterRefund c orderId) .fresh :=
  careful_bind within_sends ((failOrder_careful rfl fun looks => by cases looks).mono
    fun _ _ _ => compensate_careful (local_reverseSettlement ..))

/-! ### The ticks -/

/-- An order that the session has written is terminal in the session's row. -/
def Consistent (memory : Memory) : Prop :=
  ∀ orderId, orderWrites orderId memory ≠ [] →
    ∃ o, memory.order? orderId = some o ∧ o.status.isTerminal = true

theorem consistent_fresh : Consistent .fresh := fun _ written => absurd rfl written

theorem Consistent.fixed {after : Memory} (consistent : Consistent memory)
    (fixed : memory.Fixed after) : Consistent after := by
  intro orderId written
  rw [fixed.writes] at written
  obtain ⟨o, row, terminal⟩ := consistent orderId written
  exact ⟨o, fixed.rows orderId o row, terminal⟩

theorem Consistent.wrote {after : Memory} {orderId : String} (consistent : Consistent memory)
    (wrote : Wrote orderId memory after) : Consistent after := by
  intro other written
  by_cases mine : other = orderId
  · rw [mine]
    exact wrote.row
  · rw [wrote.others other mine] at written
    obtain ⟨o, row, terminal⟩ := consistent other written
    exact ⟨o, wrote.rows other o mine row, terminal⟩

/-- An order that is not terminal in the session's row has not been written. -/
theorem Consistent.fresh {orderId : String} {o : OrderRecord} (consistent : Consistent memory)
    (row : memory.order? orderId = some o) (going : o.status.isTerminal = false) :
    orderWrites orderId memory = [] := by
  by_contra written
  obtain ⟨o', row', terminal⟩ := consistent orderId written
  rw [row] at row'
  cases row'
  rw [going] at terminal
  cases terminal

/-- A write that the ticks make. -/
theorem Consistent.writePayment {orderId : String} {o : OrderRecord} {status : OrderStatus}
    {providerPaymentId declineReason : Option String} {audited : Audit.AppendRequest}
    (consistent : Consistent memory) (row : memory.order? orderId = some o)
    (going : o.status.isTerminal = false) (terminal : status.isTerminal = true)
    (keeps : task.isRefund = false) :
    Careful P task.Within (fun _ after => Wrote orderId memory after)
      (writePayment orderId status providerPaymentId declineReason audited) memory :=
  writePayment_careful (consistent.fresh row going) terminal
    (fun refunds => by rw [keeps] at refunds; cases refunds) fun _ => ⟨o, row, going⟩

theorem applyWebhookEvent_careful (keeps : task.isRefund = false) (traceId : String)
    (event : WebhookEventRecord) (consistent : Consistent memory) :
    Careful P task.Within (fun _ after => Consistent after) (applyWebhookEvent P traceId event)
      memory := by
  unfold applyWebhookEvent
  dsimp only
  split
  next => exact careful_pure consistent
  next =>
    split
    next providerOrderId _ =>
      refine careful_bind within_within
        (careful_read ⟨rfl, rfl⟩ fun db input found read fixed performed => ?_)
      cases found with
      | none => exact careful_pure (consistent.fixed fixed)
      | some o =>
          have row := getOrderByProviderOrderId_ok performed
          have consistent' := consistent.fixed fixed
          dsimp only
          split
          next => exact careful_pure consistent'
          next going =>
            have going' : o.status.isTerminal = false := by simpa using going
            split
            next =>
              exact (consistent'.writePayment row going' rfl keeps).mono
                fun _ _ wrote => consistent'.wrote wrote
            next =>
              split
              next =>
                exact (consistent'.writePayment row going' rfl keeps).mono
                  fun _ _ wrote => consistent'.wrote wrote
              next => exact careful_pure consistent'
    next => exact careful_throw _

theorem applyWebhookEvents_careful (keeps : task.isRefund = false) (traceId : Nat → String)
    (events : List WebhookEventRecord) (i : Nat) (consistent : Consistent memory) :
    Careful P task.Within (fun _ _ => True) (applyWebhookEvents P traceId i events) memory := by
  induction events generalizing i memory with
  | nil => exact careful_pure trivial
  | cons event events ih =>
      refine careful_bind within_within ((applyWebhookEvent_careful keeps (traceId i) event
        consistent).mono fun _ after consistent => ?_)
      refine careful_bind within_within ((careful_plain_send ⟨rfl, rfl⟩).mono
        fun now after fixed => ?_)
      refine careful_bind within_within ((careful_plain_send ⟨rfl, rfl⟩).mono
        fun _ after fixed' => ?_)
      exact ih (i + 1) ((consistent.fixed fixed).fixed fixed')

theorem processUnprocessedWebhooks_careful (traceId : Nat → String) :
    Careful P (OrderTask.processUnprocessedWebhooks traceId).Sends (fun _ _ => True)
      (processUnprocessedWebhooks P traceId) .fresh := by
  refine careful_bind within_sends (raiseIfHalted_careful ?_)
  refine careful_bind within_sends ((careful_plain_send ⟨rfl, rfl⟩).mono
    fun events after fixed => ?_)
  refine careful_bind within_sends ((applyWebhookEvents_careful rfl traceId events 0
    (consistent_fresh.fixed fixed)).mono fun _ _ _ => ?_)
  exact careful_commit_last

/-- The orders that are left are not terminal in the session's rows. -/
def Due (memory : Memory) (orders : List OrderRecord) : Prop :=
  (orders.map OrderRecord.id).Nodup ∧ ∀ o ∈ orders, ∃ kept,
    memory.order? o.id = some kept ∧ kept.status.isTerminal = false

theorem Due.fixed {after : Memory} {orders : List OrderRecord} (due : Due memory orders)
    (fixed : memory.Fixed after) : Due after orders := by
  refine ⟨due.1, fun o member => ?_⟩
  obtain ⟨kept, row, going⟩ := due.2 o member
  exact ⟨kept, fixed.rows _ _ row, going⟩

/-- An order is written, and the others are still due. -/
theorem Due.wrote {after : Memory} {o : OrderRecord} {orders : List OrderRecord}
    (due : Due memory (o :: orders)) (wrote : Wrote o.id memory after) : Due after orders := by
  rw [Due, List.map_cons, List.nodup_cons] at due
  obtain ⟨⟨once, distinct⟩, going⟩ := due
  refine ⟨distinct, fun o' member => ?_⟩
  obtain ⟨kept, row, open'⟩ := going o' (List.mem_cons_of_mem o member)
  have other : o'.id ≠ o.id := fun same => once (same ▸ List.mem_map_of_mem member)
  exact ⟨kept, wrote.rows _ _ other row, open'⟩

theorem Due.tail {o : OrderRecord} {orders : List OrderRecord} (due : Due memory (o :: orders)) :
    Due memory orders := by
  rw [Due, List.map_cons, List.nodup_cons] at due
  exact ⟨due.1.2, fun o' member => due.2 o' (List.mem_cons_of_mem o member)⟩

theorem reconcileOrder_careful (keeps : task.isRefund = false) (traceId : String) {o : OrderRecord}
    {orders : List OrderRecord} (consistent : Consistent memory) (due : Due memory (o :: orders)) :
    Careful P task.Within (fun _ after => Consistent after ∧ Due after orders)
      (reconcileOrder P traceId o) memory := by
  unfold reconcileOrder
  split
  next => exact careful_pure ⟨consistent, due.tail⟩
  next providerOrderId _ =>
    refine careful_bind within_within ((careful_of_plain (plain_call ⟨rfl, rfl⟩)).mono
      fun outcome after fixed => ?_)
    have consistent' := consistent.fixed fixed
    have due' := due.fixed fixed
    cases outcome with
    | error failure =>
        dsimp only
        split
        next => exact careful_pure ⟨consistent', due'.tail⟩
        next => exact careful_throw _
    | ok payments =>
        obtain ⟨kept, row, going⟩ := due'.2 o List.mem_cons_self
        dsimp only [applyPoll]
        split
        next => exact careful_pure ⟨consistent', due'.tail⟩
        next latest _ =>
          split
          next =>
            exact (consistent'.writePayment row going rfl keeps).mono
              fun _ _ wrote => ⟨consistent'.wrote wrote, due'.wrote wrote⟩
          next =>
            exact (consistent'.writePayment row going rfl keeps).mono
              fun _ _ wrote => ⟨consistent'.wrote wrote, due'.wrote wrote⟩
          next => exact careful_pure ⟨consistent', due'.tail⟩

theorem reconcileOrders_careful (keeps : task.isRefund = false) (traceId : Nat → String)
    (orders : List OrderRecord) (i : Nat) (consistent : Consistent memory)
    (due : Due memory orders) :
    Careful P task.Within (fun _ _ => True) (reconcileOrders P traceId i orders) memory := by
  induction orders generalizing i memory with
  | nil => exact careful_pure trivial
  | cons o orders ih =>
      exact careful_bind within_within ((reconcileOrder_careful keeps (traceId i) consistent due).mono
        fun _ _ left => ih (i + 1) left.1 left.2)

theorem reconcileNonTerminalOrders_careful (traceId : Nat → String) :
    Careful P (OrderTask.reconcileNonTerminalOrders traceId).Sends (fun _ _ => True)
      (reconcileNonTerminalOrders P traceId) .fresh := by
  refine careful_bind within_sends (raiseIfHalted_careful ?_)
  refine careful_bind within_sends (careful_send ⟨rfl, trivial⟩ fun db input now after performed => ?_)
  cases performed
  refine careful_bind within_sends
    (careful_read ⟨rfl, rfl⟩ fun db input due after fixed performed => ?_)
  have listed : Due after due := by
    cases performed
    obtain ⟨ids, rows⟩ := @loadOrders_spec .fresh (fun o => o.status.isTerminal = false)
      (Database.listNonTerminalOlderThan (Memory.view P .fresh db) _)
      (fun o member => by cases member) fun o member => by
        have listed := (List.mem_filter.mp member).2
        rw [Bool.and_eq_true, Bool.not_eq_true'] at listed
        exact listed.1
    refine ⟨?_, fun o member => ⟨o, (rows o member).2, (rows o member).1⟩⟩
    rw [ids]
    exact ((Memory.view P .fresh db).orders.unique OrderRecord.id (by simp)).sublist
      (List.filter_sublist.map _)
  refine careful_bind within_sends ((reconcileOrders_careful rfl traceId due 0
    (consistent_fresh.fixed fixed) listed).mono fun _ _ _ => ?_)
  exact careful_commit_last

/-- Every task sends only what it may. -/
theorem orderTask_careful (task : OrderTask) (orderId : String) :
    Careful P task.Sends (fun _ _ => True) (task.code P orderId) .fresh := by
  cases task with
  | verifyAndCapture args => exact verifyAndCapture_careful args orderId
  | processUnprocessedWebhooks traceId => exact processUnprocessedWebhooks_careful traceId
  | reconcileNonTerminalOrders traceId => exact reconcileNonTerminalOrders_careful traceId
  | voidOrder c => exact voidOrder_careful c orderId
  | refund c => exact refund_careful c orderId

end Parts

/-! ## The status under the lock -/

/-- The status of an order, if there is the order. -/
def orderStatus (orderId : String) (db : Database) : Option OrderStatus :=
  (db.getOrder orderId).map OrderRecord.status

/-- One write. -/
theorem orderStatus_apply (P : Platform) (orderId : String) (db : Database) (w : Write) :
    orderStatus orderId (w.apply P db) = (orderStatus orderId db).map fun status =>
      match w with
      | .order orderId' written _ _ => if orderId' = orderId then written.getD status else status
      | _ => status := by
  cases w with
  | order orderId' written providerPaymentId declineReason =>
      simp only [orderStatus, Write.apply, Database.modifyOrder, Database.getOrder,
        Table.get?_modify (show OrderRecord.id ∈ [OrderRecord.id, OrderRecord.idempotencyKey] by
          simp), Option.map_map]
      cases found : db.orders.get? OrderRecord.id orderId with
      | none => rfl
      | some o =>
          obtain ⟨-, mine⟩ := Table.get?_mem found
          simp only [Option.map_some, Function.comp_apply, mine, decide_eq_true_eq,
            eq_comm (a := orderId')]
          split <;> rfl
  | _ => exact Option.map_id'.symm

/-- What a commit makes of the status. -/
theorem orderStatus_view (P : Platform) (orderId : String) (memory : Memory) (db : Database) :
    orderStatus orderId (memory.view P db) = (orderStatus orderId db).map fun status =>
      (orderWrites orderId memory).foldl (fun status written => written.getD status) status := by
  rw [Memory.view, orderWrites]
  generalize memory.writes = writes
  induction writes generalizing db with
  | nil => simp
  | cons w writes ih =>
      rw [List.foldl_cons, ih, orderStatus_apply, Option.map_map]
      congr 1
      funext status
      cases w with
      | order orderId' written providerPaymentId declineReason =>
          by_cases mine : orderId' = orderId <;> simp [mine]
      | _ => rfl

section Lock

variable {P : Platform} {orderId : String} {task : OrderTask} {memory : Memory} {α : Type}

theorem publishes_iff {statement : Statement} {reply : statement.Reply} :
    (engine P).publishes statement reply = true ↔
      statement.isCommit = true ∧ reply.isOk = true := by
  rw [← Bool.and_eq_true]
  rfl

theorem order_of_lock {statement : Statement}
    (needs : statement.lock memory = some (.order orderId)) :
    ∃ status providerPaymentId declineReason,
      statement = .setOrderPayment orderId status providerPaymentId declineReason := by
  cases statement with
  | setOrderPayment orderId' status providerPaymentId declineReason =>
      cases needs
      exact ⟨status, providerPaymentId, declineReason, rfl⟩
  | setMandateStatus mandateId status =>
      simp only [Statement.lock] at needs
      split at needs
      next =>
        split at needs
        next => cases needs
        next => cases needs
      next => cases needs
  | getMandateForUpdate mandateId => cases needs
  | appendEntry request => cases needs
  | _ => cases needs

/-- A statement that writes another order, or none, and is no commit. -/
theorem orderWrites_execute {statement : Statement} (fine : task.Sends statement memory)
    (open' : statement.isCommit = false) (apart : statement.lock memory ≠ some (.order orderId))
    (input : StatementInput) (db : Database) :
    orderWrites orderId (statement.execute P input db memory).2 = orderWrites orderId memory := by
  by_cases writes : statement.writesOrder = true
  · cases statement with
    | setOrderPayment orderId' status providerPaymentId declineReason =>
        have other : orderId' ≠ orderId := fun same => apart (same ▸ rfl)
        simp only [Statement.execute]
        split
        next => rfl
        next =>
          obtain ⟨-, -, -, kept, row, -⟩ := fine
          obtain ⟨noted, -, -⟩ := setOrderPayment_spec status providerPaymentId declineReason row
          simp only [Statement.perform]
          rw [noted, if_neg other, List.append_nil]
    | _ => cases writes
  · exact (execute_fixed P (by simpa using writes) open' input db memory).writes orderId

/-- After the order has been written the code writes it no more. -/
theorem Careful.inside {code : Program Statement Statement.Reply (Except Failure α)}
    (careful : Careful P task.Sends (fun _ _ => True) code memory) {now : Option OrderStatus}
    {written : Option OrderStatus} (touched : orderWrites orderId memory = [written])
    (allowed : ∀ status ∈ written, task.Allows now status) :
    Inside (engine P) (orderStatus orderId) task.Change now code memory := by
  induction code generalizing memory with
  | done outcome => trivial
  | act statement next ih =>
      obtain ⟨fine, commits, raises, later⟩ := careful
      intro store input same
      dsimp only
      split
      next published =>
        obtain ⟨commit, ok⟩ := publishes_iff.mp published
        refine ⟨?_, commits commit _⟩
        show task.Change now (orderStatus orderId (memory.view P store))
        rw [orderStatus_view, touched, same]
        cases written with
        | none => exact .inl (by cases now <;> rfl)
        | some status => exact .inr ⟨status, rfl, allowed status rfl⟩
      next open' =>
        by_cases commit : statement.isCommit = true
        · obtain ⟨outcome, ends⟩ := commits commit
            ((engine P).perform statement input store memory).1
          rw [ends]
          trivial
        have apart : statement.lock memory ≠ some (.order orderId) := by
          intro needs
          obtain ⟨status, providerPaymentId, declineReason, rfl⟩ := order_of_lock needs
          rw [fine.1] at touched
          cases touched
        refine ih _ (later store input) ?_
        rw [← touched]
        exact orderWrites_execute fine (by simpa using commit) apart input store

/-- Before that it keeps to the lock. -/
theorem Careful.outside {code : Program Statement Statement.Reply (Except Failure α)}
    (careful : Careful P task.Sends (fun _ _ => True) code memory)
    (untouched : orderWrites orderId memory = []) :
    Outside (engine P) (orderStatus orderId) (.order orderId) task.Enters task.Change code
      memory := by
  induction code generalizing memory with
  | done outcome => trivial
  | act statement next ih =>
      obtain ⟨fine, commits, raises, later⟩ := careful
      rw [Outside]
      split
      next needs =>
        obtain ⟨status, providerPaymentId, declineReason, rfl⟩ := order_of_lock needs
        intro now enters store input same
        dsimp only
        rw [if_neg (by rw [publishes_iff]; rintro ⟨commit, -⟩; cases commit)]
        have written := later store input
        simp only [engine, Statement.execute] at written ⊢
        cases fault : input.fault with
        | some failure =>
            dsimp only
            rw [raises rfl failure]
            trivial
        | none =>
            rw [fault] at written
            obtain ⟨fresh, terminal, refunds, kept, row, looked⟩ := fine
            obtain ⟨noted, -, -⟩ := setOrderPayment_spec status providerPaymentId declineReason row
            refine written.inside (by rw [Statement.perform, noted, fresh, if_pos rfl]; rfl) ?_
            intro status' wrote
            split at wrote
            next => cases wrote
            next changes =>
              cases wrote
              rcases enters kept row changes with refund | already | found
              · exact .inl ⟨refund, refunds refund⟩
              · refine .inr fun before present _ => ?_
                rw [already] at present
                exact (Option.some.inj present).symm
              · refine .inr fun before present settled => ?_
                exfalso
                split at found
                next looks =>
                  rw [found] at present
                  cases present
                  have going := looked looks
                  revert settled going
                  cases kept.status <;> decide
                next =>
                  rw [found before present] at settled
                  cases settled
      next apart =>
        intro store input
        dsimp only
        split
        next published =>
          obtain ⟨commit, ok⟩ := publishes_iff.mp published
          refine ⟨?_, commits commit _⟩
          show orderStatus orderId (memory.view P store) = _
          rw [orderStatus_view, untouched]
          exact Option.map_id'
        next open' =>
          by_cases commit : statement.isCommit = true
          · obtain ⟨outcome, ends⟩ := commits commit
              ((engine P).perform statement input store memory).1
            rw [ends]
            trivial
          refine ih _ (later store input) ?_
          rw [← untouched]
          exact orderWrites_execute fine (by simpa using commit) apart input store

/-- Every task keeps to the row lock of the order. -/
theorem orderTask_safe (P : Platform) (orderId : String) (task : OrderTask) :
    Outside (engine P) (orderStatus orderId) (.order orderId) task.Enters task.Change
      (task.code P orderId) (engine P).fresh :=
  (orderTask_careful task orderId).outside rfl

end Lock

end Actl.UnitOfWork
