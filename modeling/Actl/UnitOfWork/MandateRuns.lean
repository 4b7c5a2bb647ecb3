import Actl.Gate.Atomic
import Actl.Ledger.Refinement

/-!
# Runs on one mandate

Any number of gate attempts, settlements, compensations and revocations of one
mandate at the same time, statement by statement. The mandate row and the ledger
change under the lock of the row only, so every run is a sequence of whole
transactions; but a gate attempt goes by the status it has read before it had the
lock, and a compensation takes the mandate out of EXECUTING whatever other
references of the mandate are worth.

`Task.Enters` says what a session must find when it gets the lock, and `Task.Change`
what it then makes of the tables. Every task keeps to this (`task_safe`).
-/

set_option autoImplicit false

namespace Actl.UnitOfWork

open Foundation (Code Program Engine Sessions Table)
open Foundation.Code (confined_bind confined_perform confined_pure confined_throw)
open Foundation.Sessions (Inside Outside Anyhow AnyhowReturns anyhowReturns_pure
  anyhowReturns_throw outside_bind outside_code_bind inside_bind outside_of_inside)
open Gate (GateExit MoneyActionRequest Compensation)
open Ledger (Book Keeps Carries account balance committedTotal)
open Mandates (Mandate MandateStatus transitions)

/-! ## What the lock protects -/

/-- The tables that nobody writes without the lock of the mandate. -/
def shared (db : Database) : Database :=
  { db with
    orders := .empty
    sagas := .empty
    idempotencyKeys := .empty
    webhookEvents := .empty
    auditLog := .empty
    integrity := ⟨⟨false, none, none⟩, none⟩ }

theorem shared_shared (db : Database) : shared (shared db) = shared db := rfl

section Shared

variable {P : Platform} {db db' : Database}

theorem mandates_of_shared (same : shared db = shared db') : db.mandates = db'.mandates :=
  (congrArg Database.mandates same :)

theorem entries_of_shared (same : shared db = shared db') :
    db.ledgerEntries = db'.ledgerEntries := (congrArg Database.ledgerEntries same :)

theorem getMandate_of_shared (same : shared db = shared db') (mandateId : String) :
    db.getMandate mandateId = db'.getMandate mandateId := by
  rw [Database.getMandate, mandates_of_shared same]
  rfl

theorem shared_apply (same : shared db = shared db') (w : Write) :
    shared (w.apply P db) = shared (w.apply P db') := by
  have mandates := mandates_of_shared same
  have entries := entries_of_shared same
  cases w with
  | mandateStatus mandateId status =>
      have both : shared ((Write.mandateStatus mandateId status).apply P db) =
          { shared db with
            mandates := db.mandates.modify (fun row => row.id = mandateId)
              (fun row => { row with status := status }) (by simp [MandateRow.id]) } := rfl
      rw [both]
      simp only [same, mandates]
      rfl
  | ledgerEntry record =>
      have both : shared ((Write.ledgerEntry record).apply P db) =
          { shared db with ledgerEntries := db.ledgerEntries ++ [record] } := rfl
      rw [both]
      simp only [same, entries]
      rfl
  | auditEntry request => exact same
  | order orderId status payment reason => exact same
  | saga sagaId step status => exact same
  | processed event time => exact same

theorem shared_foldl (same : shared db = shared db') (writes : List Write) :
    shared (writes.foldl (Write.apply P) db) = shared (writes.foldl (Write.apply P) db') := by
  induction writes generalizing db db' with
  | nil => exact same
  | cons w writes ih => exact ih (shared_apply same w)

/-- Under the lock a session goes by what the lock protects. -/
theorem determined_of_local (statement : Statement) (fine : Local statement)
    (input : StatementInput) (store store' : Database) (memory : Memory)
    (same : shared store = shared store') :
    (engine P).perform statement input store memory =
      (engine P).perform statement input store' memory := by
  have views : shared (memory.view P store) = shared (memory.view P store') :=
    shared_foldl same memory.writes
  simp only [engine, Statement.execute]
  cases input.fault with
  | some failure => rfl
  | none =>
      cases statement with
      | getMandate mandateId =>
          simp only [Statement.perform, getMandate_of_shared views mandateId]
      | getMandateForUpdate mandateId =>
          simp only [Statement.perform, getMandate_of_shared views mandateId]
      | getDecision decisionId =>
          have decisions : (memory.view P store).decisions = (memory.view P store').decisions :=
            (congrArg Database.decisions views :)
          simp only [Statement.perform, decisions]
      | getQuote quoteId =>
          have quotes : (memory.view P store).quotes = (memory.view P store').quotes :=
            (congrArg Database.quotes views :)
          simp only [Statement.perform, quotes]
      | currentVersion =>
          have version : (memory.view P store).catalogVersion =
              (memory.view P store').catalogVersion := (congrArg Database.catalogVersion views :)
          simp only [Statement.perform, version]
      | listForRefId refId =>
          simp only [Statement.perform, Database.listForRefId, entries_of_shared views]
      | listForAccount acct =>
          simp only [Statement.perform, Database.listForAccount, entries_of_shared views]
      | now => rfl
      | setMandateStatus mandateId status => rfl
      | addLedgerEntry record => rfl
      | appendEntry request => rfl
      | _ => cases fine

end Shared

/-! ## Tasks -/

/-- What sessions are there for. The mandate is the same for all of them. -/
inductive Task where
  | attemptGates (req : MoneyActionRequest) (key : String)
  | settle (saga : SagaRecord) (orderId providerPaymentId actorId traceId : String)
  | releaseReservation (c : Compensation)
  | voidOrder (c : Compensation) (orderId : String)
  | reverseSettlement (c : Compensation) (orderId : String)
  | recordPayment (orderId : String) (status : OrderStatus)
      (providerPaymentId declineReason : Option String) (audited : Audit.AppendRequest)
  | finalizeSaga (sagaId step : String) (status : SagaStatus)
  | revoke

/-- The transactions of `verify_and_capture`. -/
def recordPayment (orderId : String) (status : OrderStatus)
    (providerPaymentId declineReason : Option String) (audited : Audit.AppendRequest) :
    Work Unit := do
  transitionStatus orderId status providerPaymentId declineReason
  send (.appendEntry audited)
  send .commit

/-- `_finalize`. -/
def finalizeSaga (sagaId step : String) (status : SagaStatus) : Work Unit := do
  send (.updateSaga sagaId step status)
  send .commit

/-- The transaction of a task for the mandate. -/
def Task.code (P : Platform) (mandateId : String) : Task → Work Unit
  | .attemptGates req key => do
      let _ ← attemptG1ThroughG5 P { req with mandateId } key
      pure ()
  | .settle saga orderId providerPaymentId actorId traceId =>
      UnitOfWork.settle { saga with mandateId } orderId providerPaymentId actorId traceId
  | .releaseReservation c => releaseReservationAndMarkCompensated { c with mandateId }
  | .voidOrder c orderId => voidOrderAndReleaseReservation { c with mandateId } orderId
  | .reverseSettlement c orderId => reverseSettlementAfterRefund { c with mandateId } orderId
  | .recordPayment orderId status providerPaymentId declineReason audited =>
      UnitOfWork.recordPayment orderId status providerPaymentId declineReason audited
  | .finalizeSaga sagaId step status => UnitOfWork.finalizeSaga sagaId step status
  | .revoke => UnitOfWork.revoke mandateId

/-! ## What a session must find -/

def statusOf (db : Database) (mandateId : String) : Option MandateStatus :=
  (db.getMandate mandateId).map MandateRow.status

/-- The status under the lock, for a gate attempt that has read another one before:
a status that G1 lets through, or one that a reservation does not contradict when
nothing is written. -/
def Current (read now : MandateStatus) : Prop :=
  now = .locked ∨ now = .executing ∨ read = .executing ∧ now ≠ .compensated

instance (read now : MandateStatus) : Decidable (Current read now) :=
  inferInstanceAs (Decidable (_ ∨ _ ∨ _))

/-- The reference of a compensation is all that the mandate has. -/
def Sole (db : Database) (mandateId : String) (held : Bool) (amountMinor : Int) : Prop :=
  statusOf db mandateId = some .executing →
    committedTotal db mandateId = if held then amountMinor else 0

instance (db : Database) (mandateId : String) (held : Bool) (amountMinor : Int) :
    Decidable (Sole db mandateId held amountMinor) :=
  inferInstanceAs (Decidable (_ → _))

/-- The reference is held. -/
def isHeld (db : Database) (refId : String) : Bool := Ledger.stateOfRef db refId = some .held

/-- The reference is captured and not reversed. -/
def isSettled (db : Database) (refId : String) : Bool :=
  .capture ∈ Ledger.refTypes db refId ∧ .reverse ∉ Ledger.refTypes db refId

/-- What a task must find when it gets the lock: amounts are positive, a call for a
reference carries its terms, a gate attempt finds the mandate as it may go on from,
and a compensation takes a mandate out of EXECUTING that has nothing else. -/
def Task.Enters (mandateId : String) (memory : Memory) (db : Database) : Task → Prop
  | .attemptGates req _ =>
      0 < req.amountMinor ∧ ∀ read ∈ memory.mandate? mandateId,
        ∀ row ∈ db.getMandate mandateId, Current read.status row.status
  | .settle saga _ _ _ _ => Carries db saga.id mandateId saga.amountMinor
  | .releaseReservation c | .voidOrder c _ =>
      Carries db c.refId mandateId c.amountMinor ∧
        Sole db mandateId (isHeld db c.refId) c.amountMinor
  | .reverseSettlement c _ =>
      Carries db c.refId mandateId c.amountMinor ∧
        Sole db mandateId (isSettled db c.refId) c.amountMinor
  | .recordPayment .. | .finalizeSaga .. | .revoke => True

/-! ## What a session makes of it -/

/-- The status, written or not. -/
def writeStatus (mandateId : String) (status : Option MandateStatus) (db : Database) : Database :=
  match status with
  | some status => db.updateMandateStatus mandateId status
  | none => db

/-- An operation on the ledger, and the status written with it. -/
def Moved {α : Type} (mandateId : String) (operation : Database → (Nat → Time) → α × Database)
    (wrote : α → Database → Option MandateStatus) (p p' : Database) : Prop :=
  ∃ db now result added, shared db = p ∧ operation db now = (result, withEntries db added) ∧
    p' = shared (writeStatus mandateId (wrote result db) (withEntries db added))

/-- Out of EXECUTING into this status, and nothing from any other. -/
def fromExecuting (mandateId : String) (status : MandateStatus) (db : Database) :
    Option MandateStatus :=
  if statusOf db mandateId = some .executing then some status else none

/-- What a task does while it has the lock. -/
def Task.Change (mandateId : String) (p p' : Database) : Task → Prop
  | .attemptGates req key =>
      0 < req.amountMinor ∧ ∃ read : MandateRow,
        (read.status = .locked ∨ read.status = .executing) ∧
        (∀ row ∈ p.getMandate mandateId, Current read.status row.status) ∧
        Moved mandateId (fun db now => Ledger.reserve db now mandateId req.amountMinor
          read.mandate.bounds.maxTotalMinor key)
          (fun _ _ => if read.status = .locked then some .executing else none) p p'
  | .settle saga _ _ _ _ =>
      Carries p saga.id mandateId saga.amountMinor ∧
        Moved mandateId (fun db now => Ledger.capture db now mandateId saga.amountMinor saga.id)
          (fun captured db => if captured then fromExecuting mandateId .settled db else none) p p'
  | .releaseReservation c | .voidOrder c _ =>
      Carries p c.refId mandateId c.amountMinor ∧
        Sole p mandateId (isHeld p c.refId) c.amountMinor ∧
        Moved mandateId (fun db now => Ledger.release db now mandateId c.amountMinor c.refId)
          (fun _ db => fromExecuting mandateId .compensated db) p p'
  | .reverseSettlement c _ =>
      Carries p c.refId mandateId c.amountMinor ∧
        Sole p mandateId (isSettled p c.refId) c.amountMinor ∧
        Moved mandateId
          (fun db now => Ledger.reverseSettlement db now mandateId c.amountMinor c.refId)
          (fun _ db => fromExecuting mandateId .compensated db) p p'
  | .recordPayment .. | .finalizeSaga .. => False
  | .revoke =>
      Moved mandateId (fun db _ => ((), db)) (fun _ _ => some .revoked) p p'

/-! ## Before the lock -/

section Before

variable {P : Platform} {memory : Memory}

theorem anyhow_send {statement : Statement} {good : statement.Value → Memory → Prop}
    (holds : ∀ db input value after,
      statement.perform P input db memory = (.ok value, after) → good value after) :
    AnyhowReturns (engine P) good (send statement) memory := by
  intro db input value same
  simp only [engine, Statement.execute] at same ⊢
  cases fault : input.fault with
  | some failure =>
      simp only [fault] at same
      cases same
  | none =>
      simp only [fault] at same
      exact holds db input value _ (Prod.ext same rfl)

theorem anyhow_inGate {α : Type} {good : α → Memory → Prop} {body : Work α}
    (holds : AnyhowReturns (engine P) good body memory) :
    AnyhowReturns (engine P) good (inGate body) memory := by
  refine Anyhow.bind (Anyhow.mono holds fun outcome memory returned => ?_)
  cases outcome with
  | ok value => exact fun value' same => by cases same; exact returned value rfl
  | error failure => exact fun value same => by cases same

theorem anyhow_check {good : Unit → Memory → Prop} {ok : Bool} {code : Policy.ReasonCode}
    (holds : ok = true → good () memory) :
    AnyhowReturns (engine P) good (check ok code) memory := by
  cases ok with
  | false => exact anyhowReturns_throw
  | true => exact anyhowReturns_pure (holds rfl)

theorem anyhow_now {good : Time → Memory → Prop} (holds : ∀ time, good time memory) :
    AnyhowReturns (engine P) good (inGate (send .now)) memory := by
  refine anyhow_inGate (@anyhow_send P memory .now good fun db input time after performed => ?_)
  cases performed
  exact holds _

/-- G1 lets the row through that it has read. -/
theorem g1_anyhow (req : MoneyActionRequest) :
    AnyhowReturns (engine P) (fun row memory => HasRead row req.mandateId memory ∧
      (row.status = .locked ∨ row.status = .executing)) (g1 P req) .fresh := by
  refine AnyhowReturns.bind (anyhow_inGate (anyhow_send fun db input found after performed => ?_))
  have first := perform_getMandate_fresh P req.mandateId input db
  rw [performed] at first
  cases found with
  | none => exact anyhowReturns_throw
  | some row =>
      have read := first.2 row (Except.ok.inj first.1).symm
      refine AnyhowReturns.bind (anyhow_check fun _ => AnyhowReturns.bind (anyhow_check fun admits =>
        AnyhowReturns.bind (anyhow_check fun _ => ?_)))
      have status : row.status = .locked ∨ row.status = .executing := by
        simpa using admits
      split
      next =>
        exact AnyhowReturns.bind (anyhow_check fun _ => AnyhowReturns.bind (anyhow_now fun now =>
          AnyhowReturns.bind (anyhow_check fun _ => anyhowReturns_pure ⟨read, status⟩)))
      next => exact anyhowReturns_throw

theorem g2g3_anyhow {good : Unit → Memory → Prop} (req : MoneyActionRequest) (mandate : Mandate)
    (holds : good () memory) :
    AnyhowReturns (engine P) good (g2g3 req mandate) memory := by
  refine AnyhowReturns.bind (anyhow_inGate (anyhow_send fun db input found after performed => ?_))
  obtain rfl : memory = after := (Prod.mk.inj performed).2
  cases found with
  | none => exact anyhowReturns_throw
  | some decision =>
      refine AnyhowReturns.bind (anyhow_check fun _ => AnyhowReturns.bind (anyhow_check fun _ =>
        AnyhowReturns.bind (anyhow_now fun now => AnyhowReturns.bind (anyhow_check fun _ => ?_))))
      split
      next =>
        split
        next => exact anyhowReturns_throw
        next => exact anyhowReturns_throw
      next => exact anyhowReturns_pure holds

theorem silent_of_reads (statement : Statement) (reads : Reads statement)
    (reply : statement.Reply) : (engine P).publishes statement reply = false :=
  silent_of_local statement (local_of_reads statement reads) reply

theorem unlocked_of_reads {k : Lock} (statement : Statement) (reads : Reads statement)
    (memory : Memory) : (engine P).lock statement memory ≠ some k := by
  cases statement with
  | now => simp [engine, Statement.lock]
  | getMandate mandateId => simp [engine, Statement.lock]
  | getDecision decisionId => simp [engine, Statement.lock]
  | getQuote quoteId => simp [engine, Statement.lock]
  | currentVersion => simp [engine, Statement.lock]
  | _ => exact absurd reads id

variable {k : Lock} {enters : Statement → Memory → Database → Prop} {change : Database → Database → Prop}

/-- Reads of a gate, before what comes after the gates. -/
theorem outside_gate_bind {α β : Type} {body : GateWork α} {rest : α → GateWork β}
    {finish : Except GateExit β → Program Statement Statement.Reply (Except Failure Unit)}
    (reads : Code.ConfinedCode Reads body)
    (ends : ∀ leave, ∃ value, finish (.error leave) = .done value)
    (holds : AnyhowReturns (engine P)
      (fun value memory =>
        Outside (engine P) shared k enters change (Program.bind (rest value) finish) memory)
      body memory) :
    Outside (engine P) shared k enters change (Program.bind (body >>= rest : GateWork β) finish)
      memory := by
  rw [Code.bind_eq, Program.bind_assoc]
  refine outside_bind silent_of_reads unlocked_of_reads reads
    (Anyhow.mono holds fun outcome memory returned => ?_)
  cases outcome with
  | ok value => exact returned value rfl
  | error leave =>
      obtain ⟨value, done⟩ := ends leave
      have shape : Program.bind (ExceptT.bindCont rest (.error leave) : Program Statement
          Statement.Reply (Except GateExit β)) finish = finish (.error leave) := rfl
      rw [shape, done]
      trivial

end Before

/-! ## Under the lock -/

section Under

variable {P : Platform} {change : Database → Database → Prop} {p : Database} {memory : Memory}

theorem inside_commit {α : Type}
    {next : Statement.Reply .commit → Program Statement Statement.Reply α}
    (ends : ∀ reply, ∃ value, next reply = .done value)
    (made : ∀ db, shared db = p → change p (shared (memory.view P db))) :
    Inside (engine P) shared change p (.act .commit next) memory := by
  intro db input same
  cases fault : input.fault with
  | some failure =>
      simp only [engine, Statement.execute, fault]
      obtain ⟨value, done⟩ := ends (.error failure)
      rw [done]
      trivial
  | none =>
      simp only [engine, Statement.execute, fault, Statement.perform]
      exact ⟨made db same, ends (.ok ())⟩

instance : Nonempty StatementInput := ⟨⟨none, 0, .ok [], .ok ()⟩⟩

/-- Code under the lock is as good as alone. -/
theorem inside_alone {α β : Type} {body : Program Statement Statement.Reply α}
    {rest : α → Program Statement Statement.Reply β} (self : shared p = p)
    (fine : body.Confined Local)
    (ends : ∀ inputs n, let ended := (engine P).alone inputs body ⟨p, memory, n⟩
      Inside (engine P) shared change p (rest ended.1) ended.2.memory) :
    Inside (engine P) shared change p (body.bind rest) memory := by
  have whole : Inside (engine P) shared change (shared p) (body.bind rest) memory :=
    inside_bind (E := engine P) silent_of_local determined_of_local fine
      (by rw [self]; exact ends)
  rw [self] at whole
  exact whole

end Under

/-! ## The tasks keep to the lock -/

/-- What the tables hold between transactions: the entries keep a book, the mandate
is there, and a compensated mandate has nothing reserved or spent. -/
structure Good (mandateId : String) (p : Database) : Prop where
  self : shared p = p
  book : ∃ book, Keeps p book
  present : ∃ row, p.getMandate mandateId = some row
  compensated : statusOf p mandateId = some .compensated → committedTotal p mandateId = 0

/-- The task keeps to the lock of the mandate. -/
def Task.Safe (P : Platform) (mandateId : String) (task : Task) : Prop :=
  Outside (engine P) shared (.mandate mandateId)
    (fun _ memory p => Good mandateId p ∧ task.Enters mandateId memory p)
    (fun p p' => task.Change mandateId p p') (task.code P mandateId) .fresh

section Safe

variable (P : Platform) (mandateId : String)

/-- What follows the gates. -/
def afterGates (req : MoneyActionRequest) (outcome : Except GateExit Unit) :
    Program Statement Statement.Reply (Except Failure Unit) :=
  Program.bind (leaveGate req outcome) (ExceptT.bindCont fun _ => pure ())

theorem attemptGates_code (req : MoneyActionRequest) (key : String) :
    (Task.attemptGates req key).code P mandateId =
      Program.bind (runG1ThroughG5 P { req with mandateId } key)
        (afterGates { req with mandateId }) := by
  have code : (Task.attemptGates req key).code P mandateId =
      Program.bind (Program.bind (runG1ThroughG5 P { req with mandateId } key)
        (leaveGate { req with mandateId })) (ExceptT.bindCont fun _ => pure ()) := rfl
  rw [code, Program.bind_assoc]
  rfl

theorem afterGates_error (req : MoneyActionRequest) (leave : GateExit) :
    ∃ value, afterGates req (.error leave) = .done value := by
  cases leave with
  | deny code => exact ⟨_, rfl⟩
  | raise failure => exact ⟨_, rfl⟩

/-- The writes of a pass, as far as the lock protects what they change. -/
theorem shared_passWrites (req : MoneyActionRequest) (key : String) (row : MandateRow)
    (added : List LedgerEntryRecord) (db : Database) :
    shared ((passWrites req key row added).foldl (Write.apply P) db) =
      shared (writeStatus req.mandateId (if row.status = .locked then some .executing else none)
        (withEntries db added)) := by
  rw [passWrites, List.foldl_append, List.foldl_append, foldl_ledgerEntries]
  by_cases locked : row.status = .locked
  · simp only [locked, if_true]
    rfl
  · simp only [locked, if_false]
    rfl

theorem attemptGates_safe (req : MoneyActionRequest) (key : String) :
    (Task.attemptGates req key).Safe P mandateId := by
  rw [Task.Safe, attemptGates_code]
  refine outside_gate_bind (reads_g1 ..) (afterGates_error _)
    (Anyhow.mono (g1_anyhow _) fun outcome memory returned row same => ?_)
  obtain ⟨read, admitted⟩ := returned row same
  refine outside_gate_bind (reads_g2g3 ..) (afterGates_error _) (g2g3_anyhow _ _ ?_)
  refine outside_of_inside rfl rfl fun p enters => ?_
  obtain ⟨good, positive, current⟩ := enters
  obtain ⟨row', present⟩ := good.present
  refine inside_alone good.self (local_runG4AndG5 ..) fun inputs n => ?_
  cases ended : (engine P).alone inputs (runG4AndG5 { req with mandateId } key row)
      ⟨p, memory, n⟩ with
  | mk outcome t =>
      cases outcome with
      | error leave =>
          obtain ⟨value, done⟩ := afterGates_error { req with mandateId } leave
          dsimp only
          rw [done]
          trivial
      | ok passed =>
          obtain ⟨_, now, made, added, reserved, writes⟩ := runG4AndG5_pass
            (t := ⟨p, memory, n⟩) read present ended
          refine inside_commit (fun reply => ?_) fun db same => ?_
          · cases reply with
            | ok _ => exact ⟨_, rfl⟩
            | error failure => exact ⟨_, rfl⟩
          · refine ⟨positive, row, admitted, fun row' found => ?_, p, now, some made, added,
              good.self, reserved, ?_⟩
            · exact current row read.row row' found
            · rw [← shared_passWrites P { req with mandateId } key row added p, Memory.view, writes]
              exact shared_foldl (same.trans good.self.symm) _

/-! ### Compensations -/

/-- A write that leaves what the lock protects alone. -/
def Write.isAside : Write → Bool
  | .mandateStatus .. | .ledgerEntry _ => false
  | _ => true

theorem shared_aside {w : Write} (aside : w.isAside = true) (db : Database) :
    shared (w.apply P db) = shared db := by
  cases w with
  | mandateStatus mandateId status => cases aside
  | ledgerEntry record => cases aside
  | _ => rfl

theorem shared_asides {writes : List Write} (aside : ∀ w ∈ writes, w.isAside = true)
    (db : Database) : shared (writes.foldl (Write.apply P) db) = shared db := by
  induction writes generalizing db with
  | nil => rfl
  | cons w writes ih =>
      rw [List.foldl_cons, ih (fun w' member => aside w' (List.mem_cons_of_mem _ member)),
        shared_aside P (aside w List.mem_cons_self)]

/-- The session has no mandate row yet, and has written nothing that the lock
protects. -/
structure Aside (memory : Memory) : Prop where
  mandates : memory.mandates = []
  writes : ∀ w ∈ memory.writes, w.isAside = true

theorem view_fresh (db : Database) : Memory.fresh.view P db = db := rfl

theorem aside_fresh : Aside .fresh := ⟨rfl, fun _ member => nomatch member⟩

/-- Code under the lock whose exceptions end the session. -/
theorem inside_code_alone {α : Type} {change : Database → Database → Prop} {p : Database}
    {memory : Memory} {body : Work α} {rest : α → Work Unit} (self : shared p = p)
    (fine : Code.ConfinedCode Local body)
    (ends : ∀ inputs n value t,
      (engine P).alone inputs body ⟨p, memory, n⟩ = (.ok value, t) →
        Inside (engine P) shared change p (rest value) t.memory) :
    Inside (engine P) shared change p (body >>= rest : Work Unit) memory := by
  refine inside_alone self fine fun inputs n => ?_
  cases ended : (engine P).alone inputs body ⟨p, memory, n⟩ with
  | mk outcome t =>
      cases outcome with
      | ok value => exact ends inputs n value t ended
      | error failure => trivial

/-- EXECUTING is left for the target of the transition, and no other status is
touched. -/
theorem leaveExecuting_alone {inputs : Nat → StatementInput}
    {t t' : Engine.Transacting Database Memory} {row : MandateRow} {trigger : Mandates.Trigger}
    {ctx : Mandates.TransitionGuardContext} {target : MandateStatus}
    (moves : Mandates.transition .executing trigger ctx = .ok target)
    (differs : target ≠ .executing) (kept : t.memory.mandate? mandateId = some row)
    (done : (engine P).alone inputs (leaveExecuting mandateId trigger ctx) t = (.ok (), t')) :
    t'.store = t.store ∧ t'.memory.writes = t.memory.writes ++
      if row.status = .executing then [.mandateStatus mandateId target] else [] := by
  rw [leaveExecuting, Engine.alone_bind_ok] at done
  obtain ⟨found, t₁, read, rest⟩ := done
  obtain ⟨performed, store⟩ := send_ok read
  simp only [Statement.perform, kept] at performed
  obtain ⟨rfl, same⟩ : some row = found ∧ t.memory = t₁.memory :=
    ⟨Except.ok.inj (Prod.mk.inj performed).1, (Prod.mk.inj performed).2⟩
  dsimp only at rest
  split at rest
  next executing =>
    rw [moves] at rest
    obtain ⟨store', writes⟩ := updateStatus_alone (by rw [← same]; exact kept)
      (by rw [executing]; exact differs.symm) rest
    rw [if_pos executing, writes, ← same]
    exact ⟨store'.trans store, rfl⟩
  next other =>
    cases rest
    rw [if_neg other, List.append_nil, ← same]
    exact ⟨store, rfl⟩

/-- The writes of a transaction that has posted to the ledger and perhaps written the
status, and writes beside the lock before and after it. -/
theorem shared_posted {memory : Memory} {db db' : Database} (same : shared db = shared db')
    (added : List LedgerEntryRecord) (status : Option MandateStatus) (before after : List Write)
    (aside : ∀ w ∈ before, w.isAside = true) (aside' : ∀ w ∈ after, w.isAside = true) :
    shared ((memory.writes ++ added.map Write.ledgerEntry ++ before ++
        status.toList.map (Write.mandateStatus mandateId) ++ after).foldl (Write.apply P) db) =
      shared (writeStatus mandateId status (withEntries (memory.view P db') added)) := by
  rw [shared_foldl same, List.foldl_append, shared_asides P aside', List.foldl_append,
    List.foldl_append, List.foldl_append, foldl_ledgerEntries,
    shared_foldl (shared_asides P aside _)]
  cases status with
  | none => rfl
  | some status => rfl

section Compensate

variable {p : Database} {change : Database → Database → Prop} {row : MandateRow}
  {operation : Work Bool} {ledger : Database → (Nat → Time) → Bool × Database}

/-- A session that has written nothing of it sees what the lock protects. -/
theorem Aside.view {memory : Memory} (aside : Aside memory) (self : shared p = p) :
    shared (memory.view P p) = p :=
  (shared_asides P aside.writes p).trans self

theorem Aside.getMandate {memory : Memory} (aside : Aside memory) (self : shared p = p)
    (present : p.getMandate mandateId = some row) :
    (memory.view P p).getMandate mandateId = some row := by
  rw [getMandate_of_shared ((aside.view P self).trans self.symm), present]

theorem Aside.rowFor {memory : Memory} (aside : Aside memory) :
    rowFor memory mandateId row = row := by
  rw [UnitOfWork.rowFor, Memory.mandate?, aside.mandates]
  rfl

theorem statusOf_of_getMandate {db : Database} (present : db.getMandate mandateId = some row) :
    statusOf db mandateId = some row.status := by
  rw [statusOf, present]
  rfl

/-- The status that is written when EXECUTING is left. -/
theorem fromExecuting_toList {db : Database} {status : MandateStatus}
    (present : db.getMandate mandateId = some row) :
    (fromExecuting mandateId status db).toList.map (Write.mandateStatus mandateId) =
      if row.status = .executing then [.mandateStatus mandateId status] else [] := by
  rw [fromExecuting, statusOf_of_getMandate mandateId present]
  by_cases executing : row.status = .executing
  · simp [executing]
  · simp [executing]

theorem compensation_moves :
    Mandates.transition .executing .failure { allCompensationsConfirmed := true } =
      .ok .compensated := rfl

theorem settlement_moves (amountMinor : Int) :
    Mandates.transition .executing .captured
      { reservedMinor := amountMinor, capturedMinor := amountMinor } = .ok .settled := by
  simp [Mandates.transition, Mandates.transitions, Mandates.guardCaptured]

/-- A compensation from the lock to the commit. -/
theorem compensate_inside {memory : Memory} (aside : Aside memory) (self : shared p = p)
    (present : p.getMandate mandateId = some row) (fine : Code.ConfinedCode Local operation)
    (posts : ∀ inputs n result t,
      (engine P).alone inputs operation ⟨p, memory, n⟩ = (.ok result, t) →
        Posted P mandateId row ledger result ⟨p, memory, n⟩ t)
    (made : ∀ p', Moved mandateId ledger (fun _ db => fromExecuting mandateId .compensated db) p
      p' → change p p')
    (c : Compensation) (orderId : Option String) (outcomeName : String) :
    Inside (engine P) shared change p
      (compensate { c with mandateId } orderId outcomeName operation) memory := by
  have seen := aside.getMandate P mandateId self present
  refine inside_code_alone P self fine fun inputs n outcome t ended => ?_
  obtain ⟨⟨now, added, posted, writes⟩, store, kept⟩ := posts inputs n outcome t ended
  rw [aside.rowFor] at kept
  refine inside_code_alone P self (local_send rfl) fun inputs' n' _ t' appended => ?_
  have sent := write_ok (fun _ _ _ => rfl) rfl appended
  refine inside_code_alone P self (local_leaveExecuting ..) fun inputs'' n'' _ t'' left => ?_
  have kept' : t'.memory.mandate? mandateId = some row := by
    rw [Memory.mandate?, sent.mandates]
    exact kept
  obtain ⟨-, writes''⟩ := leaveExecuting_alone P mandateId compensation_moves (by simp)
    (by exact kept') left
  refine inside_commit (fun reply => ?_) fun db same => made _ ?_
  · cases reply with
    | ok _ => exact ⟨_, rfl⟩
    | error failure => exact ⟨_, rfl⟩
  · refine ⟨memory.view P p, now, outcome, added, aside.view P self, posted, ?_⟩
    rw [← shared_posted P mandateId (same.trans self.symm) added _
      [.auditEntry (compensationApplied { c with mandateId } orderId outcomeName outcome)] []
      (by simp [Write.isAside]) (by simp), Memory.view, writes'',
      sent.writes, writes, fromExecuting_toList mandateId seen, List.append_nil]

end Compensate

/-! ### Statements beside the lock -/

/-- A statement that neither reads the mandate nor writes what its lock protects, nor
commits. -/
def Apart : Statement → Prop
  | .getOrder _ | .setOrderPayment .. | .appendEntry _ | .updateSaga .. => True
  | _ => False

theorem silent_of_apart (statement : Statement) (apart : Apart statement)
    (reply : statement.Reply) : (engine P).publishes statement reply = false := by
  cases statement with
  | commit => cases apart
  | _ => rfl

theorem unlocked_of_apart (statement : Statement) (apart : Apart statement) (memory : Memory) :
    (engine P).lock statement memory ≠ some (.mandate mandateId) := by
  cases statement with
  | getOrder orderId => simp [engine, Statement.lock]
  | setOrderPayment orderId status payment reason => simp [engine, Statement.lock]
  | appendEntry request => simp [engine, Statement.lock]
  | updateSaga sagaId step status => simp [engine, Statement.lock]
  | _ => exact absurd apart id

theorem Aside.write {memory : Memory} (aside : Aside memory) {w : Write}
    (beside : w.isAside = true) : Aside (memory.write w) := by
  refine ⟨aside.mandates, fun w' member => ?_⟩
  rcases List.mem_append.mp member with old | new
  · exact aside.writes w' old
  · rw [List.mem_singleton.mp new]
    exact beside

theorem Aside.perform {memory : Memory} (aside : Aside memory) {statement : Statement}
    (apart : Apart statement) (db : Database) (input : StatementInput) :
    Aside ((engine P).perform statement input db memory).2 := by
  simp only [engine, Statement.execute]
  cases input.fault with
  | some failure => exact aside
  | none =>
      cases statement with
      | getOrder orderId =>
          simp only [Statement.perform]
          split
          next => exact aside
          next =>
            split
            next => exact aside
            next o found =>
              rw [Memory.loadOrder]
              split
              next => exact aside
              next => exact ⟨aside.mandates, aside.writes⟩
      | setOrderPayment orderId status payment reason =>
          simp only [Statement.perform, Memory.setOrderPayment]
          split
          next => exact aside
          next kept found =>
            have reread : ∀ orders, Aside { memory with orders } := fun orders =>
              ⟨aside.mandates, aside.writes⟩
            exact (reread _).write rfl
      | appendEntry request => exact aside.write rfl
      | updateSaga sagaId step status =>
          simp only [Statement.perform]
          split
          next => exact aside
          next => exact aside.write rfl
      | _ => exact absurd apart id

theorem anyhow_aside {α : Type} {body : Program Statement Statement.Reply α}
    (apart : body.Confined Apart) {memory : Memory} (aside : Aside memory) :
    Anyhow (engine P) (fun _ after => Aside after) body memory := by
  induction body generalizing memory with
  | done value => exact aside
  | act statement next ih =>
      intro db input
      exact ih _ (apart.2 _) (aside.perform P apart.1 db input)

/-- Code beside the lock, before anything else. -/
theorem outside_apart_bind {α : Type} {body : Work α} {rest : α → Work Unit} {memory : Memory}
    {enters : Statement → Memory → Database → Prop} {change : Database → Database → Prop}
    (apart : Code.ConfinedCode Apart body) (aside : Aside memory)
    (ends : ∀ value after, Aside after →
      Outside (engine P) shared (.mandate mandateId) enters change (rest value) after) :
    Outside (engine P) shared (.mandate mandateId) enters change (body >>= rest : Work Unit)
      memory :=
  outside_code_bind (silent_of_apart P) (unlocked_of_apart P mandateId) apart
    ((anyhow_aside P apart aside).mono fun _ after besides value _ => ends value after besides)

/-- A commit that leaves what the lock protects alone. -/
theorem outside_commit {memory : Memory} {enters : Statement → Memory → Database → Prop}
    {change : Database → Database → Prop}
    (aside : ∀ w ∈ memory.writes, w.isAside = true) :
    Outside (engine P) shared (.mandate mandateId) enters change (send .commit : Work Unit)
      memory := by
  intro db input
  cases fault : input.fault with
  | some failure =>
      simp only [engine, Statement.execute, fault]
      trivial
  | none =>
      simp only [engine, Statement.execute, fault, Statement.perform]
      exact ⟨shared_asides P aside db, _, rfl⟩

theorem apart_transitionStatus (orderId : String) (status : OrderStatus)
    (providerPaymentId declineReason : Option String) :
    Code.ConfinedCode Apart
      (transitionStatus orderId status providerPaymentId declineReason) := by
  refine confined_bind (confined_perform trivial _) fun found => ?_
  cases found with
  | none => exact confined_throw _
  | some order => exact confined_perform trivial _

theorem apart_failOrder (leftAlone : OrderStatus → Bool) (orderId reason : String) :
    Code.ConfinedCode Apart (failOrder leftAlone orderId reason) := by
  refine confined_bind (confined_perform trivial _) fun found => ?_
  cases found with
  | none => exact confined_pure _
  | some order =>
      dsimp only
      split
      next => exact confined_pure _
      next => exact apart_transitionStatus ..

/-! ### The tasks -/

theorem release_safe {memory : Memory} (aside : Aside memory) (c : Compensation)
    (orderId : Option String) {change : Database → Database → Prop}
    (made : ∀ p p', Carries p c.refId mandateId c.amountMinor →
      Sole p mandateId (isHeld p c.refId) c.amountMinor →
      Moved mandateId (fun db now => Ledger.release db now mandateId c.amountMinor c.refId)
        (fun _ db => fromExecuting mandateId .compensated db) p p' → change p p') :
    Outside (engine P) shared (.mandate mandateId)
      (fun _ _ p => Good mandateId p ∧ Carries p c.refId mandateId c.amountMinor ∧
        Sole p mandateId (isHeld p c.refId) c.amountMinor) change
      (compensate { c with mandateId } orderId "released"
        (release mandateId c.amountMinor c.refId)) memory := by
  refine outside_of_inside rfl rfl fun p enters => ?_
  obtain ⟨good, carries, sole⟩ := enters
  obtain ⟨row, present⟩ := good.present
  exact compensate_inside P mandateId aside good.self present (local_release ..)
    (fun inputs n result t ended =>
      release_alone (aside.getMandate P mandateId good.self present) ended)
    (fun p' moved => made p p' carries sole moved) c orderId "released"

theorem releaseReservation_safe (c : Compensation) :
    (Task.releaseReservation c).Safe P mandateId :=
  release_safe P mandateId aside_fresh c none fun _ _ carries sole moved => ⟨carries, sole, moved⟩

theorem voidOrder_safe (c : Compensation) (orderId : String) :
    (Task.voidOrder c orderId).Safe P mandateId :=
  outside_apart_bind P mandateId (apart_failOrder ..) aside_fresh fun _ _ aside =>
    release_safe P mandateId aside c (some orderId) fun _ _ carries sole moved =>
      ⟨carries, sole, moved⟩

theorem reverseSettlement_safe (c : Compensation) (orderId : String) :
    (Task.reverseSettlement c orderId).Safe P mandateId := by
  refine outside_apart_bind P mandateId (apart_failOrder ..) aside_fresh fun _ memory aside => ?_
  refine outside_of_inside rfl rfl fun p enters => ?_
  obtain ⟨good, carries, sole⟩ := enters
  obtain ⟨row, present⟩ := good.present
  exact compensate_inside P mandateId aside good.self present (local_reverseSettlement ..)
    (fun inputs n result t ended =>
      reverseSettlement_alone (aside.getMandate P mandateId good.self present) ended)
    (fun p' moved => ⟨carries, sole, moved⟩) c (some orderId) "reversed"

theorem recordPayment_safe (orderId : String) (status : OrderStatus)
    (providerPaymentId declineReason : Option String) (audited : Audit.AppendRequest) :
    (Task.recordPayment orderId status providerPaymentId declineReason audited).Safe P
      mandateId :=
  outside_apart_bind P mandateId (apart_transitionStatus ..) aside_fresh fun _ _ aside =>
    outside_apart_bind P mandateId (confined_perform trivial _) aside fun _ _ aside' =>
      outside_commit P mandateId aside'.writes

/-- The saga row is not under the lock of the mandate. -/
theorem inside_updateSaga {change : Database → Database → Prop} {p : Database} {memory : Memory}
    {sagaId step : String} {status : SagaStatus} {rest : Unit → Work Unit}
    (ends : Inside (engine P) shared change p (rest ())
      (memory.write (.saga sagaId step status))) :
    Inside (engine P) shared change p
      (send (.updateSaga sagaId step status) >>= rest : Work Unit) memory := by
  intro db input same
  simp only [engine, Statement.execute]
  cases input.fault with
  | some failure => trivial
  | none =>
      simp only [Statement.perform]
      cases (memory.view P db).getSaga sagaId with
      | none => trivial
      | some saga => exact ends

theorem settle_safe (saga : SagaRecord) (orderId providerPaymentId actorId traceId : String) :
    (Task.settle saga orderId providerPaymentId actorId traceId).Safe P mandateId := by
  refine outside_of_inside rfl rfl fun p enters => ?_
  obtain ⟨good, carries⟩ := enters
  obtain ⟨row, present⟩ := good.present
  have seen := aside_fresh.getMandate P mandateId good.self present
  refine inside_code_alone P good.self (local_capture ..) fun inputs n captured t ended => ?_
  obtain ⟨⟨now, added, posted, writes⟩, store, kept⟩ := capture_alone seen ended
  rw [aside_fresh.rowFor] at kept
  cases captured with
  | false =>
      refine inside_commit (fun reply => ⟨_, rfl⟩) fun db same =>
        ⟨carries, p, now, false, added, good.self, posted, ?_⟩
      have written := @shared_posted P mandateId .fresh _ _ (same.trans good.self.symm) added none
        [] [] (by simp) (by simp)
      rw [Memory.view, writes]
      simpa [view_fresh] using written
  | true =>
      refine inside_code_alone P good.self (local_leaveExecuting ..) fun inputs' n' _ t' left => ?_
      obtain ⟨-, writes'⟩ := leaveExecuting_alone P mandateId (settlement_moves saga.amountMinor)
        (by simp) (by exact kept) left
      refine inside_code_alone P good.self (local_send rfl) fun inputs'' n'' _ t'' appended => ?_
      have sent := write_ok (fun _ _ _ => rfl) rfl appended
      refine inside_updateSaga P (inside_commit (fun reply => ⟨_, rfl⟩) fun db same =>
        ⟨carries, p, now, true, added, good.self, posted, ?_⟩)
      have written := @shared_posted P mandateId .fresh _ _ (same.trans good.self.symm) added
        (fromExecuting mandateId .settled p) []
        [.auditEntry (settlementClosed { saga with mandateId } orderId providerPaymentId actorId
          traceId), .saga saga.id "S5_SETTLE" .completed] (by simp) (by simp [Write.isAside])
      rw [fromExecuting_toList mandateId present] at written
      rw [Memory.view, Memory.write, sent.writes, writes', writes]
      simpa [view_fresh] using written

/-- A status that the row has already is not written. -/
theorem outside_unwritten {row : MandateRow} {memory : Memory} {status : MandateStatus}
    {rest : Unit → Work Unit} {enters : Statement → Memory → Database → Prop}
    {change : Database → Database → Prop} (read : HasRead row mandateId memory)
    (already : row.status = status)
    (ends : Outside (engine P) shared (.mandate mandateId) enters change (rest ()) memory) :
    Outside (engine P) shared (.mandate mandateId) enters change
      (send (.setMandateStatus mandateId status) >>= rest : Work Unit) memory := by
  have unlocked : (engine P).lock (.setMandateStatus mandateId status) memory = none := by
    simp only [engine, Statement.lock, read.row, if_pos already]
  have kept : memory.setMandateStatus mandateId status = memory := by
    simp only [Memory.setMandateStatus, read.row, if_pos already]
  have shape : (send (.setMandateStatus mandateId status) >>= rest : Work Unit) =
      .act (.setMandateStatus mandateId status) fun reply =>
        ExceptT.bindCont rest reply := rfl
  rw [shape, Outside, unlocked, if_neg (by simp)]
  intro db input
  simp only [engine, Statement.execute]
  cases input.fault with
  | some failure => trivial
  | none =>
      simp only [Statement.perform, kept]
      exact ends

theorem revoke_safe : Task.revoke.Safe P mandateId := by
  have update : updateStatus mandateId .revoked = send (.getMandate mandateId) >>= fun found =>
      (found.elim (throw .keyError) fun _ =>
        send (.setMandateStatus mandateId .revoked) : Work Unit) := by
    unfold updateStatus
    congr 1
    funext found
    cases found with
    | none => rfl
    | some row => rfl
  have code : Task.revoke.code P mandateId = (send (.getMandate mandateId) >>= fun found =>
      (found.elim (throw .keyError) fun _ =>
        send (.setMandateStatus mandateId .revoked) : Work Unit) >>= fun _ =>
      send .commit) := by
    show revoke mandateId = _
    rw [revoke, update]
    exact Code.bind_assoc ..
  rw [Task.Safe, code]
  refine outside_code_bind silent_of_reads unlocked_of_reads (confined_perform trivial _)
    (anyhow_send fun db input found after performed => ?_)
  have first := perform_getMandate_fresh P mandateId input db
  rw [performed] at first
  cases found with
  | none => trivial
  | some row =>
      have read : HasRead row mandateId after := first.2 row (Except.ok.inj first.1).symm
      by_cases already : row.status = .revoked
      · refine outside_unwritten P mandateId read already ?_
        exact outside_commit P mandateId fun w member => by rw [read.writes] at member; cases member
      · have needs : (engine P).lock (.setMandateStatus mandateId .revoked) after =
            some (.mandate mandateId) := by
          simp only [engine, Statement.lock, read.row, if_neg already]
        refine outside_of_inside rfl needs fun p enters => ?_
        refine inside_code_alone P enters.1.self (local_send rfl) fun inputs n _ t sent => ?_
        have set : after.setMandateStatus mandateId .revoked = t.memory :=
          (Prod.mk.inj (send_ok sent).1).2
        refine inside_commit (fun reply => ⟨_, rfl⟩) fun db' same =>
          ⟨p, fun _ => 0, (), [], enters.1.self, by simp [withEntries], ?_⟩
        have written : t.memory.writes = [.mandateStatus mandateId .revoked] := by
          rw [← set, Memory.setMandateStatus, read.row]
          simp only [if_neg already, Memory.write, read.writes, List.nil_append]
        rw [Memory.view, written, shared_foldl (same.trans enters.1.self.symm)]
        simp [withEntries, writeStatus, Write.apply]

theorem finalizeSaga_safe (sagaId step : String) (status : SagaStatus) :
    (Task.finalizeSaga sagaId step status).Safe P mandateId :=
  outside_apart_bind P mandateId (confined_perform trivial _) aside_fresh fun _ _ aside =>
    outside_commit P mandateId aside.writes

theorem task_safe (task : Task) : task.Safe P mandateId := by
  cases task with
  | attemptGates req key => exact attemptGates_safe P mandateId req key
  | settle saga orderId providerPaymentId actorId traceId =>
      exact settle_safe P mandateId saga orderId providerPaymentId actorId traceId
  | releaseReservation c => exact releaseReservation_safe P mandateId c
  | voidOrder c orderId => exact voidOrder_safe P mandateId c orderId
  | reverseSettlement c orderId => exact reverseSettlement_safe P mandateId c orderId
  | recordPayment orderId status providerPaymentId declineReason audited =>
      exact recordPayment_safe P mandateId orderId status providerPaymentId declineReason audited
  | finalizeSaga sagaId step status => exact finalizeSaga_safe P mandateId sagaId step status
  | revoke => exact revoke_safe P mandateId

end Safe

end Actl.UnitOfWork
