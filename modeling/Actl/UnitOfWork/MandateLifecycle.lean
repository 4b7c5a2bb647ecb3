import Actl.Ledger.BudgetCap
import Actl.Runs.Fixture
import Actl.UnitOfWork.MandateRuns

/-!
# The mandate lifecycle under concurrency

In every run on a mandate in which each session finds what it must when it gets the
lock (`Task.Enters`), the committed status goes along the transition table only,
REVOKED, SETTLED and COMPENSATED are never left for EXECUTING, and a compensated
mandate has nothing reserved or spent (`mandate_lifecycle_concurrent`).

Both conditions are needed. A revocation between the status read of a gate attempt
and its lock is overwritten with EXECUTING, and a compensation of one reference
closes the mandate over the hold of another.
-/

set_option autoImplicit false

namespace Actl.UnitOfWork

open Foundation (Code Program Engine Sessions Table Turn)
open Foundation.Sessions (AdmissibleRun Changes Disciplined disciplined_initial run_disciplined)
open Gate (MoneyActionRequest Compensation)
open Ledger (Book Hold Keeps Carries Phase committedTotal advance_eq_self plain_of_getMandate)
open Mandates (MandateStatus transitions)

/-! ## One change -/

section Status

variable {db db' : Database} {mandateId : String}

theorem statusOf_of_shared (same : shared db = shared db') :
    statusOf db mandateId = statusOf db' mandateId := by
  rw [statusOf, statusOf, getMandate_of_shared same]

theorem getMandate_writeStatus {row : MandateRow} (present : db.getMandate mandateId = some row)
    (status : Option MandateStatus) :
    (writeStatus mandateId status db).getMandate mandateId =
      some { row with status := status.getD row.status } := by
  cases status with
  | none => exact present
  | some status =>
      obtain ⟨member, mine⟩ := Table.get?_mem present
      have moved : { row with status := status } ∈
          (db.updateMandateStatus mandateId status).mandates := by
        simp only [Database.updateMandateStatus, Table.mem_modify]
        exact ⟨row, member, by simp [mine]⟩
      exact (Table.get?_eq_some_iff (by simp)).mpr ⟨moved, mine⟩

/-- The committed status after a transaction that has written this one, or none. -/
theorem statusOf_writeStatus {row : MandateRow} (present : db.getMandate mandateId = some row)
    (status : Option MandateStatus) :
    statusOf (writeStatus mandateId status db) mandateId = some (status.getD row.status) := by
  rw [statusOf, getMandate_writeStatus present]
  rfl

theorem entries_writeStatus (status : Option MandateStatus) :
    (writeStatus mandateId status db).ledgerEntries = db.ledgerEntries := by
  cases status with
  | none => rfl
  | some status => rfl

theorem mandates_writeStatus (status : Option MandateStatus) :
    ∀ row ∈ db.mandates, ∃ row' ∈ (writeStatus mandateId status db).mandates, row'.id = row.id := by
  intro row member
  cases status with
  | none => exact ⟨row, member, rfl⟩
  | some status =>
      simp only [writeStatus, Database.updateMandateStatus, Table.mem_modify]
      refine ⟨_, ⟨row, member, rfl⟩, ?_⟩
      split
      next => rfl
      next => rfl

end Status

/-- A change that does this to the book of the ledger and leaves the mandate with this
status. -/
structure Stepped (mandateId : String) (step : Book → Book) (status : MandateStatus)
    (p p' : Database) : Prop where
  self : shared p' = p'
  book : ∀ book, Keeps p book → Keeps p' (step book)
  status : ∃ row, p'.getMandate mandateId = some row ∧ row.status = status

/-- What an operation on the ledger does to the book, it does to the book of the
tables; the status is what the transaction has written. -/
theorem Moved.stepped {α : Type} {mandateId : String}
    {operation : Database → (Nat → Time) → α × Database}
    {wrote : α → Database → Option MandateStatus} {p p' : Database} {row : MandateRow}
    {step : Book → Book} (moved : Moved mandateId operation wrote p p')
    (present : p.getMandate mandateId = some row)
    (keeps : ∀ db now book, shared db = p → Keeps db book →
      Keeps (operation db now).2 (step book)) :
    ∃ result db, shared db = p ∧
      Stepped mandateId step ((wrote result db).getD row.status) p p' := by
  obtain ⟨db, now, result, added, same, done, rfl⟩ := moved
  have present' : (withEntries db added).getMandate mandateId = some row := by
    rw [← present, ← same]
    rfl
  refine ⟨result, db, same, rfl, fun book kept => ?_, _, getMandate_writeStatus present' _, rfl⟩
  have kept' : Keeps db book := by
    refine kept.congr ?_ fun row member => ⟨row, ?_, rfl⟩
    · rw [← same]
      rfl
    · rw [← same] at member
      exact member
  have posted := keeps db now book same kept'
  rw [done] at posted
  exact posted.congr (entries_writeStatus _) (mandates_writeStatus _)

/-! ## The status -/

/-- The status stays, or goes along the transition table. -/
def Follows (status status' : MandateStatus) : Prop :=
  status' = status ∨ ∃ t ∈ transitions,
    (t.fromStatus = none ∨ t.fromStatus = some status) ∧ t.toStatus = status'

instance (status status' : MandateStatus) : Decidable (Follows status status') :=
  inferInstanceAs (Decidable (_ ∨ _))

/-- The statuses that are not left for EXECUTING. -/
def isClosed : MandateStatus → Bool
  | .revoked | .settled | .compensated => true
  | _ => false

theorem Follows.closed {status status' : MandateStatus} (follows : Follows status status')
    (closed : isClosed status = true) : isClosed status' = true := by
  have sinks : ∀ t ∈ transitions, t.fromStatus.all isClosed = true → isClosed t.toStatus = true := by
    decide
  rcases follows with rfl | ⟨t, member, source, rfl⟩
  · exact closed
  · refine sinks t member ?_
    rcases source with any | mine
    · rw [any]
      rfl
    · rw [mine]
      exact closed

/-- The status after EXECUTING has been left for this one, if it was EXECUTING. -/
theorem fromExecuting_getD {db : Database} {mandateId : String} {row : MandateRow}
    (present : db.getMandate mandateId = some row) (status : MandateStatus) :
    (fromExecuting mandateId status db).getD row.status =
      if row.status = .executing then status else row.status := by
  rw [fromExecuting, statusOf_of_getMandate mandateId present]
  by_cases executing : row.status = .executing
  · simp [executing]
  · simp [executing]

/-! ## What each task does -/

section Changes

variable {mandateId : String} {p p' : Database} {row : MandateRow}

/-- The tables after a change: its status follows, and a compensated mandate is left
with nothing. -/
structure Fine (mandateId : String) (p p' : Database) (status status' : MandateStatus)
    (step : Book → Book) : Prop where
  stepped : Stepped mandateId step status' p p'
  follows : Follows status status'
  empty : status' = .compensated → ∀ book, Keeps p book → (step book).committed mandateId = 0

theorem Good.committed (good : Good mandateId p) (present : p.getMandate mandateId = some row)
    (compensated : row.status = .compensated) {book : Book} (kept : Keeps p book) :
    book.committed mandateId = 0 := by
  rw [← kept.committedTotal_eq (plain_of_getMandate present)]
  refine good.compensated ?_
  rw [statusOf_of_getMandate mandateId present, compensated]

/-- A hold that is moved on without coming back to life leaves nothing where there was
nothing. -/
theorem committed_advance_zero {book : Book} (kept : Keeps p book) {refId : String}
    {source target : Phase} (lively : target.isLive → source.isLive)
    (nothing : book.committed mandateId = 0)
    (positive : ∀ h ∈ book.advance refId source target, 0 < h.amountMinor) :
    (book.advance refId source target).committed mandateId = 0 := by
  have above := @Book.committed_advance_le book refId source target kept.positive lively
    mandateId
  have both := Book.balance_nonneg positive mandateId
  rw [nothing] at above
  rw [Book.committed_eq] at above ⊢
  omega

/-- A compensation. What it may find is that the reference has a hold that it ends, and
then that is the whole of what the mandate has. -/
theorem compensation_fine {operation : Database → (Nat → Time) → Bool × Database}
    {refId : String} {amountMinor : Int} {source target : Phase} {live : Bool}
    (good : Good mandateId p) (present : p.getMandate mandateId = some row)
    (carries : Carries p refId mandateId amountMinor) (sole : Sole p mandateId live amountMinor)
    (moved : Moved mandateId operation (fun _ db => fromExecuting mandateId .compensated db) p p')
    (keeps : ∀ db now book, Carries db refId mandateId amountMinor → Keeps db book →
      Keeps (operation db now).2 (book.advance refId source target))
    (lively : source.isLive = true) (dead : target.isLive = false)
    (found : ∀ book, Keeps p book →
      (live = true ↔ ∃ h ∈ book, h.refId = refId ∧ h.phase = source)) :
    ∃ status', Fine mandateId p p' row.status status' fun book =>
      book.advance refId source target := by
  obtain ⟨result, db, same, stepped⟩ := moved.stepped present fun db now book same kept =>
    keeps db now book (by rw [← same] at carries; exact carries) kept
  have present' : db.getMandate mandateId = some row := by
    rw [← present, ← same]
    rfl
  rw [fromExecuting_getD present'] at stepped
  refine ⟨_, stepped, ?_, fun compensated book kept => ?_⟩
  · split
    next executing =>
      rw [executing]
      decide
    next => exact .inl rfl
  · split at compensated
    next executing =>
      have total := sole (by rw [statusOf_of_getMandate mandateId present, executing])
      rw [kept.committedTotal_eq (plain_of_getMandate present)] at total
      split at total
      next held =>
        -- The one hold of the mandate that is left ends.
        obtain ⟨h, member, rfl, rfl⟩ := (found book kept).mp held
        obtain ⟨rfl, rfl⟩ := kept.terms_of_carries carries h member rfl
        rw [Book.committed_advance_dead member lively dead, total, sub_self]
      next nothing =>
        rw [advance_eq_self fun h member ref phase =>
          nothing ((found book kept).mpr ⟨h, member, ref, phase⟩), total]
    next =>
      refine committed_advance_zero kept (fun alive => ?_)
        (good.committed present compensated kept) (stepped.book book kept).positive
      rw [dead] at alive
      cases alive

theorem isHeld_iff {refId : String} {book : Book} (kept : Keeps p book) :
    isHeld p refId = true ↔ ∃ h ∈ book, h.refId = refId ∧ h.phase = .held := by
  rw [isHeld, decide_eq_true_eq]
  constructor
  · exact kept.exists_held
  · rintro ⟨h, member, rfl, held⟩
    rw [kept.stateOfRef_of_mem member, held]
    rfl

theorem isSettled_iff {refId : String} {book : Book} (kept : Keeps p book) :
    isSettled p refId = true ↔ ∃ h ∈ book, h.refId = refId ∧ h.phase = .captured := by
  rw [isSettled, decide_eq_true_eq, Ledger.refTypes, kept.refType_mem, kept.refType_mem]
  constructor
  · rintro ⟨⟨h, found, captured⟩, unreversed⟩
    obtain ⟨member, ref⟩ := Book.find?_eq_some.mp found
    refine ⟨h, member, ref, ?_⟩
    have open' : Ledger.RefType.reverse ∉ h.phase.legs.map Ledger.Leg.refType :=
      fun reversed => unreversed ⟨h, found, reversed⟩
    cases phase : h.phase <;> simp [phase, Phase.legs] at captured open' ⊢
  · rintro ⟨h, member, ref, phase⟩
    have found : book.find? refId = some h := Book.find?_eq_some.mpr ⟨member, ref⟩
    refine ⟨⟨h, found, by simp [phase, Phase.legs]⟩, ?_⟩
    rintro ⟨h', found', reversed⟩
    rw [found] at found'
    cases found'
    simp [phase, Phase.legs] at reversed

theorem attemptGates_fine {req : MoneyActionRequest} {key : String}
    (present : p.getMandate mandateId = some row)
    (change : (Task.attemptGates req key).Change mandateId p p') :
    ∃ status' step, Fine mandateId p p' row.status status' step := by
  obtain ⟨positive, read, admitted, current, moved⟩ := change
  have now := current row present
  obtain ⟨result, db, same, stepped⟩ := moved.stepped present fun db now book same kept => by
    have present' : db.getMandate mandateId = some row := by
      rw [← present, ← same]
      rfl
    exact kept.reserve present' positive _ now
  refine ⟨_, _, stepped, ?_, fun compensated => ?_⟩
  · by_cases locked : read.status = .locked
    · rw [Current, locked] at now
      simp only [locked, if_true, Option.getD_some]
      rcases now with same | same | ⟨contradiction, -⟩
      · rw [same]
        decide
      · rw [same]
        decide
      · cases contradiction
    · rw [if_neg locked]
      exact .inl rfl
  · exfalso
    by_cases locked : read.status = .locked
    · simp [locked] at compensated
    · rw [if_neg locked, Option.getD_none] at compensated
      rw [Current, compensated] at now
      simp at now

theorem settle_fine {saga : SagaRecord} {orderId providerPaymentId actorId traceId : String}
    (good : Good mandateId p) (present : p.getMandate mandateId = some row)
    (change : (Task.settle saga orderId providerPaymentId actorId traceId).Change mandateId p p') :
    ∃ status' step, Fine mandateId p p' row.status status' step := by
  obtain ⟨carries, moved⟩ := change
  obtain ⟨captured, db, same, stepped⟩ := moved.stepped present fun db now book same kept =>
    kept.capture (by rw [← same] at carries; exact carries) now
  have present' : db.getMandate mandateId = some row := by
    rw [← present, ← same]
    rfl
  have becomes : (if captured = true then fromExecuting mandateId .settled db else none).getD
      row.status = if captured = true ∧ row.status = .executing then .settled else row.status := by
    cases captured with
    | false => rfl
    | true =>
        rw [if_pos rfl, fromExecuting_getD present']
        simp
  rw [becomes] at stepped
  refine ⟨_, _, stepped, ?_, fun compensated book kept => ?_⟩
  · split
    next executing =>
      rw [executing.2]
      decide
    next => exact .inl rfl
  · split at compensated
    next => cases compensated
    next =>
      exact committed_advance_zero kept (fun _ => rfl) (good.committed present compensated kept)
        (stepped.book book kept).positive

theorem revoke_fine (present : p.getMandate mandateId = some row)
    (change : Task.revoke.Change mandateId p p') :
    ∃ status' step, Fine mandateId p p' row.status status' step := by
  obtain ⟨result, db, same, stepped⟩ := Moved.stepped change present
    fun db now book same (kept : Keeps db book) => (kept : Keeps db (id book))
  refine ⟨_, _, stepped, .inr ⟨⟨none, .revoke, .revoked, none⟩, by simp [transitions], .inl rfl,
    rfl⟩, fun compensated => by cases compensated⟩

/-- Every change leaves the tables as they should be. -/
theorem change_fine {task : Task} (good : Good mandateId p)
    (present : p.getMandate mandateId = some row) (change : task.Change mandateId p p') :
    ∃ status' step, Fine mandateId p p' row.status status' step := by
  cases task with
  | attemptGates req key => exact attemptGates_fine present change
  | settle saga orderId providerPaymentId actorId traceId => exact settle_fine good present change
  | releaseReservation c =>
      obtain ⟨carries, sole, moved⟩ := change
      obtain ⟨status', fine⟩ := compensation_fine good present carries sole moved
        (fun _ now _ carries kept => kept.release carries now) rfl rfl fun _ kept => isHeld_iff kept
      exact ⟨status', _, fine⟩
  | voidOrder c orderId =>
      obtain ⟨carries, sole, moved⟩ := change
      obtain ⟨status', fine⟩ := compensation_fine good present carries sole moved
        (fun _ now _ carries kept => kept.release carries now) rfl rfl fun _ kept => isHeld_iff kept
      exact ⟨status', _, fine⟩
  | reverseSettlement c orderId =>
      obtain ⟨carries, sole, moved⟩ := change
      obtain ⟨status', fine⟩ := compensation_fine good present carries sole moved
        (fun _ now _ carries kept => kept.reverseSettlement carries now) rfl rfl
        fun _ kept => isSettled_iff kept
      exact ⟨status', _, fine⟩
  | recordPayment orderId status providerPaymentId declineReason audited => exact change.elim
  | finalizeSaga sagaId step status => exact change.elim
  | revoke => exact revoke_fine present change

theorem Fine.good {status status' : MandateStatus} {step : Book → Book}
    (fine : Fine mandateId p p' status status' step) (good : Good mandateId p) :
    Good mandateId p' := by
  obtain ⟨book, kept⟩ := good.book
  obtain ⟨row, present, mine⟩ := fine.stepped.status
  have kept' := fine.stepped.book book kept
  refine ⟨fine.stepped.self, ⟨_, kept'⟩, ⟨row, present⟩, fun compensated => ?_⟩
  rw [statusOf_of_getMandate mandateId present, mine] at compensated
  rw [kept'.committedTotal_eq (plain_of_getMandate present)]
  exact fine.empty (Option.some.inj compensated) book kept

end Changes

/-! ## Runs -/

instance (mandateId : String) (memory : Memory) (p : Database) :
    (task : Task) → Decidable (task.Enters mandateId memory p)
  | .attemptGates _ _ => inferInstanceAs (Decidable (_ ∧ _))
  | .settle _ _ _ _ _ => inferInstanceAs (Decidable (Carries ..))
  | .releaseReservation _ | .voidOrder _ _ | .reverseSettlement _ _ =>
      inferInstanceAs (Decidable (_ ∧ _))
  | .recordPayment .. | .finalizeSaga .. | .revoke => .isTrue trivial

section Runs

variable (P : Platform) (mandateId : String)

/-- Sessions on the mandate, and what they have committed. -/
abbrev MandateRun : Type :=
  Sessions Statement Statement.Reply Database Memory Lock Task (Except Failure Unit)

/-- Each session finds what it must when it gets the lock of the mandate. -/
def MandateRun.Admissible (state : MandateRun)
    (turns : List (Turn StatementInput Task)) : Prop :=
  AdmissibleRun (engine P) (Task.code P mandateId) shared (.mandate mandateId)
    (fun task _ memory p => task.Enters mandateId memory p) state turns

instance (state : MandateRun) (turns : List (Turn StatementInput Task)) :
    Decidable (state.Admissible P mandateId turns) :=
  inferInstanceAs (Decidable (AdmissibleRun ..))

/-- The state after some turns. -/
def MandateRun.after (state : MandateRun)
    (turns : List (Turn StatementInput Task)) : MandateRun :=
  state.run (engine P) (Task.code P mandateId) turns

/-- Between any two statements: the sessions keep to the lock, and the tables are as
they should be. -/
structure Sound (state : MandateRun) : Prop where
  disciplined : state.Disciplined (engine P) shared (.mandate mandateId)
    (fun task _ memory p => Good mandateId p ∧ task.Enters mandateId memory p)
    (fun task p p' => task.Change mandateId p p')
  good : Good mandateId (shared state.store)

variable {P mandateId} {state : MandateRun}

/-- One turn of any session. -/
theorem Sound.step (sound : Sound P mandateId state)
    {turn : Turn StatementInput Task}
    {turns : List (Turn StatementInput Task)}
    (admissible : state.Admissible P mandateId (turn :: turns)) :
    Sound P mandateId (state.after P mandateId [turn]) ∧
      (state.after P mandateId [turn]).Admissible P mandateId turns ∧
      ∃ status status', statusOf state.store mandateId = some status ∧
        statusOf (state.after P mandateId [turn]).store mandateId = some status' ∧
        Follows status status' := by
  obtain ⟨disciplined, changes⟩ := sound.disciplined.apply (task_safe P mandateId)
    (show state.Admits _ _ _ _ turn from
      fun taken takes => ⟨sound.good, admissible.1 taken takes⟩)
  obtain ⟨row, present⟩ := sound.good.present
  have before : statusOf state.store mandateId = some row.status :=
    (statusOf_of_shared (shared_shared _).symm).trans (statusOf_of_getMandate mandateId present)
  refine ⟨?_, admissible.2, row.status, ?_⟩
  · refine ⟨disciplined, ?_⟩
    rcases changes with same | ⟨_, _, _, -, -, change⟩
    · exact same ▸ sound.good
    · obtain ⟨status', step, fine⟩ := change_fine sound.good present change
      exact fine.good sound.good
  · rcases changes with same | ⟨_, _, _, -, -, change⟩
    · refine ⟨row.status, before, ?_, .inl rfl⟩
      rw [← before]
      exact statusOf_of_shared same
    · obtain ⟨status', step, fine⟩ := change_fine sound.good present change
      obtain ⟨row', present', mine⟩ := fine.stepped.status
      refine ⟨status', before, ?_, fine.follows⟩
      rw [← mine]
      exact (statusOf_of_shared (shared_shared _).symm).trans
        (statusOf_of_getMandate mandateId present')

theorem MandateRun.after_cons (turn : Turn StatementInput Task)
    (turns : List (Turn StatementInput Task)) :
    state.after P mandateId (turn :: turns) =
      MandateRun.after P mandateId (state.after P mandateId [turn]) turns := rfl

theorem MandateRun.after_append (before later : List (Turn StatementInput Task)) :
    state.after P mandateId (before ++ later) =
      MandateRun.after P mandateId (state.after P mandateId before) later :=
  Sessions.run_append ..

theorem MandateRun.admissible_append {before later : List (Turn StatementInput Task)} :
    state.Admissible P mandateId (before ++ later) ↔ state.Admissible P mandateId before ∧
      MandateRun.Admissible P mandateId (state.after P mandateId before) later :=
  Sessions.admissibleRun_append ..

theorem Sound.run (sound : Sound P mandateId state) {turns : List (Turn StatementInput Task)}
    (admissible : state.Admissible P mandateId turns) :
    Sound P mandateId (state.after P mandateId turns) := by
  induction turns generalizing state with
  | nil => exact sound
  | cons turn turns ih =>
      obtain ⟨sound', admissible', -⟩ := sound.step admissible
      exact ih sound' admissible'

/-- A status that is closed stays closed. -/
theorem Sound.closed (sound : Sound P mandateId state) {turns : List (Turn StatementInput Task)}
    (admissible : state.Admissible P mandateId turns) {status : MandateStatus}
    (now : statusOf state.store mandateId = some status) (closed : isClosed status = true) :
    ∃ later, statusOf (state.after P mandateId turns).store mandateId = some later ∧
      isClosed later = true := by
  induction turns generalizing state status with
  | nil => exact ⟨status, now, closed⟩
  | cons turn turns ih =>
      obtain ⟨sound', admissible', status₁, status', before, after, follows⟩ := sound.step admissible
      rw [now] at before
      cases before
      exact ih sound' admissible' after (follows.closed closed)

/-- What a compensated mandate has in its buckets. -/
theorem Sound.compensated (sound : Sound P mandateId state)
    (compensated : statusOf state.store mandateId = some .compensated) :
    Ledger.balance state.store (Ledger.account mandateId .reserved) = 0 ∧
      Ledger.balance state.store (Ledger.account mandateId .settled) = 0 := by
  obtain ⟨book, kept⟩ := sound.good.book
  obtain ⟨row, present⟩ := sound.good.present
  have plain := plain_of_getMandate present
  have total := sound.good.compensated
    ((statusOf_of_shared (shared_shared _)).trans compensated)
  have nonneg := Book.balance_nonneg kept.positive mandateId
  rw [kept.committedTotal_eq plain, Book.committed_eq] at total
  have reserved : Ledger.balance state.store (Ledger.account mandateId .reserved) =
      book.balance mandateId .reserved := kept.balance_eq plain _
  have settled : Ledger.balance state.store (Ledger.account mandateId .settled) =
      book.balance mandateId .settled := kept.balance_eq plain _
  rw [reserved, settled]
  omega

theorem sound_initial {db : Database} {row : MandateRow}
    (present : db.getMandate mandateId = some row) (empty : db.ledgerEntries = []) :
    Sound P mandateId (.initial db) := by
  have present' : (shared db).getMandate mandateId = some row := present
  obtain ⟨book, kept, -⟩ := (Ledger.budgeted_of_empty empty : Ledger.Budgeted (shared db))
  refine ⟨Sessions.disciplined_initial .., rfl, ⟨book, kept⟩, ⟨row, present'⟩, fun _ => ?_⟩
  simp [committedTotal, Ledger.balance, Database.listForAccount, shared, Sessions.initial, empty,
    Ledger.netBalance]

end Runs

/-- Any number of gate attempts, settlements, compensations and revocations of one
mandate, interleaved statement by statement, as long as each finds what it must when it
gets the lock: the committed status follows the transition table, nothing leads from
REVOKED, SETTLED or COMPENSATED to EXECUTING, and a compensated mandate has nothing
reserved and nothing settled. -/
theorem mandate_lifecycle_concurrent (P : Platform) (mandateId : String) (db : Database)
    (row : MandateRow) (present : db.getMandate mandateId = some row)
    (empty : db.ledgerEntries = []) (turns : List (Turn StatementInput Task))
    (admissible : MandateRun.Admissible P mandateId (.initial db) turns) :
    (∀ before turn later, turns = before ++ turn :: later →
      ∃ status status',
        statusOf (MandateRun.after P mandateId (.initial db) before).store mandateId =
          some status ∧
        statusOf (MandateRun.after P mandateId (.initial db) (before ++ [turn])).store mandateId =
          some status' ∧ Follows status status') ∧
    (∀ before later, turns = before ++ later → ∀ status,
      statusOf (MandateRun.after P mandateId (.initial db) before).store mandateId = some status →
      status = .revoked ∨ status = .settled ∨ status = .compensated →
      statusOf (MandateRun.after P mandateId (.initial db) turns).store mandateId ≠
        some .executing) ∧
    (∀ before later, turns = before ++ later →
      let store := (MandateRun.after P mandateId (.initial db) before).store
      statusOf store mandateId = some .compensated →
      Ledger.balance store (Ledger.account mandateId .reserved) = 0 ∧
        Ledger.balance store (Ledger.account mandateId .settled) = 0) := by
  have sound : Sound P mandateId (.initial db) := sound_initial present empty
  refine ⟨fun before turn later split => ?_, fun before later split status now closed => ?_,
    fun before later split => ?_⟩
  · rw [split, MandateRun.admissible_append] at admissible
    obtain ⟨-, -, follows⟩ := (sound.run admissible.1).step admissible.2
    rw [MandateRun.after_append]
    exact follows
  · rw [split, MandateRun.admissible_append] at admissible
    have closed' : isClosed status = true := by
      rcases closed with rfl | rfl | rfl
      · rfl
      · rfl
      · rfl
    obtain ⟨status', after, still⟩ := (sound.run admissible.1).closed admissible.2 now closed'
    rw [split, MandateRun.after_append, after]
    intro executing
    cases executing
    cases still
  · rw [split, MandateRun.admissible_append] at admissible
    exact (sound.run admissible.1).compensated

/-! ## Concrete runs -/

section Concrete

open Fixture (platform request decided)

/-- A statement that does not fail. -/
def statementInput : StatementInput := ⟨none, Fixture.start, .ok [], .ok ()⟩

/-- A session for the task, and so many of its statements. -/
def session (id : Nat) (task : Task) (statements : Nat) : List (Turn StatementInput Task) :=
  .start id task :: List.replicate statements (.step id statementInput)

/-- The first attempt for the first quote, under its key. -/
def firstAttempt : Task := .attemptGates request "ik_67e34bdc91084ae9992f70878d53edfc"

def declined : Task :=
  .releaseReservation ⟨"mdt_1", 420000, "ik_67e34bdc91084ae9992f70878d53edfc", "system", "trc_1",
    "payment_declined"⟩

/-- The committed state of the mandate after a run from the fixture. -/
def storeAfter (turns : List (Turn StatementInput Task)) : Database :=
  (MandateRun.after platform "mdt_1" (.initial decided) turns).store

theorem store_after (turns : List (Turn StatementInput Task)) :
    (MandateRun.after platform "mdt_1" (.initial decided) turns).store = storeAfter turns := rfl

/-- A pass, its compensation and a revocation, one after the other. -/
theorem mandate_lifecycle_sequential :
    statusOf (storeAfter (session 0 firstAttempt 20 ++ session 1 declined 12 ++
        session 2 .revoke 3)) "mdt_1" ≠ some .executing := by
  have evaluated : MandateRun.Admissible platform "mdt_1" (.initial decided)
      (session 0 firstAttempt 20 ++ session 1 declined 12 ++ session 2 .revoke 3) ∧
      statusOf (storeAfter (session 0 firstAttempt 20 ++ session 1 declined 12)) "mdt_1" =
        some .compensated := by
    decide +kernel
  rw [← store_after] at evaluated ⊢
  exact (mandate_lifecycle_concurrent platform "mdt_1" decided Fixture.row (by rfl) (by rfl) _
    evaluated.1).2.1 _ _ rfl .compensated evaluated.2 (.inr (.inr rfl))

/-- A revocation that commits between the first read of a gate attempt and its lock. -/
def revoked : List (Turn StatementInput Task) := session 0 firstAttempt 1 ++ session 1 .revoke 3

/-- Two attempts hold money, and the first is compensated. -/
def siblings : List (Turn StatementInput Task) :=
  session 0 firstAttempt 20 ++
    session 1 (.attemptGates { request with attemptNo := 2 } "ik_70fbcdd7808258f2d15c454fa5433a83")
      20 ++ session 2 declined 12

/-- The revocation is overwritten with EXECUTING. And a mandate is compensated for one
reference while another is held. -/
theorem mandate_lifecycle_broken :
    statusOf (storeAfter revoked) "mdt_1" = some .revoked ∧
      statusOf (storeAfter (revoked ++ List.replicate 19 (.step 0 statementInput))) "mdt_1" =
        some .executing ∧
      statusOf (storeAfter siblings) "mdt_1" = some .compensated ∧
      Ledger.balance (storeAfter siblings) (Ledger.account "mdt_1" .reserved) = 420000 := by
  decide +kernel

end Concrete

end Actl.UnitOfWork
