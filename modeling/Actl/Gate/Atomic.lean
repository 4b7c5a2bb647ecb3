import Actl.UnitOfWork.Alone

/-!
# The gates are atomic

What an attempt at gates G1 to G5 leaves in the database, for every request, every
store, every reading of the clock and every statement that fails. Only the pass
commits, so a denial at any gate and an exception at any statement leave every
table as it was. A pass commits the writes the session has collected: the
reservation pair unless the key has entries, the status EXECUTING when LOCKED was
read, and one audit entry.
-/

set_option autoImplicit false

namespace Actl.UnitOfWork

open Foundation (Code Program Engine)
open Foundation.Code (ConfinedCode confined_bind confined_perform confined_pure confined_throw)
open Foundation.Engine (Transacting alone_bind alone_bind_ok alone_program_bind alone_store)
open Gate (GateExit MoneyActionRequest MoneyActionResult)
open Ledger (account entryPair)
open Mandates (Mandate MandateStatus transition)

/-! ## Nothing but the pass commits -/

theorem confined_inGate {allowed : Statement → Prop} {α : Type} {body : Work α}
    (fine : ConfinedCode allowed body) : ConfinedCode allowed (inGate body) :=
  Program.Confined.bind fine fun _ => trivial

theorem confined_check {allowed : Statement → Prop} (ok : Bool) (code : Policy.ReasonCode) :
    ConfinedCode allowed (check ok code) := by
  cases ok with
  | false => exact confined_throw _
  | true => exact confined_pure _

/-- A statement that neither writes nor locks. -/
def Reads : Statement → Prop
  | .now | .getMandate _ | .getDecision _ | .getQuote _ | .currentVersion => True
  | _ => False

theorem local_of_reads (statement : Statement) (reads : Reads statement) : Local statement := by
  cases statement with
  | now => rfl
  | getMandate mandateId => rfl
  | getDecision decisionId => rfl
  | getQuote quoteId => rfl
  | currentVersion => rfl
  | _ => exact absurd reads id

theorem reads_send {statement : Statement} (reads : Reads statement) :
    ConfinedCode Reads (inGate (send statement)) := confined_inGate (confined_perform reads _)

theorem reads_g1 (P : Platform) (req : MoneyActionRequest) : ConfinedCode Reads (g1 P req) := by
  refine confined_bind (reads_send trivial) fun found => ?_
  cases found with
  | none => exact confined_throw _
  | some row =>
      refine confined_bind (confined_check ..) fun _ => confined_bind (confined_check ..) fun _ =>
        confined_bind (confined_check ..) fun _ => ?_
      dsimp only
      split
      next =>
        exact confined_bind (confined_check ..) fun _ => confined_bind (reads_send trivial) fun _ =>
          confined_bind (confined_check ..) fun _ => confined_pure _
      next => exact confined_throw _

theorem reads_g2g3 (req : MoneyActionRequest) (mandate : Mandate) :
    ConfinedCode Reads (g2g3 req mandate) := by
  refine confined_bind (reads_send trivial) fun found => ?_
  cases found with
  | none => exact confined_throw _
  | some decision =>
      refine confined_bind (confined_check ..) fun _ => confined_bind (confined_check ..) fun _ =>
        confined_bind (reads_send trivial) fun _ => confined_bind (confined_check ..) fun _ => ?_
      split
      next =>
        split
        next => exact confined_throw _
        next => exact confined_throw _
      next => exact confined_pure _

theorem local_g5 (req : MoneyActionRequest) : ConfinedCode Local (g5 req) := by
  refine confined_bind (confined_inGate (local_send rfl)) fun found => ?_
  cases found with
  | none => exact confined_throw _
  | some quote =>
      exact confined_bind (confined_inGate (local_send rfl)) fun _ =>
        confined_bind (confined_check ..) fun _ =>
          confined_bind (confined_inGate (local_send rfl)) fun _ => confined_check ..

theorem local_markExecuting (req : MoneyActionRequest) (row : MandateRow) :
    ConfinedCode Local (markExecuting req row) := by
  rw [markExecuting]
  split
  next =>
    refine confined_bind (confined_inGate (local_send rfl)) fun now => ?_
    split
    next => exact confined_inGate (local_updateStatus ..)
    next => exact confined_throw _
  next => exact confined_pure _

theorem local_runG4AndG5 (req : MoneyActionRequest) (key : String) (row : MandateRow) :
    ConfinedCode Local (runG4AndG5 req key row) := by
  exact confined_bind (confined_inGate (local_reserve ..)) fun reservation =>
    confined_bind (confined_check ..) fun _ => confined_bind (local_g5 _) fun _ =>
      confined_bind (local_markExecuting ..) fun _ => confined_inGate (local_send rfl)

theorem local_runG1ThroughG5 (P : Platform) (req : MoneyActionRequest) (key : String) :
    ConfinedCode Local (runG1ThroughG5 P req key) := by
  exact confined_bind ((reads_g1 ..).mono local_of_reads) fun row =>
    confined_bind ((reads_g2g3 ..).mono local_of_reads) fun _ =>
    local_runG4AndG5 req key row

/-! ## What a pass has written -/

section Pass

variable {P : Platform} {inputs : Nat → StatementInput} {t t' : Transacting Database Memory}

theorem inGate_ok {α : Type} {body : Work α} {value : α}
    (done : (engine P).alone inputs (inGate body) t = (.ok value, t')) :
    (engine P).alone inputs body t = (.ok value, t') := by
  rw [inGate, alone_program_bind] at done
  cases ended : (engine P).alone inputs body t with
  | mk outcome between =>
      rw [ended] at done
      cases outcome with
      | error failure => cases done
      | ok middle =>
          cases done
          rfl

theorem check_ok {ok : Bool} {code : Policy.ReasonCode}
    (done : (engine P).alone inputs (check ok code) t = (.ok (), t')) : ok = true ∧ t' = t := by
  cases ok with
  | false => cases done
  | true =>
      cases done
      exact ⟨rfl, rfl⟩

/-- The session has this row and has sent nothing. -/
structure HasRead (row : MandateRow) (mandateId : String) (memory : Memory) : Prop where
  mine : row.id = mandateId
  row : memory.mandate? mandateId = some row
  writes : memory.writes = []

theorem HasRead.sent {row : MandateRow} {mandateId : String} (read : HasRead row mandateId t.memory)
    (sent : Sent t t' []) : HasRead row mandateId t'.memory :=
  ⟨read.mine, by rw [Memory.mandate?, sent.mandates]; exact read.row,
    by rw [sent.writes, read.writes]; rfl⟩

/-- The first read of a mandate row. -/
theorem perform_getMandate_fresh (P : Platform) (mandateId : String) (input : StatementInput)
    (db : Database) :
    ((Statement.getMandate mandateId).perform P input db .fresh).1 =
        .ok (db.getMandate mandateId) ∧
      ∀ row, db.getMandate mandateId = some row →
        HasRead row mandateId ((Statement.getMandate mandateId).perform P input db .fresh).2 := by
  have performed : (Statement.getMandate mandateId).perform P input db .fresh =
      (.ok (Memory.fresh.loadMandate (db.getMandate mandateId)).1,
        (Memory.fresh.loadMandate (db.getMandate mandateId)).2) := rfl
  rw [performed]
  cases found : db.getMandate mandateId with
  | none => exact ⟨rfl, fun row same => by cases same⟩
  | some row =>
      have mine : row.id = mandateId := (Foundation.Table.get?_mem found).2
      refine ⟨rfl, fun row' same => ?_⟩
      cases same
      exact ⟨mine, by simp [Memory.loadMandate, Memory.fresh, Memory.mandate?, mine], rfl⟩

theorem g1_pass {req : MoneyActionRequest} {row : MandateRow} (fresh : t.memory = .fresh)
    (done : (engine P).alone inputs (g1 P req) t = (.ok row, t')) :
    t.store.getMandate req.mandateId = some row ∧ t'.store = t.store ∧
      HasRead row req.mandateId t'.memory := by
  rw [g1, alone_bind_ok] at done
  obtain ⟨found, t₁, read, rest⟩ := done
  obtain ⟨performed, store⟩ := send_ok (inGate_ok read)
  have first := perform_getMandate_fresh P req.mandateId (inputs t.sent) t.store
  rw [fresh] at performed
  rw [performed] at first
  cases found with
  | none => cases rest
  | some read =>
      simp only [alone_bind_ok] at rest
      obtain ⟨_, _, valid, _, _, status, _, _, hashed, rest⟩ := rest
      obtain ⟨_, rfl⟩ := check_ok valid
      obtain ⟨_, rfl⟩ := check_ok status
      obtain ⟨_, rfl⟩ := check_ok hashed
      split at rest
      next =>
        rw [alone_bind_ok] at rest
        obtain ⟨_, _, signed, rest⟩ := rest
        obtain ⟨_, rfl⟩ := check_ok signed
        rw [alone_bind_ok] at rest
        obtain ⟨now, t₂, clock, rest⟩ := rest
        rw [alone_bind_ok] at rest
        obtain ⟨_, _, live, rest⟩ := rest
        obtain ⟨_, rfl⟩ := check_ok live
        cases rest
        have present : t.store.getMandate req.mandateId = some row :=
          (Except.ok.inj first.1).symm
        have clocked := now_ok (inGate_ok clock)
        exact ⟨present, clocked.store.trans store, (first.2 row present).sent clocked⟩
      next => cases rest

theorem g2g3_pass {req : MoneyActionRequest} {mandate : Mandate}
    (done : (engine P).alone inputs (g2g3 req mandate) t = (.ok (), t')) : Sent t t' [] := by
  rw [g2g3, alone_bind_ok] at done
  obtain ⟨found, t₁, read, rest⟩ := done
  have first := read_ok (fun _ _ _ => rfl) rfl (inGate_ok read)
  cases found with
  | none => cases rest
  | some decision =>
      rw [alone_bind_ok] at rest
      obtain ⟨_, _, intent, rest⟩ := rest
      obtain ⟨_, rfl⟩ := check_ok intent
      rw [alone_bind_ok] at rest
      obtain ⟨_, _, spec, rest⟩ := rest
      obtain ⟨_, rfl⟩ := check_ok spec
      rw [alone_bind_ok] at rest
      obtain ⟨now, t₂, clock, rest⟩ := rest
      have second := now_ok (inGate_ok clock)
      rw [alone_bind_ok] at rest
      obtain ⟨_, _, recent, rest⟩ := rest
      obtain ⟨_, rfl⟩ := check_ok recent
      split at rest
      next =>
        split at rest
        next => cases rest
        next => cases rest
      next =>
        cases rest
        exact first.nil_trans second

theorem g5_pass {req : MoneyActionRequest}
    (done : (engine P).alone inputs (g5 req) t = (.ok (), t')) : Sent t t' [] := by
  rw [g5, alone_bind_ok] at done
  obtain ⟨found, t₁, read, rest⟩ := done
  have first := read_ok (fun _ _ _ => rfl) rfl (inGate_ok read)
  cases found with
  | none => cases rest
  | some quote =>
      rw [alone_bind_ok] at rest
      obtain ⟨now, t₂, clock, rest⟩ := rest
      have second := now_ok (inGate_ok clock)
      rw [alone_bind_ok] at rest
      obtain ⟨_, _, live, rest⟩ := rest
      obtain ⟨_, rfl⟩ := check_ok live
      rw [alone_bind_ok] at rest
      obtain ⟨version, t₃, current, rest⟩ := rest
      have third := read_ok (fun _ _ _ => rfl) rfl (inGate_ok current)
      obtain ⟨_, rfl⟩ := check_ok rest
      exact (first.nil_trans second).nil_trans third

/-- A status is set on the row that the session has. -/
theorem updateStatus_alone {mandateId : String} {row : MandateRow} {status : MandateStatus}
    (kept : t.memory.mandate? mandateId = some row) (differs : row.status ≠ status)
    (done : (engine P).alone inputs (updateStatus mandateId status) t = (.ok (), t')) :
    t'.store = t.store ∧
      t'.memory.writes = t.memory.writes ++ [.mandateStatus mandateId status] := by
  rw [updateStatus, alone_bind_ok] at done
  obtain ⟨found, t₁, again, rest⟩ := done
  obtain ⟨performed, store⟩ := send_ok again
  simp only [Statement.perform, kept] at performed
  obtain ⟨rfl, same⟩ : some row = found ∧ t.memory = t₁.memory :=
    ⟨Except.ok.inj (Prod.mk.inj performed).1, (Prod.mk.inj performed).2⟩
  obtain ⟨performed', store'⟩ := send_ok rest
  have set : t₁.memory.setMandateStatus mandateId status = t'.memory :=
    (Prod.mk.inj performed').2
  refine ⟨store'.trans store, ?_⟩
  rw [← set, ← same, Memory.setMandateStatus, kept]
  dsimp only
  rw [if_neg differs]
  rfl

/-- EXECUTING is written when LOCKED was read, and only then. -/
theorem markExecuting_pass {req : MoneyActionRequest} {row : MandateRow}
    (kept : t.memory.mandate? req.mandateId = some row)
    (done : (engine P).alone inputs (markExecuting req row) t = (.ok (), t')) :
    t'.store = t.store ∧ t'.memory.writes = t.memory.writes ++
      if row.status = .locked then [.mandateStatus req.mandateId .executing] else [] := by
  rw [markExecuting] at done
  split at done
  next locked =>
    rw [alone_bind_ok] at done
    obtain ⟨now, t₁, clock, rest⟩ := done
    have clocked := now_ok (inGate_ok clock)
    rw [locked] at rest
    rw [if_pos locked]
    split at rest
    next status moved =>
      obtain rfl : status = .executing := Mandates.transition_propose moved
      have kept₁ : t₁.memory.mandate? req.mandateId = some row := by
        rw [Memory.mandate?, clocked.mandates]
        exact kept
      obtain ⟨store, writes⟩ := updateStatus_alone kept₁ (by rw [locked]; simp) (inGate_ok rest)
      exact ⟨store.trans clocked.store, by rw [writes, clocked.writes, List.append_nil]⟩
    next => cases rest
  next other =>
    cases done
    exact ⟨rfl, by rw [if_neg other, List.append_nil]⟩

/-- The writes of a passed gate with the entries of its reservation. -/
def passWrites (req : MoneyActionRequest) (key : String) (row : MandateRow)
    (added : List LedgerEntryRecord) : List Write :=
  added.map Write.ledgerEntry ++
    (if row.status = .locked then [.mandateStatus req.mandateId .executing] else []) ++
    [.auditEntry (budgetReserved req key)]

/-- The gates from G4 on reserve against the cap of the row that was read for G1,
and go by its status. -/
theorem runG4AndG5_pass {req : MoneyActionRequest} {key : String} {row row' : MandateRow}
    (read : HasRead row req.mandateId t.memory)
    (present : t.store.getMandate req.mandateId = some row')
    (done : (engine P).alone inputs (runG4AndG5 req key row) t = (.ok (), t')) :
    t'.store = t.store ∧ ∃ now made added,
      Ledger.reserve t.store now req.mandateId req.amountMinor row.mandate.bounds.maxTotalMinor
        key = (some made, withEntries t.store added) ∧
      t'.memory.writes = passWrites req key row added := by
  have same : seen P t = t.store := by rw [seen, Memory.view, read.writes]; rfl
  rw [runG4AndG5, alone_bind_ok] at done
  obtain ⟨reservation, t₁, four, rest⟩ := done
  rw [alone_bind_ok] at rest
  obtain ⟨_, _, within, rest⟩ := rest
  obtain ⟨made, rfl⟩ := check_ok within
  have posted := reserve_alone (by rw [same]; exact present) (inGate_ok four)
  obtain ⟨now, added, reserved, written⟩ := posted.posts
  rw [same] at reserved
  rw [read.writes, List.nil_append] at written
  rw [alone_bind_ok] at rest
  obtain ⟨_, t₂, five, rest⟩ := rest
  have fresh := g5_pass five
  rw [alone_bind_ok] at rest
  obtain ⟨_, t₃, marked, rest⟩ := rest
  have kept : t₂.memory.mandate? req.mandateId = some row := by
    rw [Memory.mandate?, fresh.mandates]
    have has := posted.row
    rw [rowFor, read.row] at has
    exact has
  obtain ⟨store₃, writes₃⟩ := markExecuting_pass kept marked
  have audited := write_ok (fun _ _ _ => rfl) rfl (inGate_ok rest)
  obtain ⟨r, rfl⟩ := Option.isSome_iff_exists.mp made
  refine ⟨?_, now, r, added, reserved, ?_⟩
  · exact audited.store.trans (store₃.trans (fresh.store.trans posted.store))
  · rw [audited.writes, writes₃, fresh.writes, written, passWrites, List.append_nil]

end Pass

/-! ## The attempt -/

/-- What a pass changes: the reservation pair of a key without entries, LOCKED to
EXECUTING on the mandate that was read LOCKED, one audit entry and the checkpoint
it may complete. -/
structure OnlyReserved (P : Platform) (req : MoneyActionRequest) (key : String)
    (db db' : Database) : Prop where
  entries : ∃ first second, db'.ledgerEntries = db.ledgerEntries ++
    if db.listForRefId key = [] then
      entryPair .available .reserved req.mandateId req.amountMinor .reservation key first second
    else []
  mandate : ∃ row, db.getMandate req.mandateId = some row ∧
    db'.mandates = if row.status = .locked then
      (db.updateMandateStatus req.mandateId .executing).mandates else db.mandates
  otherMandates : ∀ row, row.id ≠ req.mandateId → (row ∈ db'.mandates ↔ row ∈ db.mandates)
  audit : db'.auditLog.entries =
    db.auditLog.entries ++ [db.auditLog.entryFor P (budgetReserved req key)]
  checkpoints : db'.auditLog.checkpoints = db.auditLog.checkpoints ∨
    (db.auditLog.entries.length + 1) % P.settings.auditCheckpointEvery = 0 ∧
      ∃ checkpoint, checkpoint.toSeq = db.auditLog.entries.length + 1 ∧
        db'.auditLog.checkpoints = db.auditLog.checkpoints ++ [checkpoint]
  rest : db' =
    { db with
      mandates := db'.mandates
      ledgerEntries := db'.ledgerEntries
      auditLog := db'.auditLog }

theorem mem_updateMandateStatus_of_ne {db : Database} {mandateId : String}
    {status : MandateStatus} {row : MandateRow} (other : row.id ≠ mandateId) :
    row ∈ (db.updateMandateStatus mandateId status).mandates ↔ row ∈ db.mandates := by
  simp only [Database.updateMandateStatus, Foundation.Table.mem_modify, decide_eq_true_eq]
  constructor
  · rintro ⟨old, present, same⟩
    split at same
    next mine =>
      rw [← same] at other
      exact absurd mine other
    next => exact same ▸ present
  · intro present
    exact ⟨row, present, if_neg other⟩

theorem checkpoints_append (P : Platform) (log : Audit.AuditLog) (request : Audit.AppendRequest) :
    (log.append P request).checkpoints = log.checkpoints ∨
      (log.entries.length + 1) % P.settings.auditCheckpointEvery = 0 ∧
        ∃ checkpoint, checkpoint.toSeq = log.entries.length + 1 ∧
          (log.append P request).checkpoints = log.checkpoints ++ [checkpoint] := by
  by_cases completes : (log.entries.length + 1) % P.settings.auditCheckpointEvery = 0
  · rw [Audit.AuditLog.append_eq]
    dsimp only
    rw [if_pos completes, Audit.AuditLog.writeCheckpoint]
    split
    next => exact .inl rfl
    next =>
      dsimp only
      split
      next => exact .inr ⟨completes, _, rfl, rfl⟩
      next => exact .inl rfl
  · exact .inl (Audit.AuditLog.append_checkpoints request completes)

/-- The entries of a reservation that was made or is there. -/
theorem entries_of_reserve {db : Database} {now : Nat → Time} {mandateId refId : String}
    {amountMinor maxTotalMinor : Int} {made : Ledger.Reservation} {added : List LedgerEntryRecord}
    (reserved : Ledger.reserve db now mandateId amountMinor maxTotalMinor refId =
      (some made, withEntries db added)) :
    ∃ first second, added = if db.listForRefId refId = [] then
      entryPair .available .reserved mandateId amountMinor .reservation refId first second
      else [] := by
  have ledger : (Ledger.reserve db now mandateId amountMinor maxTotalMinor refId).2.ledgerEntries =
      db.ledgerEntries ++ added := by rw [reserved]; rfl
  rw [Ledger.reserve] at reserved ledger
  split at reserved
  next => cases reserved
  next row found =>
    refine ⟨now 0, now 1, ?_⟩
    simp only [found] at ledger
    dsimp only at reserved
    split at reserved
    next present =>
      rw [if_pos present] at ledger
      rw [if_neg present]
      exact List.self_eq_append_right.mp ledger
    next empty =>
      rw [if_neg empty] at ledger
      rw [if_pos (not_not.mp empty)]
      split at reserved
      next => cases reserved
      next within =>
        rw [if_neg within] at ledger
        exact (List.append_cancel_left ledger).symm

/-- The writes of a pass on the committed store. -/
theorem onlyReserved_of_passWrites {P : Platform} {req : MoneyActionRequest} {key : String}
    {db : Database} {row : MandateRow} (present : db.getMandate req.mandateId = some row)
    {added : List LedgerEntryRecord}
    (entries : ∃ first second, added = if db.listForRefId key = [] then
      entryPair .available .reserved req.mandateId req.amountMinor .reservation key first second
      else []) :
    OnlyReserved P req key db ((passWrites req key row added).foldl (Write.apply P) db) := by
  have folded : (passWrites req key row added).foldl (Write.apply P) db =
      { db with
        mandates := if row.status = .locked then
          (db.updateMandateStatus req.mandateId .executing).mandates else db.mandates
        ledgerEntries := db.ledgerEntries ++ added
        auditLog := db.auditLog.append P (budgetReserved req key) } := by
    rw [passWrites, List.foldl_append, List.foldl_append, foldl_ledgerEntries]
    by_cases locked : row.status = .locked
    · simp [locked, withEntries, Write.apply, Database.updateMandateStatus]
    · simp [locked, withEntries, Write.apply]
  rw [folded]
  obtain ⟨first, second, pair⟩ := entries
  refine ⟨⟨first, second, by rw [← pair]⟩, ⟨row, present, rfl⟩, fun other different => ?_,
    Audit.AuditLog.append_entries _, checkpoints_append .., rfl⟩
  dsimp only
  split
  next => exact mem_updateMandateStatus_of_ne different
  next => exact Iff.rfl

/-- For every request, store, clock and statement that fails: an attempt at the
gates that passes leaves the reservation and nothing else, and every other attempt
leaves the store as it was. -/
theorem gate_attempt_atomic (P : Platform) (req : MoneyActionRequest) (key : String)
    (inputs : Nat → StatementInput) (db : Database) :
    let ended := (engine P).alone inputs (attemptG1ThroughG5 P req key) ((engine P).start db)
    match ended.1 with
    | .ok none => OnlyReserved P req key db ended.2.store
    | .ok (some _) | .error _ => ended.2.store = db := by
  intro ended
  have run : ended = (engine P).alone inputs (leaveGate req
      ((engine P).alone inputs (runG1ThroughG5 P req key) ((engine P).start db)).1)
      ((engine P).alone inputs (runG1ThroughG5 P req key) ((engine P).start db)).2 :=
    alone_program_bind _ _
  have kept : ((engine P).alone inputs (runG1ThroughG5 P req key)
      ((engine P).start db)).2.store = db :=
    alone_store silent_of_local (local_runG1ThroughG5 P req key)
  cases gates : (engine P).alone inputs (runG1ThroughG5 P req key) ((engine P).start db) with
  | mk outcome t =>
      rw [gates] at run kept
      cases outcome with
      | error leave =>
          cases leave with
          | deny code =>
              rw [run]
              exact kept
          | raise failure =>
              rw [run]
              exact kept
      | ok passed =>
          rw [runG1ThroughG5, alone_bind_ok] at gates
          obtain ⟨row, t₁, one, rest⟩ := gates
          obtain ⟨present, store₁, read⟩ := g1_pass rfl one
          rw [alone_bind_ok] at rest
          obtain ⟨_, t₂, two, rest⟩ := rest
          have unmoved := g2g3_pass two
          have store₂ : t₂.store = db := unmoved.store.trans store₁
          obtain ⟨store, now, made, added, reserved, writes⟩ :=
            runG4AndG5_pass (read.sent unmoved) (by rw [store₂]; exact present) rest
          rw [store₂] at store reserved
          have last : ended = (engine P).alone inputs
              (send .commit >>= fun _ => return none : Work (Option MoneyActionResult)) t := run
          rw [alone_bind] at last
          cases sent : (engine P).alone inputs (send .commit) t with
          | mk reply t' =>
              rw [sent] at last
              cases reply with
              | ok _ =>
                  rw [last]
                  have published : t'.store = t.memory.view P t.store := (send_ok sent).2
                  show OnlyReserved P req key db t'.store
                  rw [published, Memory.view, writes, store]
                  exact onlyReserved_of_passWrites present (entries_of_reserve reserved)
              | error failure =>
                  rw [last]
                  exact (send_error sent).trans kept

end Actl.UnitOfWork
