import Actl.Ledger.Lifecycle
import Actl.UnitOfWork.Transactions

/-!
# Sessions that are alone

What the statements of a transaction come to when nobody else is about: a ledger
operation that runs statement by statement is the operation of `Ledger.Service` on
the store the session sees, with its entries among the writes of the session
(`Posted`).
-/

set_option autoImplicit false

namespace Actl.UnitOfWork

open Foundation (Code Program Engine Table)
open Foundation.Code (ConfinedCode confined_bind confined_perform confined_pure confined_throw)
open Foundation.Engine (Transacting alone_bind alone_bind_ok alone_program_bind)
open Ledger (account entryPair movements stateOf)
open Mandates (MandateStatus transition)

/-! ## What a session does under the lock of a mandate -/

/-- A statement on the tables that the gates and the ledger go by, short of the
commit. -/
def Statement.isLocal : Statement → Bool
  | .now | .getMandate _ | .getMandateForUpdate _ | .setMandateStatus .. | .getDecision _
  | .getQuote _ | .currentVersion | .listForRefId _ | .listForAccount _ | .addLedgerEntry _
  | .appendEntry _ => true
  | _ => false

def Local (statement : Statement) : Prop := statement.isLocal = true

theorem local_send {statement : Statement} (fine : Local statement) :
    ConfinedCode Local (send statement) := confined_perform fine _

theorem silent_of_local {P : Platform} (statement : Statement) (fine : Local statement)
    (reply : statement.Reply) : (engine P).publishes statement reply = false := by
  cases statement with
  | commit => cases fine
  | _ => rfl

theorem local_addMovements (refType : Ledger.RefType) (refId : String)
    (movements : List Ledger.LedgerMovement) :
    ConfinedCode Local (addMovements refType refId movements) := by
  induction movements with
  | nil => exact confined_pure _
  | cons movement movements ih =>
      exact confined_bind (local_send rfl) fun now => confined_bind (local_send rfl) fun _ => ih

/-- The operations on a reference start with the lock of the mandate. -/
theorem local_locked {α : Type} {mandateId : String} {missing : α}
    {rest : MandateRow → Work α} (quiet : ∀ row, ConfinedCode Local (rest row)) :
    ConfinedCode Local (do
      match ← send (.getMandateForUpdate mandateId) with
      | none => return missing
      | some row => rest row : Work α) := by
  refine confined_bind (local_send rfl) fun found => ?_
  cases found with
  | none => exact confined_pure _
  | some row => exact quiet row

section Ledger

variable (mandateId : String) (amountMinor : Int) (refId : String)

theorem local_reserve (maxTotalMinor : Int) :
    ConfinedCode Local (reserve mandateId amountMinor maxTotalMinor refId) := by
  refine local_locked fun row => confined_bind (local_send rfl) fun existing => ?_
  split
  next => exact confined_pure _
  next =>
    refine confined_bind (local_send rfl) fun reserved =>
      confined_bind (local_send rfl) fun settled => ?_
    split
    next => exact confined_pure _
    next => exact confined_bind (local_addMovements ..) fun _ => confined_pure _

theorem local_capture : ConfinedCode Local (capture mandateId amountMinor refId) := by
  refine local_locked fun row => confined_bind (local_send rfl) fun entries => ?_
  split
  next => exact confined_pure _
  next => exact confined_bind (local_addMovements ..) fun _ => confined_pure _
  next => exact confined_pure _

theorem local_release : ConfinedCode Local (release mandateId amountMinor refId) := by
  refine local_locked fun row => confined_bind (local_send rfl) fun entries => ?_
  split
  next => exact confined_pure _
  next => exact confined_bind (local_addMovements ..) fun _ => confined_pure _
  next => exact confined_pure _

theorem local_reverseSettlement :
    ConfinedCode Local (reverseSettlement mandateId amountMinor refId) := by
  refine local_locked fun row => confined_bind (local_send rfl) fun entries => ?_
  dsimp only
  split
  next => exact confined_pure _
  next =>
    split
    next => exact confined_bind (local_addMovements ..) fun _ => confined_pure _
    next => exact confined_pure _

end Ledger

theorem local_updateStatus (mandateId : String) (status : MandateStatus) :
    ConfinedCode Local (updateStatus mandateId status) := by
  refine confined_bind (local_send rfl) fun found => ?_
  cases found with
  | none => exact confined_throw _
  | some row => exact local_send rfl

theorem local_leaveExecuting (mandateId : String) (trigger : Mandates.Trigger)
    (ctx : Mandates.TransitionGuardContext) :
    ConfinedCode Local (leaveExecuting mandateId trigger ctx) := by
  refine confined_bind (local_send rfl) fun found => ?_
  cases found with
  | none => exact confined_pure _
  | some row =>
      dsimp only
      split
      next =>
        split
        next => exact local_updateStatus ..
        next => exact confined_throw _
      next => exact confined_pure _

/-! ## Statements that answered -/

section Alone

variable {P : Platform} {inputs : Nat → StatementInput} {t t' : Transacting Database Memory}

theorem send_ok {statement : Statement} {value : statement.Value}
    (sent : (engine P).alone inputs (send statement) t = (.ok value, t')) :
    statement.perform P (inputs t.sent) t.store t.memory = (.ok value, t'.memory) ∧
      t'.store = if statement.isCommit then t.memory.view P t.store else t.store := by
  have reply : ((engine P).send inputs statement t) = (.ok value, t') := sent
  simp only [Engine.send, engine, Statement.execute] at reply
  cases fault : (inputs t.sent).fault with
  | some failure =>
      simp only [fault] at reply
      cases reply
  | none =>
      simp only [fault] at reply
      obtain ⟨answered, rfl⟩ := Prod.mk.inj reply
      refine ⟨Prod.ext answered rfl, ?_⟩
      simp only [Engine.commit, answered]
      cases statement.isCommit with
      | false => rfl
      | true => rfl

theorem send_error {statement : Statement} {failure : Failure}
    (sent : (engine P).alone inputs (send statement) t = (.error failure, t')) :
    t'.store = t.store := by
  have reply : ((engine P).send inputs statement t) = (.error failure, t') := sent
  obtain ⟨answered, rfl⟩ := Prod.mk.inj reply
  have refused : (engine P).publishes statement (.error failure) = false := Bool.and_false _
  rw [Engine.commit, answered, refused]
  rfl

/-- The session has sent these writes and has no other rows than before. -/
structure Sent (t t' : Transacting Database Memory) (writes : List Write) : Prop where
  store : t'.store = t.store
  writes : t'.memory.writes = t.memory.writes ++ writes
  mandates : t'.memory.mandates = t.memory.mandates

theorem Sent.trans {t'' : Transacting Database Memory} {first second : List Write}
    (before : Sent t t' first) (after : Sent t' t'' second) : Sent t t'' (first ++ second) :=
  ⟨after.store.trans before.store, by rw [after.writes, before.writes, List.append_assoc],
    after.mandates.trans before.mandates⟩

theorem Sent.nil_trans {t'' : Transacting Database Memory} {writes : List Write}
    (before : Sent t t' []) (after : Sent t' t'' writes) : Sent t t'' writes :=
  before.trans after

theorem Sent.trans_nil {t'' : Transacting Database Memory} {writes : List Write}
    (before : Sent t t' writes) (after : Sent t' t'' []) : Sent t t'' writes := by
  have both := before.trans after
  rw [List.append_nil] at both
  exact both

/-- What the session sees. -/
abbrev seen (P : Platform) (t : Transacting Database Memory) : Database := t.memory.view P t.store

theorem Sent.seen_eq {writes : List Write} (sent : Sent t t' writes) :
    seen P t' = writes.foldl (Write.apply P) (seen P t) := by
  rw [seen, Memory.view, sent.writes, sent.store, List.foldl_append]
  rfl

/-- A statement that reads no row that the session keeps. -/
theorem read_ok {statement : Statement} {value : statement.Value}
    (reads : ∀ input db memory, (statement.perform P input db memory).2 = memory)
    (quiet : statement.isCommit = false)
    (sent : (engine P).alone inputs (send statement) t = (.ok value, t')) : Sent t t' [] := by
  obtain ⟨performed, store⟩ := send_ok sent
  rw [quiet] at store
  have kept := reads (inputs t.sent) t.store t.memory
  rw [performed] at kept
  have memory : t'.memory = t.memory := kept
  exact ⟨store, by rw [memory, List.append_nil], by rw [memory]⟩

theorem now_ok {time : Time} (sent : (engine P).alone inputs (send .now) t = (.ok time, t')) :
    Sent t t' [] := read_ok (fun _ _ _ => rfl) rfl sent

theorem listForRefId_ok {refId : String} {entries : List LedgerEntryRecord}
    (sent : (engine P).alone inputs (send (.listForRefId refId)) t = (.ok entries, t')) :
    entries = (seen P t).listForRefId refId ∧ Sent t t' [] :=
  ⟨(Except.ok.inj (Prod.mk.inj (send_ok sent).1).1).symm, read_ok (fun _ _ _ => rfl) rfl sent⟩

theorem listForAccount_ok {acct : String} {entries : List LedgerEntryRecord}
    (sent : (engine P).alone inputs (send (.listForAccount acct)) t = (.ok entries, t')) :
    entries = (seen P t).listForAccount acct ∧ Sent t t' [] :=
  ⟨(Except.ok.inj (Prod.mk.inj (send_ok sent).1).1).symm, read_ok (fun _ _ _ => rfl) rfl sent⟩

/-- A statement that sends one write. -/
theorem write_ok {statement : Statement} {value : statement.Value} {w : Write}
    (writes : ∀ input db memory, (statement.perform P input db memory).2 = memory.write w)
    (quiet : statement.isCommit = false)
    (sent : (engine P).alone inputs (send statement) t = (.ok value, t')) : Sent t t' [w] := by
  obtain ⟨performed, store⟩ := send_ok sent
  rw [quiet] at store
  have written := writes (inputs t.sent) t.store t.memory
  rw [performed] at written
  have memory : t'.memory = t.memory.write w := written
  exact ⟨store, by rw [memory]; rfl, by rw [memory]; rfl⟩

/-! ## The mandate row -/

/-- The row the session goes by: the one it has, or else the one in the store. -/
def rowFor (memory : Memory) (mandateId : String) (row : MandateRow) : MandateRow :=
  (memory.mandate? mandateId).getD row

/-- A row comes back from the database. -/
theorem loadMandate_some {memory : Memory} {row : MandateRow} :
    (memory.loadMandate (some row)).1 = some (rowFor memory row.id row) ∧
      (memory.loadMandate (some row)).2.writes = memory.writes ∧
      (memory.loadMandate (some row)).2.mandate? row.id = some (rowFor memory row.id row) := by
  simp only [Memory.loadMandate, rowFor]
  cases kept : memory.mandate? row.id with
  | some row' => exact ⟨rfl, rfl, kept⟩
  | none =>
      refine ⟨rfl, rfl, ?_⟩
      rw [Memory.mandate?] at kept
      simp [Memory.mandate?, kept]

theorem getMandateForUpdate_ok {mandateId : String} {row : MandateRow}
    {found : Option MandateRow} (present : (seen P t).getMandate mandateId = some row)
    (sent : (engine P).alone inputs (send (.getMandateForUpdate mandateId)) t = (.ok found, t')) :
    found = some (rowFor t.memory mandateId row) ∧ t'.store = t.store ∧
      t'.memory.writes = t.memory.writes ∧
      t'.memory.mandate? mandateId = some (rowFor t.memory mandateId row) := by
  obtain ⟨performed, store⟩ := send_ok sent
  have mine : row.id = mandateId := (Table.get?_mem present).2
  have loaded : (t.memory.loadMandate ((seen P t).getMandate mandateId)).1 = found ∧
      (t.memory.loadMandate ((seen P t).getMandate mandateId)).2 = t'.memory :=
    ⟨Except.ok.inj (Prod.mk.inj performed).1, (Prod.mk.inj performed).2⟩
  rw [present] at loaded
  obtain ⟨value, writes, kept⟩ := @loadMandate_some t.memory row
  rw [mine] at value kept
  rw [← loaded.1, ← loaded.2]
  exact ⟨value, store, writes, kept⟩

/-! ## Ledger operations -/

/-- The store with more ledger entries. -/
def withEntries (db : Database) (added : List LedgerEntryRecord) : Database :=
  { db with ledgerEntries := db.ledgerEntries ++ added }

theorem foldl_ledgerEntries (added : List LedgerEntryRecord) (db : Database) :
    (added.map Write.ledgerEntry).foldl (Write.apply P) db = withEntries db added := by
  induction added generalizing db with
  | nil => simp [withEntries]
  | cons record added ih =>
      rw [List.map_cons, List.foldl_cons, ih]
      simp [withEntries, Write.apply]

/-- The session has run an operation of the ledger: its result is the operation's on
the store the session sees, its entries are sent, and the session has the row of the
mandate. -/
structure Posted {α : Type} (P : Platform) (mandateId : String) (row : MandateRow)
    (operation : Database → (Nat → Time) → α × Database) (result : α)
    (t t' : Transacting Database Memory) : Prop where
  posts : ∃ now added, operation (seen P t) now = (result, withEntries (seen P t) added) ∧
    t'.memory.writes = t.memory.writes ++ added.map Write.ledgerEntry
  store : t'.store = t.store
  row : t'.memory.mandate? mandateId = some (rowFor t.memory mandateId row)

/-- Two readings of the clock. -/
def readings (first second : Time) (i : Nat) : Time := if i = 0 then first else second

theorem addMovements_eq (db : Database) (source target : Ledger.Bucket) (mandateId : String)
    (amountMinor : Int) (refType : Ledger.RefType) (refId : String) (first second : Time) :
    Ledger.addMovements db (movements source target mandateId amountMinor) refType refId
        (readings first second) =
      withEntries db (entryPair source target mandateId amountMinor refType refId first second) := by
  simp [Ledger.addMovements, movements, withEntries, entryPair, readings]

/-- The two entries of a pair. -/
theorem addMovements_ok {source target : Ledger.Bucket} {mandateId refId : String}
    {amountMinor : Int} {refType : Ledger.RefType}
    (done : (engine P).alone inputs
      (addMovements refType refId (movements source target mandateId amountMinor)) t =
        (.ok (), t')) :
    ∃ first second, Sent t t'
      ((entryPair source target mandateId amountMinor refType refId first second).map
        Write.ledgerEntry) := by
  simp only [movements, addMovements, alone_bind_ok] at done
  obtain ⟨first, t₁, clock, _, t₂, credit, second, t₃, clock', _, t₄, debit, rest⟩ := done
  cases rest
  have sent := (now_ok clock).nil_trans (write_ok (fun _ _ _ => rfl) rfl credit)
  have sent' := (now_ok clock').nil_trans (write_ok (fun _ _ _ => rfl) rfl debit)
  exact ⟨first, second, sent.trans sent'⟩

section Operations

variable {mandateId refId : String} {amountMinor : Int} {row : MandateRow}

/-- The session has the lock and the row of the mandate, and has sent nothing
since. -/
structure HasRow (P : Platform) (mandateId : String) (row : MandateRow)
    (t t' : Transacting Database Memory) : Prop where
  store : t'.store = t.store
  writes : t'.memory.writes = t.memory.writes
  row : t'.memory.mandate? mandateId = some (rowFor t.memory mandateId row)

theorem HasRow.seen_eq (has : HasRow P mandateId row t t') : seen P t' = seen P t := by
  rw [seen, Memory.view, has.writes, has.store]
  rfl

theorem HasRow.then_read {t'' : Transacting Database Memory} (has : HasRow P mandateId row t t')
    (sent : Sent t' t'' []) : HasRow P mandateId row t t'' :=
  ⟨sent.store.trans has.store, by rw [sent.writes, has.writes, List.append_nil],
    by rw [Memory.mandate?, sent.mandates]; exact has.row⟩

/-- The operations on a reference lock the mandate and list the entries of the
reference. -/
theorem locked_alone {α : Type} {missing result : α} {rest : List LedgerEntryRecord → Work α}
    (present : (seen P t).getMandate mandateId = some row)
    (done : (engine P).alone inputs (do
      match ← send (.getMandateForUpdate mandateId) with
      | none => return missing
      | some _ =>
          let entries ← send (.listForRefId refId)
          rest entries : Work α) t = (.ok result, t')) :
    ∃ t₁, HasRow P mandateId row t t₁ ∧
      (engine P).alone inputs (rest ((seen P t).listForRefId refId)) t₁ = (.ok result, t') := by
  rw [alone_bind_ok] at done
  obtain ⟨found, t₁, locked, rest⟩ := done
  obtain ⟨rfl, store, writes, kept⟩ := getMandateForUpdate_ok present locked
  have has : HasRow P mandateId row t t₁ := ⟨store, writes, kept⟩
  dsimp only at rest
  rw [alone_bind_ok] at rest
  obtain ⟨entries, t₂, listed, rest⟩ := rest
  obtain ⟨rfl, sent⟩ := listForRefId_ok listed
  rw [has.seen_eq] at rest
  exact ⟨t₂, has.then_read sent, rest⟩

/-- The operation has posted a pair, or nothing. -/
theorem HasRow.posted {α : Type} {operation : Database → (Nat → Time) → α × Database} {result : α}
    {t₁ : Transacting Database Memory} (has : HasRow P mandateId row t t₁)
    {added : List LedgerEntryRecord} (sent : Sent t₁ t' (added.map Write.ledgerEntry))
    (now : Nat → Time) (same : operation (seen P t) now = (result, withEntries (seen P t) added)) :
    Posted P mandateId row operation result t t' :=
  ⟨⟨now, added, same, by rw [sent.writes, has.writes]⟩, sent.store.trans has.store,
    by rw [Memory.mandate?, sent.mandates]; exact has.row⟩

theorem HasRow.posted_nothing {α : Type} {operation : Database → (Nat → Time) → α × Database}
    {result : α} (has : HasRow P mandateId row t t')
    (same : ∀ now, operation (seen P t) now = (result, seen P t)) :
    Posted P mandateId row operation result t t' := by
  refine has.posted (show Sent t' t' ([].map Write.ledgerEntry) from
    ⟨rfl, (List.append_nil _).symm, rfl⟩) (fun _ => 0) ?_
  rw [same, withEntries, List.append_nil]

theorem reserve_alone {maxTotalMinor : Int} {reservation : Option Ledger.Reservation}
    (present : (seen P t).getMandate mandateId = some row)
    (done : (engine P).alone inputs (reserve mandateId amountMinor maxTotalMinor refId) t =
      (.ok reservation, t')) :
    Posted P mandateId row
      (fun db now => Ledger.reserve db now mandateId amountMinor maxTotalMinor refId) reservation
      t t' := by
  obtain ⟨t₁, has, rest⟩ := locked_alone present done
  split at rest
  next nonempty =>
    cases rest
    refine has.posted_nothing fun now => ?_
    simp only [Ledger.reserve, present, if_pos nonempty]
  next empty =>
    rw [alone_bind_ok] at rest
    obtain ⟨reserved, t₂, listed, rest⟩ := rest
    obtain ⟨held, sent⟩ := listForAccount_ok listed
    have has₂ := has.then_read sent
    rw [alone_bind_ok] at rest
    obtain ⟨settled, t₃, listed', rest⟩ := rest
    obtain ⟨spent, sent'⟩ := listForAccount_ok listed'
    have has₃ := has₂.then_read sent'
    rw [has.seen_eq] at held
    rw [has₂.seen_eq] at spent
    split at rest
    next above =>
      cases rest
      refine has₃.posted_nothing fun now => ?_
      rw [held, spent] at above
      simp only [Ledger.reserve, present, if_neg empty]
      exact if_pos above
    next within =>
      rw [alone_bind_ok] at rest
      obtain ⟨_, t₄, added, rest⟩ := rest
      cases rest
      obtain ⟨first, second, pair⟩ := addMovements_ok added
      refine has₃.posted pair (readings first second) ?_
      rw [held, spent] at within
      simp only [Ledger.reserve, present, if_neg empty]
      rw [← addMovements_eq]
      exact if_neg within

theorem capture_alone {captured : Bool} (present : (seen P t).getMandate mandateId = some row)
    (done : (engine P).alone inputs (capture mandateId amountMinor refId) t = (.ok captured, t')) :
    Posted P mandateId row (fun db now => Ledger.capture db now mandateId amountMinor refId)
      captured t t' := by
  obtain ⟨t₁, has, rest⟩ := locked_alone present done
  split at rest
  next state =>
    cases rest
    refine has.posted_nothing fun now => ?_
    simp only [Ledger.capture, present, Ledger.stateOfRef, state]
  next state =>
    rw [alone_bind_ok] at rest
    obtain ⟨_, t₂, added, rest⟩ := rest
    cases rest
    obtain ⟨first, second, pair⟩ := addMovements_ok added
    refine has.posted pair (readings first second) ?_
    simp only [Ledger.capture, present, Ledger.stateOfRef, state]
    rw [← addMovements_eq]
    rfl
  next =>
    cases rest
    refine has.posted_nothing fun now => ?_
    simp only [Ledger.capture, present, Ledger.stateOfRef]

theorem release_alone {released : Bool} (present : (seen P t).getMandate mandateId = some row)
    (done : (engine P).alone inputs (release mandateId amountMinor refId) t = (.ok released, t')) :
    Posted P mandateId row (fun db now => Ledger.release db now mandateId amountMinor refId)
      released t t' := by
  obtain ⟨t₁, has, rest⟩ := locked_alone present done
  split at rest
  next state =>
    cases rest
    refine has.posted_nothing fun now => ?_
    simp only [Ledger.release, present, Ledger.stateOfRef, state]
  next state =>
    rw [alone_bind_ok] at rest
    obtain ⟨_, t₂, added, rest⟩ := rest
    cases rest
    obtain ⟨first, second, pair⟩ := addMovements_ok added
    refine has.posted pair (readings first second) ?_
    simp only [Ledger.release, present, Ledger.stateOfRef, state]
    rw [← addMovements_eq]
    rfl
  next =>
    cases rest
    refine has.posted_nothing fun now => ?_
    simp only [Ledger.release, present, Ledger.stateOfRef]

theorem reverseSettlement_alone {reversed : Bool}
    (present : (seen P t).getMandate mandateId = some row)
    (done : (engine P).alone inputs (reverseSettlement mandateId amountMinor refId) t =
      (.ok reversed, t')) :
    Posted P mandateId row
      (fun db now => Ledger.reverseSettlement db now mandateId amountMinor refId) reversed t t' := by
  obtain ⟨t₁, has, rest⟩ := locked_alone present done
  dsimp only at rest
  split at rest
  next state =>
    cases rest
    refine has.posted_nothing fun now => ?_
    simp only [Ledger.reverseSettlement, present, if_pos state]
  next state =>
    split at rest
    next captured =>
      rw [alone_bind_ok] at rest
      obtain ⟨_, t₂, added, rest⟩ := rest
      cases rest
      obtain ⟨first, second, pair⟩ := addMovements_ok added
      refine has.posted pair (readings first second) ?_
      simp only [Ledger.reverseSettlement, present, if_neg state, if_pos captured]
      rw [← addMovements_eq]
      rfl
    next uncaptured =>
      cases rest
      refine has.posted_nothing fun now => ?_
      simp only [Ledger.reverseSettlement, present, if_neg state, if_neg uncaptured]

end Operations

end Alone

end Actl.UnitOfWork
