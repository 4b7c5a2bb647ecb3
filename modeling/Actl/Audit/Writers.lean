import Actl.Audit.Append

/-!
# Concurrent writers of the chain

Any number of transactions append to the log at the same time, statement by
statement. A statement sees what has been committed at its own time and what its
transaction has inserted itself. The advisory lock of the chain is taken by the
first statement of `append_entry` and kept to the end of the transaction; a
writer that finds it taken waits. A transaction ends by a commit, or by a
rollback at any point.

The holder of the lock is alone with the tables, so running its calls statement
by statement comes to the same as running them at once (`Consistent`), and every
committed state represents a log built by appending.
-/

set_option autoImplicit false

namespace Actl.Audit

open Foundation (Program filter_eq_singleton)

/-- An open transaction: what it has inserted and what is left of the
`append_entry` call it is in. -/
structure Session where
  rows : List AuditLogRow
  checkpoints : List AuditCheckpointRow
  running : Option (Program Statement Statement.Reply (Except Failure AuditLogRow))

def Session.fresh : Session := ⟨[], [], none⟩

/-- What a transaction sees: the committed rows and its own. Rows that clash
cannot be seen together. -/
def Session.view (s : Session) (committed : AuditTables) : Option AuditTables :=
  if unique : ((committed.rows ++ s.rows).map AuditLogRow.seq).Nodup ∧
      ((committed.rows ++ s.rows).map AuditLogRow.entryHash).Nodup then
    some ⟨committed.rows ++ s.rows, committed.checkpoints ++ s.checkpoints, unique.1, unique.2⟩
  else none

/-- The transaction after a statement: what it has added to the committed rows,
and what is left of its call. -/
def Session.after (committed seen : AuditTables)
    (running : Option (Program Statement Statement.Reply (Except Failure AuditLogRow))) :
    Session where
  rows := seen.rows.drop committed.rows.length
  checkpoints := seen.checkpoints.drop committed.checkpoints.length
  running := running

structure Writers where
  committed : AuditTables
  sessions : Nat → Option Session
  /-- The transaction that has the advisory lock of the chain. -/
  holder : Option Nat

inductive WriterEvent where
  | start (writer : Nat)
  | append (writer : Nat) (request : AppendRequest)
  | advance (writer : Nat)
  | commit (writer : Nat)
  | rollback (writer : Nat)

namespace Writers

def initial : Writers := ⟨.empty, fun _ => none, none⟩

variable (P : Platform) (jsonb : JSONValue → JSONValue) (state : Writers)

def setSession (writer : Nat) (session : Option Session) : Writers :=
  { state with sessions := Function.update state.sessions writer session }

/-- The end of a transaction gives back the lock. -/
def finish (writer : Nat) : Writers :=
  { state.setSession writer none with
    holder := if state.holder = some writer then none else state.holder }

/-- The call goes on with what is left of it. A call that raised takes its
transaction down. -/
def resume (writer : Nat) (seen : AuditTables)
    (rest : Program Statement Statement.Reply (Except Failure AuditLogRow)) : Writers :=
  match rest with
  | .done (.ok _) => state.setSession writer (some (.after state.committed seen none))
  | .done (.error _) => state.finish writer
  | .act statement next =>
      state.setSession writer (some (.after state.committed seen (some (.act statement next))))

/-- The next statement of the writer's call. -/
def advance (writer : Nat) (session : Session) : Writers :=
  match session.running with
  | some (.act .acquireChainLock next) =>
      if state.holder = none ∨ state.holder = some writer then
        match session.view state.committed with
        | some seen => { state with holder := some writer }.resume writer seen (next ())
        | none => state.finish writer
      else state
  | some (.act statement next) =>
      match session.view state.committed with
      | some seen =>
          state.resume writer (statement.execute seen).2 (next (statement.execute seen).1)
      | none => state.finish writer
  | _ => state

/-- One event. A writer does nothing that its transaction is not ready for. -/
def apply : WriterEvent → Writers
  | .start writer =>
      match state.sessions writer with
      | none => state.setSession writer (some .fresh)
      | some _ => state
  | .append writer request =>
      match state.sessions writer with
      | some ⟨rows, checkpoints, none⟩ =>
          state.setSession writer (some ⟨rows, checkpoints, some (appendEntry P jsonb request)⟩)
      | _ => state
  | .advance writer =>
      match state.sessions writer with
      | some session => state.advance writer session
      | none => state
  | .commit writer =>
      match state.sessions writer with
      | some ⟨rows, checkpoints, none⟩ =>
          match Session.view ⟨rows, checkpoints, none⟩ state.committed with
          | some seen => { state with committed := seen }.finish writer
          | none => state.finish writer
      | _ => state
  | .rollback writer =>
      match state.sessions writer with
      | some _ => state.finish writer
      | none => state

def run (events : List WriterEvent) : Writers := events.foldl (apply P jsonb) state

end Writers

/-! ## What the holder of the lock will leave -/

section Invariant

variable {P : Platform} {jsonb : JSONValue → JSONValue}

/-- The tables represent a log that was built by appending payloads that survive
storage. -/
def Built (P : Platform) (jsonb : JSONValue → JSONValue) (tables : AuditTables) : Prop :=
  ∃ log, Represents jsonb tables log ∧ WellFormed P log ∧
    ∀ e ∈ log.entries, Survives jsonb e.payload

theorem built_empty : Built P jsonb .empty :=
  ⟨.empty, ⟨rfl, rfl⟩, wellFormed_empty P, by simp [AuditLog.empty]⟩

theorem Built.append {tables tables' : AuditTables} (built : Built P jsonb tables)
    {request : AppendRequest} (survives : Survives jsonb request.payload)
    (appended : append P jsonb tables request = .ok tables') : Built P jsonb tables' := by
  obtain ⟨log, represents, wellFormed, survived⟩ := built
  refine ⟨log.append P request, append_represents represents wellFormed appended,
    wellFormed.append request, ?_⟩
  rw [AuditLog.append_entries]
  intro e member
  rw [List.mem_append, List.mem_singleton] at member
  rcases member with old | rfl
  · exact survived e old
  · exact survives

/-- What a transaction without the lock has done: nothing yet. -/
def Untouched (P : Platform) (jsonb : JSONValue → JSONValue) (s : Session) : Prop :=
  s.rows = [] ∧ s.checkpoints = [] ∧
    ∀ rest, s.running = some rest →
      ∃ request, Survives jsonb request.payload ∧ rest = appendEntry P jsonb request

/-- What the holder of the lock sees and will leave: running its call to the end
leaves tables built by appending. -/
def Consistent (P : Platform) (jsonb : JSONValue → JSONValue) (committed : AuditTables)
    (s : Session) : Prop :=
  ∃ seen, s.view committed = some seen ∧
    match s.running with
    | none => Built P jsonb seen
    | some rest => ∀ row tables, runAlone rest seen = (.ok row, tables) → Built P jsonb tables

/-- How a transaction stands: consistent if it has the lock, else untouched. -/
def Sane (P : Platform) (jsonb : JSONValue → JSONValue) (state : Writers) (writer : Nat)
    (s : Session) : Prop :=
  (state.holder = some writer → Consistent P jsonb state.committed s) ∧
    (state.holder ≠ some writer → Untouched P jsonb s)

structure Serialised (P : Platform) (jsonb : JSONValue → JSONValue) (state : Writers) : Prop where
  built : Built P jsonb state.committed
  sane : ∀ writer s, state.sessions writer = some s → Sane P jsonb state writer s

/-! ### Views -/

theorem Untouched.view_eq {s : Session} (untouched : Untouched P jsonb s)
    (committed : AuditTables) : s.view committed = some committed := by
  simp only [Session.view, untouched.1, untouched.2.1, List.append_nil, committed.seqUnique,
    committed.entryHashUnique, and_self, dite_true]

/-- The tables have all that is committed, in place. -/
def Extends (committed seen : AuditTables) : Prop :=
  committed.rows <+: seen.rows ∧ committed.checkpoints <+: seen.checkpoints

theorem extends_of_view {s : Session} {committed seen : AuditTables}
    (viewed : s.view committed = some seen) : Extends committed seen := by
  rw [Session.view] at viewed
  split at viewed
  · cases viewed
    exact ⟨List.prefix_append _ _, List.prefix_append _ _⟩
  · cases viewed

/-- What was seen after a statement is what is seen at the next. -/
theorem Extends.view_after {committed seen : AuditTables} (extends' : Extends committed seen)
    (running : Option (Program Statement Statement.Reply (Except Failure AuditLogRow))) :
    (Session.after committed seen running).view committed = some seen := by
  obtain ⟨rows, rowsEq⟩ := extends'.1
  obtain ⟨checkpoints, checkpointsEq⟩ := extends'.2
  have sameRows : committed.rows ++ seen.rows.drop committed.rows.length = seen.rows := by
    rw [← rowsEq, List.drop_left]
  have sameCheckpoints : committed.checkpoints ++
      seen.checkpoints.drop committed.checkpoints.length = seen.checkpoints := by
    rw [← checkpointsEq, List.drop_left]
  simp only [Session.view, Session.after, sameRows, sameCheckpoints, seen.seqUnique,
    seen.entryHashUnique, and_self, dite_true]

/-- A statement only adds rows. -/
theorem Extends.execute {committed seen : AuditTables} (extends' : Extends committed seen)
    (statement : Statement) : Extends committed (statement.execute seen).2 := by
  cases statement with
  | acquireChainLock => exact extends'
  | getTail => exact extends'
  | addAtSeq row =>
      rw [Statement.execute]
      cases added : seen.addAtSeq row with
      | error failure => exact extends'
      | ok inserted =>
          obtain ⟨rows, checkpoints⟩ := rows_of_addAtSeq added
          refine ⟨?_, ?_⟩
          · rw [rows]
            exact extends'.1.trans (List.prefix_append _ _)
          · rw [checkpoints]
            exact extends'.2
  | getByToSeq toSeq => exact extends'
  | listRange fromSeq toSeq => exact extends'
  | addCheckpoint checkpoint =>
      exact ⟨extends'.1, extends'.2.trans (List.prefix_append _ _)⟩

/-! ### Steps -/

variable {state : Writers} {writer : Nat}

/-- Only the writer's own transaction is to be looked at after an event of the
writer's. -/
theorem serialised_setSession {session : Option Session} (built : Built P jsonb state.committed)
    (others : ∀ other s, other ≠ writer → state.sessions other = some s →
      Sane P jsonb state other s)
    (own : ∀ s, session = some s → Sane P jsonb state writer s) :
    Serialised P jsonb (state.setSession writer session) := by
  refine ⟨built, fun other s found => ?_⟩
  by_cases same : other = writer
  · subst same
    exact own s (by simpa [Writers.setSession] using found)
  · exact others other s same (by simpa [Writers.setSession, Function.update_of_ne same] using found)

theorem serialised_finish (built : Built P jsonb state.committed)
    (others : ∀ other s, other ≠ writer → state.sessions other = some s →
      Sane P jsonb state other s) : Serialised P jsonb (state.finish writer) := by
  refine ⟨built, fun other s found => ?_⟩
  by_cases same : other = writer
  · subst same
    simp [Writers.finish, Writers.setSession] at found
  · have found' : state.sessions other = some s := by
      simpa [Writers.finish, Writers.setSession, Function.update_of_ne same] using found
    have before := others other s same found'
    have holder : (state.finish writer).holder = some other ↔ state.holder = some other := by
      rw [Writers.finish]
      dsimp only
      split
      next held => simp [held, Ne.symm same]
      next => rfl
    exact ⟨fun held => before.1 (holder.mp held), fun notHeld => before.2 (mt holder.mpr notHeld)⟩

/-- The holder of the lock goes on. -/
theorem serialised_resume {seen : AuditTables}
    {rest : Program Statement Statement.Reply (Except Failure AuditLogRow)}
    (built : Built P jsonb state.committed) (holds : state.holder = some writer)
    (others : ∀ other s, other ≠ writer → state.sessions other = some s →
      Sane P jsonb state other s)
    (extends' : Extends state.committed seen)
    (leaves : ∀ row tables, runAlone rest seen = (.ok row, tables) → Built P jsonb tables) :
    Serialised P jsonb (state.resume writer seen rest) := by
  have own {running : Option (Program Statement Statement.Reply (Except Failure AuditLogRow))}
      (consistent : match running with
        | none => Built P jsonb seen
        | some rest => ∀ row tables, runAlone rest seen = (.ok row, tables) →
            Built P jsonb tables) :
      Serialised P jsonb
        (state.setSession writer (some (.after state.committed seen running))) := by
    refine serialised_setSession built others fun s same => ?_
    cases same
    exact ⟨fun _ => ⟨seen, extends'.view_after running, consistent⟩,
      fun notHeld => absurd holds notHeld⟩
  cases rest with
  | done outcome =>
      cases outcome with
      | ok row => exact own (leaves row seen rfl)
      | error failure => exact serialised_finish built others
  | act statement next => exact own leaves

theorem Serialised.others (serialised : Serialised P jsonb state) (other : Nat) (s : Session)
    (_ : other ≠ writer) (found : state.sessions other = some s) : Sane P jsonb state other s :=
  serialised.sane other s found

/-- The lock is taken. -/
theorem serialised_acquire {session : Session}
    {next : Unit → Program Statement Statement.Reply (Except Failure AuditLogRow)}
    {seen : AuditTables} (serialised : Serialised P jsonb state)
    (found : state.sessions writer = some session)
    (running : session.running = some (.act .acquireChainLock next))
    (free : state.holder = none ∨ state.holder = some writer)
    (viewed : session.view state.committed = some seen) :
    Serialised P jsonb ({ state with holder := some writer }.resume writer seen (next ())) := by
  have own := serialised.sane writer session found
  refine serialised_resume serialised.built rfl ?_ (extends_of_view viewed) ?_
  · intro other s different found'
    have notHeld : state.holder ≠ some other := by
      rcases free with none | held
      · simp [none]
      · simp [held, Ne.symm different]
    exact ⟨fun held => absurd (Option.some.inj held).symm different,
      fun _ => (serialised.sane other s found').2 notHeld⟩
  · intro row tables ran
    by_cases held : state.holder = some writer
    · obtain ⟨seen', viewed', consistent⟩ := own.1 held
      rw [viewed] at viewed'
      cases viewed'
      rw [running] at consistent
      exact consistent row tables ran
    · have untouched := own.2 held
      rw [untouched.view_eq, Option.some.injEq] at viewed
      subst viewed
      obtain ⟨request, survives, same⟩ := untouched.2.2 _ running
      refine serialised.built.append survives ?_
      have whole : runAlone (appendEntry P jsonb request) state.committed = (.ok row, tables) := by
        rw [← same]
        exact ran
      rw [append, whole]

/-- Any other statement is one of the holder's. -/
theorem serialised_statement {session : Session} {statement : Statement}
    {next : statement.Reply → Program Statement Statement.Reply (Except Failure AuditLogRow)}
    {seen : AuditTables} (serialised : Serialised P jsonb state)
    (found : state.sessions writer = some session)
    (running : session.running = some (.act statement next))
    (other : statement ≠ .acquireChainLock) (viewed : session.view state.committed = some seen) :
    Serialised P jsonb
      (state.resume writer (statement.execute seen).2 (next (statement.execute seen).1)) := by
  have own := serialised.sane writer session found
  by_cases held : state.holder = some writer
  · obtain ⟨seen', viewed', consistent⟩ := own.1 held
    rw [viewed] at viewed'
    cases viewed'
    rw [running] at consistent
    exact serialised_resume serialised.built held serialised.others
      ((extends_of_view viewed).execute statement) consistent
  · obtain ⟨request, _, same⟩ := (own.2 held).2.2 _ running
    injection same with first
    exact absurd first other

theorem serialised_advance {session : Session} (serialised : Serialised P jsonb state)
    (found : state.sessions writer = some session) :
    Serialised P jsonb (state.advance writer session) := by
  have finished : Serialised P jsonb (state.finish writer) :=
    serialised_finish serialised.built serialised.others
  rw [Writers.advance]
  split
  next next running =>
    split
    next free =>
      split
      next seen viewed => exact serialised_acquire serialised found running free viewed
      next => exact finished
    next => exact serialised
  next statement next other running =>
    split
    next seen viewed =>
      refine serialised_statement serialised found running ?_ viewed
      rintro rfl
      exact other next rfl HEq.rfl
    next => exact finished
  next => exact serialised

/-- A commit makes what the holder built the committed state; without the lock
there was nothing to commit. -/
theorem serialised_commit {session : Session} {seen : AuditTables}
    (serialised : Serialised P jsonb state) (found : state.sessions writer = some session)
    (idle : session.running = none) (viewed : session.view state.committed = some seen) :
    Serialised P jsonb ({ state with committed := seen }.finish writer) := by
  have own := serialised.sane writer session found
  by_cases held : state.holder = some writer
  · obtain ⟨seen', viewed', consistent⟩ := own.1 held
    rw [viewed] at viewed'
    cases viewed'
    rw [idle] at consistent
    refine serialised_finish consistent fun other s different found' => ?_
    refine ⟨fun held' => absurd (held.symm.trans held') (by simp [Ne.symm different]),
      fun notHeld => (serialised.sane other s found').2 notHeld⟩
  · rw [(own.2 held).view_eq, Option.some.injEq] at viewed
    subst viewed
    exact serialised_finish serialised.built serialised.others

/-- The payload of an event that starts an append. -/
def WriterEvent.Survives (jsonb : JSONValue → JSONValue) : WriterEvent → Prop
  | .append _ request => Audit.Survives jsonb request.payload
  | _ => True

/-- A new transaction has done nothing. -/
theorem Serialised.fresh (serialised : Serialised P jsonb state) :
    Sane P jsonb state writer .fresh := by
  have untouched : Untouched P jsonb .fresh := ⟨rfl, rfl, by simp [Session.fresh]⟩
  exact ⟨fun _ => ⟨state.committed, untouched.view_eq _, serialised.built⟩, fun _ => untouched⟩

/-- A call begins. -/
theorem Sane.append {rows : List AuditLogRow} {checkpoints : List AuditCheckpointRow}
    {request : AppendRequest} (sane : Sane P jsonb state writer ⟨rows, checkpoints, none⟩)
    (survives : Survives jsonb request.payload) :
    Sane P jsonb state writer ⟨rows, checkpoints, some (appendEntry P jsonb request)⟩ := by
  refine ⟨fun held => ?_, fun notHeld => ?_⟩
  · obtain ⟨seen, viewed, built⟩ := sane.1 held
    refine ⟨seen, viewed, fun row tables ran => ?_⟩
    exact Built.append built survives (by rw [Audit.append, ran])
  · have untouched := sane.2 notHeld
    refine ⟨untouched.1, untouched.2.1, fun rest same => ?_⟩
    exact ⟨request, survives, (Option.some.inj same).symm⟩

theorem Serialised.apply (serialised : Serialised P jsonb state) (event : WriterEvent)
    (survives : event.Survives jsonb) : Serialised P jsonb (state.apply P jsonb event) := by
  cases event with
  | start writer =>
      rw [Writers.apply]
      split
      next =>
        refine serialised_setSession serialised.built serialised.others fun s same => ?_
        cases same
        exact serialised.fresh
      next => exact serialised
  | append writer request =>
      rw [Writers.apply]
      split
      next rows checkpoints found =>
        refine serialised_setSession serialised.built serialised.others fun s same => ?_
        cases same
        exact (serialised.sane writer _ found).append survives
      next => exact serialised
  | advance writer =>
      rw [Writers.apply]
      split
      next session found => exact serialised_advance serialised found
      next => exact serialised
  | commit writer =>
      rw [Writers.apply]
      split
      next rows checkpoints found =>
        split
        next seen viewed => exact serialised_commit serialised found rfl viewed
        next => exact serialised_finish serialised.built serialised.others
      next => exact serialised
  | rollback writer =>
      rw [Writers.apply]
      split
      next => exact serialised_finish serialised.built serialised.others
      next => exact serialised

/-- Every run keeps the writers serialised. -/
theorem Serialised.run {events : List WriterEvent} (serialised : Serialised P jsonb state)
    (survives : ∀ event ∈ events, event.Survives jsonb) :
    Serialised P jsonb (state.run P jsonb events) := by
  induction events generalizing state with
  | nil => exact serialised
  | cons event events ih =>
      exact ih (serialised.apply event (survives event (by simp)))
        fun event' member => survives event' (List.mem_cons_of_mem _ member)

theorem serialised_initial : Serialised P jsonb .initial :=
  ⟨built_empty, fun _ _ found => by cases found⟩

/-! ## Committed states -/

theorem map_seq_rowsFrom (entries : List AuditEntry) (seq : Int) :
    (rowsFrom jsonb seq entries).map AuditLogRow.seq =
      (List.range entries.length).map fun i : Nat => seq + (i : Int) := by
  induction entries generalizing seq with
  | nil => rfl
  | cons entry entries ih =>
      rw [rowsFrom, List.map_cons, ih, List.length_cons, List.range_succ_eq_map, List.map_cons,
        List.map_map]
      congr 1
      · simp [AuditEntry.row]
      · refine List.map_congr_left fun i _ => ?_
        simp only [Function.comp_apply]
        push_cast
        omega

/-- At each multiple of the segment length there is one checkpoint, with the root
of its segment. -/
theorem Built.checkpoint {tables : AuditTables} (built : Built P jsonb tables) {m : Nat}
    (positive : 0 < m) (bound : m ≤ tables.rows.length)
    (multiple : m % P.settings.auditCheckpointEvery = 0) :
    ∃ (hashes : List Digest) (root : Digest),
      ((tables.listRange (m - P.settings.auditCheckpointEvery + 1) m).mapM
        fun entry => parseHexPrefixed entry.entryHash) = .ok hashes ∧
      merkleRoot P hashes = some root ∧
      (tables.checkpoints.filter fun c => c.toSeq = (m : Int)) =
        [⟨m - P.settings.auditCheckpointEvery + 1, m, hexPrefixed root⟩] := by
  obtain ⟨log, represents, wellFormed, _⟩ := built
  have every := P.settings.checkpointEveryPositive
  have fits : P.settings.auditCheckpointEvery ≤ m :=
    Nat.le_of_dvd positive (Nat.dvd_of_mod_eq_zero multiple)
  rw [represents.rows, length_rowsFrom] at bound
  -- The multiple is one of the ends.
  have listed : m ∈ log.checkpoints.map AuditCheckpoint.toSeq := by
    rw [wellFormed.ends, List.mem_map]
    refine ⟨m / P.settings.auditCheckpointEvery - 1, ?_, ?_⟩
    · rw [List.mem_range]
      have quotient : 0 < m / P.settings.auditCheckpointEvery := Nat.div_pos fits every
      have below := Nat.div_le_div_right (c := P.settings.auditCheckpointEvery) bound
      omega
    · have quotient : 0 < m / P.settings.auditCheckpointEvery := Nat.div_pos fits every
      rw [Nat.sub_add_cancel quotient]
      exact Nat.div_mul_cancel (Nat.dvd_of_mod_eq_zero multiple)
  obtain ⟨c, member, ends⟩ := List.mem_map.mp listed
  obtain ⟨starts, computed⟩ := wellFormed.roots c member
  have unique : (tables.checkpoints.map AuditCheckpointRow.toSeq).Nodup := by
    have distinct : (log.checkpoints.map AuditCheckpoint.toSeq).Nodup := by
      rw [wellFormed.ends]
      refine List.Nodup.map ?_ List.nodup_range
      intro k k' same
      have cancelled := Nat.eq_of_mul_eq_mul_right every same
      omega
    rw [represents.checkpoints, List.map_map]
    have cast : AuditCheckpointRow.toSeq ∘ AuditCheckpoint.row =
        (fun n : Nat => (n : Int)) ∘ AuditCheckpoint.toSeq := rfl
    rw [cast, ← List.map_map]
    exact distinct.map fun k k' same => Int.ofNat_inj.mp same
  have stored : c.row ∈ tables.checkpoints := by
    rw [represents.checkpoints]
    exact List.mem_map_of_mem member
  have first : (m : Int) - P.settings.auditCheckpointEvery + 1 = (c.fromSeq : Nat) := by omega
  refine ⟨_, c.merkleRoot, ?_, computed, ?_⟩
  · rw [first, represents.listRange_eq (by omega) (by omega) bound, mapM_parse_rowsFrom,
      List.map_drop, List.map_take, ends]
  · have selected : (tables.checkpoints.filter fun row => row.toSeq = c.row.toSeq) = [c.row] :=
      filter_eq_singleton (List.Nodup.of_map _ unique) stored (decide_eq_true rfl)
        fun row present same => List.inj_on_of_nodup_map unique present stored
          (of_decide_eq_true same)
    have number : c.row.toSeq = (m : Int) := by
      rw [← ends]
      rfl
    rw [number] at selected
    rw [selected, first, ← ends]
    rfl

/-- However the writers interleave, commit and roll back, every committed state
is a chain: numbered 1 to n, linked from the genesis value, with one checkpoint
at each multiple of the segment length, and verification accepts each of its
ranges. -/
theorem concurrent_chain_well_formed (P : Platform) (jsonb : JSONValue → JSONValue)
    (events : List WriterEvent) (survives : ∀ event ∈ events, event.Survives jsonb) :
    let tables := (Writers.initial.run P jsonb events).committed
    let n := tables.rows.length
    let every := P.settings.auditCheckpointEvery
    tables.rows.map AuditLogRow.seq = (List.range n).map (fun i : Nat => 1 + (i : Int)) ∧
    (∀ row, tables.rows[0]? = some row → row.prevHash = hexPrefixed genesisPrevHash) ∧
    (∀ (i : Nat) (row next : AuditLogRow), tables.rows[i]? = some row →
      tables.rows[i + 1]? = some next → next.prevHash = row.entryHash) ∧
    (∀ m : Nat, 0 < m → m ≤ n → m % every = 0 → ∃ (hashes : List Digest) (root : Digest),
      ((tables.listRange (m - every + 1) m).mapM
        fun entry => parseHexPrefixed entry.entryHash) = .ok hashes ∧
      merkleRoot P hashes = some root ∧
      (tables.checkpoints.filter fun c => c.toSeq = (m : Int)) =
        [⟨m - every + 1, m, hexPrefixed root⟩]) ∧
    ∀ a b : Nat, 1 ≤ a → a ≤ b → b ≤ n →
      ∃ result, verifyChain P tables a b = .ok result ∧ result.ok = true ∧
        result.entriesVerified = b - a + 1 := by
  intro tables n every
  have built : Built P jsonb tables := (serialised_initial.run survives).built
  have ⟨log, represents, wellFormed, survived⟩ := built
  have count : n = log.entries.length := by
    rw [← @length_rowsFrom jsonb 1 log.entries, ← represents.rows]
  have chained : Chained P genesisPrevHash tables.rows := by
    rw [represents.rows]
    exact (chained_rowsFrom wellFormed.linked survived).1
  refine ⟨?_, chained.links.1, chained.links.2, fun m => built.checkpoint, ?_⟩
  · rw [represents.rows, map_seq_rowsFrom, count]
  · intro a b positive ordered bound
    exact verifyChain_of_represents represents wellFormed survived positive ordered (count ▸ bound)

end Invariant

namespace Fixture

open Actl.Fixture (platform)

/-- Two writers at once: the second finds the lock taken and waits, the first
rolls back its first transaction. -/
def interleaving : List WriterEvent :=
  let request (payload : JSONValue) : AppendRequest :=
    ⟨"trc_1", "system", "agt_1", .mandateLocked, .obj [], payload⟩
  [.start 0, .start 1, .append 0 (request (.obj [])), .append 1 (request (.int 1)),
    .advance 0, .advance 0, .advance 1, .advance 0, .rollback 0,
    .advance 1, .start 0, .append 0 (request (.int 2)), .advance 0, .advance 1, .advance 1,
    .commit 1, .advance 0, .advance 0, .advance 0, .commit 0]

theorem interleaving_well_formed :
    ∃ result, verifyChain platform
        (Writers.initial.run platform id interleaving).committed 1 2 = .ok result ∧
      result.ok = true ∧ result.entriesVerified = 2 := by
  have survives : ∀ event ∈ interleaving, event.Survives id := by
    simp [interleaving, WriterEvent.Survives, Survives]
  have length : (Writers.initial.run platform id interleaving).committed.rows.length = 2 := by
    decide +kernel
  exact (concurrent_chain_well_formed platform id interleaving survives).2.2.2.2 1 2
    (by decide) (by decide) (by rw [length])

end Fixture

end Actl.Audit
