import Actl.Audit.Verification

/-!
# The tables represent the log

The log of `Audit.Chain` is a list of entries with their digests, so that its
numbers are positions. Here the tables are shown to represent such a log: when
`append_entry` runs to its end on tables that represent a log, the tables it
leaves represent the log with the entry appended (`append_represents`), and
every log built by appending is linked from the genesis value and checkpointed
at each multiple of the segment length (`WellFormed`).

Together with what verification accepts, this gives that it accepts every range
of every log that was built by appending (`verifyChain_of_represents`).
-/

set_option autoImplicit false

namespace Actl.Audit

open Foundation (Program Code chainHead chainHashes)

/-! ## Logs built by appending -/

/-- Each entry is hashed and linked to the one before. -/
def Linked (P : Platform) : Digest → List AuditEntry → Prop
  | _, [] => True
  | prev, entry :: entries =>
      entry.payloadHash = payloadHash P entry.payload ∧ entry.prevHash = prev ∧
        entry.entryHash = computeEntryHash P prev entry.payload ∧ Linked P entry.entryHash entries

/-- The hash the next entry links to. -/
def headHash (start : Digest) (entries : List AuditEntry) : Digest :=
  (entries.getLast?.map AuditEntry.entryHash).getD start

theorem headHash_cons (start : Digest) (entry : AuditEntry) (entries : List AuditEntry) :
    headHash start (entry :: entries) = headHash entry.entryHash entries := by
  rw [headHash, headHash, List.getLast?_cons]
  cases entries.getLast? with
  | none => rfl
  | some last => rfl

theorem linked_concat {P : Platform} {start : Digest} {entries : List AuditEntry}
    {entry : AuditEntry} (linked : Linked P start entries)
    (hashed : entry.payloadHash = payloadHash P entry.payload)
    (follows : entry.prevHash = headHash start entries)
    (computed : entry.entryHash = computeEntryHash P (headHash start entries) entry.payload) :
    Linked P start (entries ++ [entry]) := by
  induction entries generalizing start with
  | nil => exact ⟨hashed, follows, computed, trivial⟩
  | cons first entries ih =>
      rw [headHash_cons] at follows computed
      exact ⟨linked.1, linked.2.1, linked.2.2.1, ih linked.2.2.2 follows computed⟩

/-- The log is linked from the genesis value, and its checkpoints are those of
the complete segments, each with the root of its segment. -/
structure WellFormed (P : Platform) (log : AuditLog) : Prop where
  linked : Linked P genesisPrevHash log.entries
  ends : log.checkpoints.map AuditCheckpoint.toSeq =
    (List.range (log.entries.length / P.settings.auditCheckpointEvery)).map fun k =>
      (k + 1) * P.settings.auditCheckpointEvery
  roots : ∀ c ∈ log.checkpoints, c.fromSeq + P.settings.auditCheckpointEvery = c.toSeq + 1 ∧
    merkleRoot P (((log.entries.map AuditEntry.entryHash).take c.toSeq).drop (c.fromSeq - 1)) =
      some c.merkleRoot

theorem wellFormed_empty (P : Platform) : WellFormed P .empty where
  linked := trivial
  ends := by simp [AuditLog.empty]
  roots := by simp [AuditLog.empty]

/-- A nonempty segment has a root. -/
theorem length_climb_pos {P : Platform} {level : List Digest} (nonempty : level ≠ []) :
    climb P level ≠ [] := by
  induction level using climb.induct P with
  | case1 level long ih =>
      rw [climb, if_pos long]
      refine ih (List.ne_nil_of_length_pos ?_)
      rw [length_nextLevel]
      omega
  | case2 level short =>
      rw [climb, if_neg short]
      exact nonempty

theorem exists_merkleRoot {P : Platform} {hashes : List Digest} (nonempty : hashes ≠ []) :
    ∃ root, merkleRoot P hashes = some root := by
  have climbed : climb P (hashes.map (leafHash P)) ≠ [] :=
    length_climb_pos (by simpa using nonempty)
  exact ⟨_, List.head?_eq_some_head climbed⟩

namespace AuditLog

variable (P : Platform) (log : AuditLog)

/-- `append_entry` for a request. -/
def append (request : AppendRequest) : AuditLog :=
  log.appendEntry P request.traceId request.actorType request.actorId request.action
    request.subject request.payload

/-- The entry of a request behind the log. -/
def entryFor (request : AppendRequest) : AuditEntry where
  traceId := request.traceId
  actorType := request.actorType
  actorId := request.actorId
  action := request.action
  subject := request.subject
  payload := request.payload
  payloadHash := payloadHash P request.payload
  prevHash := headHash genesisPrevHash log.entries
  entryHash := computeEntryHash P (headHash genesisPrevHash log.entries) request.payload

variable {P log}

theorem append_eq (request : AppendRequest) :
    log.append P request =
      let extended : AuditLog := { log with entries := log.entries ++ [log.entryFor P request] }
      if (log.entries.length + 1) % P.settings.auditCheckpointEvery = 0 then
        extended.writeCheckpoint P (log.entries.length + 1)
      else extended := rfl

theorem writeCheckpoint_entries (toSeq : Nat) :
    (log.writeCheckpoint P toSeq).entries = log.entries := by
  rw [writeCheckpoint]
  split
  · rfl
  · dsimp only
    split <;> rfl

theorem append_entries (request : AppendRequest) :
    (log.append P request).entries = log.entries ++ [log.entryFor P request] := by
  rw [append_eq]
  dsimp only
  split
  · exact writeCheckpoint_entries _
  · rfl

/-- Within a segment no checkpoint is written. -/
theorem append_checkpoints (request : AppendRequest)
    (within : ¬ (log.entries.length + 1) % P.settings.auditCheckpointEvery = 0) :
    (log.append P request).checkpoints = log.checkpoints := by
  rw [append_eq]
  dsimp only
  rw [if_neg within]

end AuditLog

section WellFormed

variable {P : Platform} {log : AuditLog}

theorem WellFormed.toSeq_le (wellFormed : WellFormed P log) {c : AuditCheckpoint}
    (member : c ∈ log.checkpoints) : c.toSeq ≤ log.entries.length := by
  have listed : c.toSeq ∈ log.checkpoints.map AuditCheckpoint.toSeq := List.mem_map_of_mem member
  rw [wellFormed.ends, List.mem_map] at listed
  obtain ⟨k, below, toSeq⟩ := listed
  rw [← toSeq]
  calc (k + 1) * P.settings.auditCheckpointEvery
      ≤ log.entries.length / P.settings.auditCheckpointEvery * P.settings.auditCheckpointEvery :=
        Nat.mul_le_mul_right _ (List.mem_range.mp below)
    _ ≤ log.entries.length := Nat.div_mul_le_self _ _

/-- The root of a segment does not depend on what is appended after it. -/
theorem take_entryHashes {entries more : List AuditEntry} {n : Nat} (bound : n ≤ entries.length) :
    ((entries ++ more).map AuditEntry.entryHash).take n =
      (entries.map AuditEntry.entryHash).take n := by
  rw [List.map_append, List.take_append_of_le_length (by simpa using bound)]

theorem WellFormed.linked_append (wellFormed : WellFormed P log) (request : AppendRequest) :
    Linked P genesisPrevHash (log.entries ++ [log.entryFor P request]) :=
  linked_concat wellFormed.linked rfl rfl rfl

/-- The entry that completes a segment gets its checkpoint. -/
theorem WellFormed.writeCheckpoint (wellFormed : WellFormed P log) (request : AppendRequest)
    (completes : (log.entries.length + 1) % P.settings.auditCheckpointEvery = 0) :
    ∃ root,
      merkleRoot P ((((log.entries ++ [log.entryFor P request]).map AuditEntry.entryHash).take
        (log.entries.length + 1)).drop
        (log.entries.length + 1 - P.settings.auditCheckpointEvery)) = some root ∧
      (log.append P request).checkpoints = log.checkpoints ++
        [⟨log.entries.length + 1 - P.settings.auditCheckpointEvery + 1, log.entries.length + 1,
          root⟩] := by
  have every := P.settings.checkpointEveryPositive
  have fits : P.settings.auditCheckpointEvery ≤ log.entries.length + 1 :=
    Nat.le_of_dvd (Nat.succ_pos _) (Nat.dvd_of_mod_eq_zero completes)
  have absent : log.checkpoints.any (fun c => c.toSeq = log.entries.length + 1) = false := by
    rw [List.any_eq_false]
    intro c member
    have bound := wellFormed.toSeq_le member
    simp only [decide_eq_true_eq]
    omega
  have nonempty : (((log.entries ++ [log.entryFor P request]).map AuditEntry.entryHash).take
      (log.entries.length + 1)).drop
      (log.entries.length + 1 - P.settings.auditCheckpointEvery) ≠ [] := by
    refine List.ne_nil_of_length_pos ?_
    simp only [List.length_drop, List.length_take, List.length_map, List.length_append,
      List.length_singleton]
    omega
  obtain ⟨root, computed⟩ := exists_merkleRoot (P := P) nonempty
  refine ⟨root, computed, ?_⟩
  rw [AuditLog.append_eq]
  dsimp only
  rw [if_pos completes, AuditLog.writeCheckpoint, if_neg (by simp [absent])]
  dsimp only
  rw [Nat.add_sub_cancel, List.map_drop, List.map_take, computed]

theorem WellFormed.append (wellFormed : WellFormed P log) (request : AppendRequest) :
    WellFormed P (log.append P request) := by
  have oldRoots : ∀ c ∈ log.checkpoints,
      c.fromSeq + P.settings.auditCheckpointEvery = c.toSeq + 1 ∧
      merkleRoot P ((((log.entries ++ [log.entryFor P request]).map AuditEntry.entryHash).take
        c.toSeq).drop (c.fromSeq - 1)) = some c.merkleRoot := by
    intro c member
    rw [take_entryHashes (wellFormed.toSeq_le member)]
    exact wellFormed.roots c member
  refine ⟨by rw [AuditLog.append_entries]; exact wellFormed.linked_append request, ?_, ?_⟩
  · rw [AuditLog.append_entries, List.length_append, List.length_singleton]
    by_cases completes : (log.entries.length + 1) % P.settings.auditCheckpointEvery = 0
    · obtain ⟨root, _, written⟩ := wellFormed.writeCheckpoint request completes
      have multiple := Nat.dvd_of_mod_eq_zero completes
      rw [written, List.map_append, wellFormed.ends, Nat.succ_div_of_dvd multiple,
        List.range_succ, List.map_append, List.map_singleton, List.map_singleton,
        ← Nat.succ_div_of_dvd multiple, Nat.div_mul_cancel multiple]
    · rw [AuditLog.append_checkpoints request completes, wellFormed.ends,
        Nat.succ_div_of_not_dvd fun multiple => completes (Nat.mod_eq_zero_of_dvd multiple)]
  · rw [AuditLog.append_entries]
    intro c member
    by_cases completes : (log.entries.length + 1) % P.settings.auditCheckpointEvery = 0
    · obtain ⟨root, computed, written⟩ := wellFormed.writeCheckpoint request completes
      rw [written, List.mem_append, List.mem_singleton] at member
      rcases member with old | rfl
      · exact oldRoots c old
      · have fits : P.settings.auditCheckpointEvery ≤ log.entries.length + 1 :=
          Nat.le_of_dvd (Nat.succ_pos _) (Nat.dvd_of_mod_eq_zero completes)
        exact ⟨by dsimp only; omega, by rw [Nat.add_sub_cancel]; exact computed⟩
    · rw [AuditLog.append_checkpoints request completes] at member
      exact oldRoots c member

end WellFormed

/-! ## Tables that represent a log -/

/-- The row of an entry under its number. -/
def AuditEntry.row (jsonb : JSONValue → JSONValue) (seq : Int) (entry : AuditEntry) :
    AuditLogRow where
  seq := seq
  traceId := entry.traceId
  actorType := entry.actorType
  actorId := entry.actorId
  action := entry.action.text
  subject := jsonb entry.subject
  payload := jsonb entry.payload
  payloadHash := hexPrefixed entry.payloadHash
  prevHash := hexPrefixed entry.prevHash
  entryHash := hexPrefixed entry.entryHash

def AuditCheckpoint.row (checkpoint : AuditCheckpoint) : AuditCheckpointRow :=
  ⟨checkpoint.fromSeq, checkpoint.toSeq, hexPrefixed checkpoint.merkleRoot⟩

/-- The rows of entries, numbered from `seq` on. -/
def rowsFrom (jsonb : JSONValue → JSONValue) : Int → List AuditEntry → List AuditLogRow
  | _, [] => []
  | seq, entry :: entries => entry.row jsonb seq :: rowsFrom jsonb (seq + 1) entries

structure Represents (jsonb : JSONValue → JSONValue) (tables : AuditTables) (log : AuditLog) :
    Prop where
  rows : tables.rows = rowsFrom jsonb 1 log.entries
  checkpoints : tables.checkpoints = log.checkpoints.map AuditCheckpoint.row

section Rows

variable {jsonb : JSONValue → JSONValue} {seq : Int}

theorem rowsFrom_append (first second : List AuditEntry) :
    rowsFrom jsonb seq (first ++ second) =
      rowsFrom jsonb seq first ++ rowsFrom jsonb (seq + first.length) second := by
  induction first generalizing seq with
  | nil => simp [rowsFrom]
  | cons entry first ih =>
      have shift : seq + 1 + (first.length : Int) = seq + ((first.length + 1 : Nat) : Int) := by
        push_cast
        omega
      rw [List.cons_append, rowsFrom, rowsFrom, ih, List.cons_append, shift, List.length_cons]

@[simp] theorem length_rowsFrom (entries : List AuditEntry) :
    (rowsFrom jsonb seq entries).length = entries.length := by
  induction entries generalizing seq with
  | nil => rfl
  | cons entry entries ih => simp only [rowsFrom, List.length_cons, ih]

theorem numbered_rowsFrom (entries : List AuditEntry) :
    Numbered seq (rowsFrom jsonb seq entries) := by
  induction entries generalizing seq with
  | nil => trivial
  | cons entry entries ih => exact ⟨rfl, ih⟩

theorem seq_of_mem_rowsFrom {entries : List AuditEntry} {row : AuditLogRow}
    (member : row ∈ rowsFrom jsonb seq entries) :
    seq ≤ row.seq ∧ row.seq < seq + entries.length := by
  obtain ⟨i, found⟩ := List.mem_iff_getElem?.mp member
  have position := numbered_iff.mp (numbered_rowsFrom entries) i row found
  have bound := (List.getElem?_eq_some_iff.mp found).1
  rw [length_rowsFrom] at bound
  omega

theorem pairwise_rowsFrom (entries : List AuditEntry) :
    (rowsFrom jsonb seq entries).Pairwise fun a b => a.seq ≤ b.seq := by
  induction entries generalizing seq with
  | nil => exact List.Pairwise.nil
  | cons entry entries ih =>
      refine List.Pairwise.cons (fun row member => ?_) ih
      have bounds := seq_of_mem_rowsFrom member
      have first : (entry.row jsonb seq).seq = seq := rfl
      omega

/-- The hashes of stored entries are read back. -/
theorem mapM_parse_rowsFrom (entries : List AuditEntry) :
    ((rowsFrom jsonb seq entries).mapM fun row => parseHexPrefixed row.entryHash) =
      .ok (entries.map AuditEntry.entryHash) := by
  induction entries generalizing seq with
  | nil => rfl
  | cons entry entries ih =>
      have first : parseHexPrefixed (entry.row jsonb seq).entryHash = .ok entry.entryHash :=
        parseHexPrefixed_hexPrefixed _
      rw [rowsFrom, List.mapM_cons, first, Foundation.ok_bind, ih, Foundation.ok_bind]
      rfl

end Rows

namespace Represents

variable {jsonb : JSONValue → JSONValue} {tables : AuditTables} {log : AuditLog}

/-- A range of the rows is the rows of a range of the entries. -/
theorem listRange_eq (represents : Represents jsonb tables log) {a b : Nat} (positive : 1 ≤ a)
    (ordered : a ≤ b + 1) (bound : b ≤ log.entries.length) :
    tables.listRange a b = rowsFrom jsonb a ((log.entries.take b).drop (a - 1)) := by
  have split : log.entries = log.entries.take (a - 1) ++
      ((log.entries.take b).drop (a - 1) ++ log.entries.drop b) := by
    have first : (log.entries.take b).take (a - 1) = log.entries.take (a - 1) := by
      rw [List.take_take, Nat.min_eq_left (by omega)]
    rw [← List.append_assoc, ← first, List.take_append_drop, List.take_append_drop]
  have before : (log.entries.take (a - 1)).length = a - 1 := by
    rw [List.length_take]
    omega
  have inside : ((log.entries.take b).drop (a - 1)).length = b - (a - 1) := by
    rw [List.length_drop, List.length_take]
    omega
  have start : 1 + ((a - 1 : Nat) : Int) = a := by omega
  have filtered : (tables.rows.filter fun row => (a : Int) ≤ row.seq ∧ row.seq ≤ (b : Int)) =
      rowsFrom jsonb a ((log.entries.take b).drop (a - 1)) := by
    rw [represents.rows, split, rowsFrom_append, rowsFrom_append, List.filter_append,
      List.filter_append, before, inside, start, ← split]
    have none : (rowsFrom jsonb 1 (log.entries.take (a - 1))).filter
        (fun row => (a : Int) ≤ row.seq ∧ row.seq ≤ (b : Int)) = [] := by
      rw [List.filter_eq_nil_iff]
      intro row member
      have bounds := seq_of_mem_rowsFrom member
      simp only [decide_eq_true_eq]
      omega
    have all : (rowsFrom jsonb a ((log.entries.take b).drop (a - 1))).filter
        (fun row => (a : Int) ≤ row.seq ∧ row.seq ≤ (b : Int)) =
        rowsFrom jsonb a ((log.entries.take b).drop (a - 1)) := by
      rw [List.filter_eq_self]
      intro row member
      have bounds := seq_of_mem_rowsFrom member
      simp only [decide_eq_true_eq]
      omega
    have none' : (rowsFrom jsonb (a + (b - (a - 1) : Nat)) (log.entries.drop b)).filter
        (fun row => (a : Int) ≤ row.seq ∧ row.seq ≤ (b : Int)) = [] := by
      rw [List.filter_eq_nil_iff]
      intro row member
      have bounds := seq_of_mem_rowsFrom member
      simp only [decide_eq_true_eq]
      omega
    rw [none, all, none', List.nil_append, List.append_nil]
  rw [AuditTables.listRange, filtered, (pairwise_rowsFrom _).insertionSort_eq]

/-- The tail is the last row. -/
theorem getTail_eq (represents : Represents jsonb tables log) :
    tables.getTail = log.entries.getLast?.map fun entry =>
      ((log.entries.length : Int), hexPrefixed entry.entryHash) := by
  rw [AuditTables.getTail]
  cases found : log.entries.getLast? with
  | none =>
      rw [List.getLast?_eq_none_iff] at found
      simp [represents.rows, found, rowsFrom]
  | some last =>
      obtain ⟨entries, whole⟩ := List.getLast?_eq_some_iff.mp found
      have rows : tables.rows = rowsFrom jsonb 1 entries ++
          [last.row jsonb (1 + entries.length)] := by
        rw [represents.rows, whole, rowsFrom_append]
        rfl
      have member : last.row jsonb (1 + entries.length) ∈
          tables.rows.insertionSort fun a b => b.seq ≤ a.seq := by
        rw [List.mem_insertionSort, rows]
        simp
      -- The head of the descending order is numbered no lower than the last row.
      cases sorted : tables.rows.insertionSort (fun a b => b.seq ≤ a.seq) with
      | nil => simp [sorted] at member
      | cons head rest =>
          have ordered : (head :: rest).Pairwise fun a b => b.seq ≤ a.seq := by
            rw [← sorted]
            have total : Std.Total fun a b : AuditLogRow => b.seq ≤ a.seq :=
              ⟨fun a b => Int.le_total b.seq a.seq⟩
            have trans : IsTrans AuditLogRow fun a b => b.seq ≤ a.seq :=
              ⟨fun a b c ab bc => Int.le_trans bc ab⟩
            exact List.pairwise_insertionSort _ _
          have headMember : head ∈ tables.rows := by
            rw [← List.mem_insertionSort (fun a b : AuditLogRow => b.seq ≤ a.seq), sorted]
            exact List.mem_cons_self
          have isLast : head = last.row jsonb (1 + entries.length) := by
            rw [sorted, List.mem_cons] at member
            rcases member with same | later
            · exact same.symm
            · have above := List.rel_of_pairwise_cons ordered later
              rw [rows, List.mem_append, List.mem_singleton] at headMember
              rcases headMember with earlier | same
              · have bounds := (seq_of_mem_rowsFrom earlier).2
                have number : (last.row jsonb (1 + entries.length)).seq = 1 + entries.length := rfl
                omega
              · exact same
          have length : (log.entries.length : Int) = 1 + entries.length := by
            rw [whole]
            push_cast [List.length_append, List.length_singleton]
            omega
          rw [isLast, length]
          rfl

theorem afterTail_eq (represents : Represents jsonb tables log) :
    afterTail tables.getTail =
      .ok ((log.entries.length : Int) + 1, headHash genesisPrevHash log.entries) := by
  rw [represents.getTail_eq, headHash]
  cases found : log.entries.getLast? with
  | none =>
      rw [List.getLast?_eq_none_iff] at found
      simp [afterTail, found]
  | some last =>
      rw [Option.map_some, afterTail, parseHexPrefixed_hexPrefixed]
      rfl

end Represents

/-! ## Running alone -/

/-- A program run to its end with no other transaction in between. -/
def runAlone {α : Type} : Program Statement Statement.Reply α → AuditTables → α × AuditTables
  | .done value, tables => (value, tables)
  | .act statement next, tables =>
      runAlone (next (statement.execute tables).1) (statement.execute tables).2

/-- `append_entry` run to its end: the tables it leaves, or the exception. -/
def append (P : Platform) (jsonb : JSONValue → JSONValue) (tables : AuditTables)
    (request : AppendRequest) : Except Failure AuditTables :=
  match runAlone (appendEntry P jsonb request) tables with
  | (.ok _, tables) => .ok tables
  | (.error failure, _) => .error failure

section RunAlone

variable {α β : Type} {tables : AuditTables}

theorem runAlone_bind (body : AuditCode α) (rest : α → AuditCode β) :
    runAlone (body >>= rest : AuditCode β) tables =
      match runAlone body tables with
      | (.ok value, tables) => runAlone (rest value) tables
      | (.error failure, tables) => (.error failure, tables) := by
  rw [Code.bind_eq]
  induction body generalizing tables with
  | done outcome =>
      cases outcome with
      | ok value => rfl
      | error failure => rfl
  | act statement next ih => exact ih _

theorem runAlone_perform (statement : Statement) (reply : statement.Reply → Except Failure α) :
    runAlone (Code.perform statement reply) tables =
      (reply (statement.execute tables).1, (statement.execute tables).2) := rfl

theorem runAlone_pure (value : α) :
    runAlone (pure value : AuditCode α) tables = (.ok value, tables) := rfl

theorem runAlone_throw (failure : Failure) :
    runAlone (throw failure : AuditCode α) tables = (.error failure, tables) := rfl

theorem runAlone_ofExcept (outcome : Except Failure α) :
    runAlone (ofExcept outcome) tables = (outcome, tables) := by
  cases outcome with
  | ok value => rfl
  | error failure => rfl

end RunAlone

section Append

variable {P : Platform} {jsonb : JSONValue → JSONValue} {tables tables' : AuditTables}
variable {log : AuditLog}

theorem rows_of_addAtSeq {row : AuditLogRow} (added : tables.addAtSeq row = .ok tables') :
    tables'.rows = tables.rows ++ [row] ∧ tables'.checkpoints = tables.checkpoints := by
  rw [AuditTables.addAtSeq] at added
  split at added
  · cases added
    exact ⟨rfl, rfl⟩
  · cases added

/-- `append_entry` that ran to its end inserted the row and, at the end of a
segment, wrote the checkpoint. -/
theorem append_ok {request : AppendRequest}
    (appended : append P jsonb tables request = .ok tables') :
    ∃ seq prevHash inserted, afterTail tables.getTail = .ok (seq, prevHash) ∧
      tables.addAtSeq (request.row P jsonb seq prevHash) = .ok inserted ∧
      if seq % P.settings.auditCheckpointEvery = 0 then
        runAlone (writeCheckpoint P seq) inserted = (.ok (), tables')
      else tables' = inserted := by
  rw [append, appendEntry] at appended
  simp only [runAlone_bind, runAlone_perform, runAlone_ofExcept, Statement.execute] at appended
  cases after : afterTail tables.getTail with
  | error failure =>
      rw [after] at appended
      cases appended
  | ok numbered =>
      obtain ⟨seq, prevHash⟩ := numbered
      rw [after] at appended
      dsimp only at appended
      cases added : tables.addAtSeq (request.row P jsonb seq prevHash) with
      | error failure =>
          rw [added] at appended
          cases appended
      | ok inserted =>
          rw [added] at appended
          refine ⟨seq, prevHash, inserted, rfl, added, ?_⟩
          dsimp only [id] at appended
          split
          next completes =>
            rw [if_pos completes, runAlone_bind] at appended
            match written : runAlone (writeCheckpoint P seq) inserted, appended with
            | (.ok (), after), appended =>
                cases appended
                rfl
          next within =>
            rw [if_neg within] at appended
            cases appended
            rfl

/-- `_write_checkpoint` that found no checkpoint wrote one over a full
segment. -/
theorem writeCheckpoint_ok {toSeq : Int} (absent : tables.getByToSeq toSeq = .ok none)
    (written : runAlone (writeCheckpoint P toSeq) tables = (.ok (), tables')) :
    ∃ hashes root,
      ((tables.listRange (toSeq - P.settings.auditCheckpointEvery + 1) toSeq).mapM
        fun entry => parseHexPrefixed entry.entryHash) = .ok hashes ∧
      merkleRoot P hashes = some root ∧
      tables' = tables.addCheckpoint
        ⟨toSeq - P.settings.auditCheckpointEvery + 1, toSeq, hexPrefixed root⟩ := by
  rw [writeCheckpoint] at written
  simp only [runAlone_bind, runAlone_perform, Statement.execute, absent, id] at written
  split at written
  next => cases written
  next full =>
    rw [runAlone_bind, runAlone_ofExcept] at written
    split at written
    next hashes after parsed =>
      obtain ⟨parsed', rfl⟩ := Prod.mk.inj parsed
      split at written
      next => cases written
      next root computed =>
        cases written
        exact ⟨hashes, root, parsed', computed, rfl⟩
    next => cases written

/-- Appending to tables that represent a log leaves tables that represent the
log with the entry appended. -/
theorem append_represents {request : AppendRequest} (represents : Represents jsonb tables log)
    (wellFormed : WellFormed P log) (appended : append P jsonb tables request = .ok tables') :
    Represents jsonb tables' (log.append P request) := by
  obtain ⟨seq, prevHash, inserted, after, added, written⟩ := append_ok appended
  rw [represents.afterTail_eq, Except.ok.injEq, Prod.mk.injEq] at after
  obtain ⟨rfl, rfl⟩ := after
  obtain ⟨rows, kept⟩ := rows_of_addAtSeq added
  have extended : inserted.rows = rowsFrom jsonb 1 (log.entries ++ [log.entryFor P request]) := by
    rw [rows, represents.rows, rowsFrom_append, Int.add_comm]
    rfl
  have number : ((log.entries.length : Int) + 1) % P.settings.auditCheckpointEvery =
      ((log.entries.length + 1) % P.settings.auditCheckpointEvery : Nat) := by
    push_cast
    rfl
  split at written
  next completes =>
    rw [number, Int.natCast_eq_zero] at completes
    have every := P.settings.checkpointEveryPositive
    have fits : P.settings.auditCheckpointEvery ≤ log.entries.length + 1 :=
      Nat.le_of_dvd (Nat.succ_pos _) (Nat.dvd_of_mod_eq_zero completes)
    have inner : Represents jsonb inserted
        { log with entries := log.entries ++ [log.entryFor P request] } :=
      ⟨extended, by rw [kept, represents.checkpoints]⟩
    have absent : inserted.getByToSeq ((log.entries.length : Int) + 1) = .ok none := by
      rw [AuditTables.getByToSeq, inner.checkpoints, List.filter_eq_nil_iff.mpr]
      intro row member
      obtain ⟨c, stored, rfl⟩ := List.mem_map.mp member
      have bound := wellFormed.toSeq_le stored
      have number : c.row.toSeq = c.toSeq := rfl
      rw [decide_eq_true_iff]
      omega
    obtain ⟨hashes, root, parsed, computed, rfl⟩ := writeCheckpoint_ok absent written
    obtain ⟨root', computed', checkpoints⟩ := wellFormed.writeCheckpoint request completes
    have first : (log.entries.length : Int) + 1 - P.settings.auditCheckpointEvery + 1 =
        (log.entries.length + 1 - P.settings.auditCheckpointEvery + 1 : Nat) := by omega
    have last : (log.entries.length : Int) + 1 = (log.entries.length + 1 : Nat) := by omega
    rw [first, last, inner.listRange_eq (by omega) (by omega) (by simp), mapM_parse_rowsFrom,
      Nat.add_sub_cancel, List.map_drop, List.map_take, Except.ok.injEq] at parsed
    rw [← parsed, computed', Option.some.injEq] at computed
    refine ⟨by rw [AuditLog.append_entries]; exact extended, ?_⟩
    rw [checkpoints, List.map_append, AuditTables.addCheckpoint, inner.checkpoints, computed,
      first, last]
    rfl
  next within =>
    rw [number, Int.natCast_eq_zero] at within
    subst written
    refine ⟨by rw [AuditLog.append_entries, extended], ?_⟩
    rw [AuditLog.append_checkpoints request within, kept, represents.checkpoints]

end Append

/-! ## Verification of what was appended -/

section Accepts

variable {P : Platform} {jsonb : JSONValue → JSONValue} {tables : AuditTables} {log : AuditLog}

/-- The canonical text of a payload is the same after storage. -/
def Survives (jsonb : JSONValue → JSONValue) (payload : JSONValue) : Prop :=
  jcs (jsonb payload) = jcs payload

theorem computeEntryHash_jsonb {payload : JSONValue} (survives : Survives jsonb payload)
    (prev : Digest) : computeEntryHash P prev (jsonb payload) = computeEntryHash P prev payload := by
  rw [computeEntryHash, computeEntryHash, payloadHash, payloadHash, survives]

theorem linked_append {start : Digest} {first second : List AuditEntry}
    (linked : Linked P start (first ++ second)) :
    Linked P start first ∧ Linked P (headHash start first) second := by
  induction first generalizing start with
  | nil => exact ⟨trivial, linked⟩
  | cons entry first ih =>
      rw [headHash_cons]
      have rest := ih linked.2.2.2
      exact ⟨⟨linked.1, linked.2.1, linked.2.2.1, rest.1⟩, rest.2⟩

/-- Stored entries are linked and their hashes are recomputed from what was
stored. -/
theorem chained_rowsFrom {start : Digest} {entries : List AuditEntry} {seq : Int}
    (linked : Linked P start entries) (survives : ∀ e ∈ entries, Survives jsonb e.payload) :
    Chained P start (rowsFrom jsonb seq entries) ∧
      recomputedHashes P start (rowsFrom jsonb seq entries) =
        entries.map AuditEntry.entryHash := by
  induction entries generalizing start seq with
  | nil => exact ⟨trivial, rfl⟩
  | cons entry entries ih =>
      obtain ⟨_, follows, computed, rest⟩ := linked
      have stored := computeEntryHash_jsonb (P := P) (survives entry (by simp)) start
      obtain ⟨chained, recomputed⟩ := @ih _ (seq + 1) rest fun e member =>
        survives e (List.mem_cons_of_mem _ member)
      have same : computeEntryHash P start (entry.row jsonb seq).payload = entry.entryHash :=
        stored.trans computed.symm
      constructor
      · refine ⟨congrArg hexPrefixed follows, ?_, ?_⟩
        · rw [same]
          rfl
        · rw [same]
          exact chained
      · rw [rowsFrom, recomputedHashes_cons, same, recomputed, List.map_cons]

theorem getBySeq_eq_some {row : AuditLogRow} (member : row ∈ tables.rows) :
    tables.getBySeq row.seq = some row := by
  rw [AuditTables.getBySeq]
  cases found : tables.rows.find? fun r => r.seq = row.seq with
  | none =>
      simpa using List.find?_eq_none.mp found row member
  | some other =>
      have same : other.seq = row.seq := by simpa using List.find?_some found
      rw [List.inj_on_of_nodup_map tables.seqUnique (List.mem_of_find?_eq_some found) member same]

namespace Represents

/-- The entry before a range of the log is there to link to. -/
theorem priorHash_eq (represents : Represents jsonb tables log) {a : Nat} (positive : 1 ≤ a)
    (bound : a ≤ log.entries.length + 1) :
    priorHash tables a =
      .ok (some (headHash genesisPrevHash (log.entries.take (a - 1)))) := by
  rw [priorHash]
  split
  next first =>
    have zero : a - 1 = 0 := by omega
    rw [zero]
    rfl
  next later =>
    have long : 0 < (log.entries.take (a - 1)).length := by
      rw [List.length_take]
      omega
    obtain ⟨entries, last, whole⟩ :=
      (List.eq_nil_or_concat _).resolve_left (List.ne_nil_of_length_pos long)
    rw [List.concat_eq_append] at whole
    have length : (1 : Int) + entries.length = a - 1 := by
      have counted := congrArg List.length whole
      rw [List.length_take, List.length_append, List.length_singleton] at counted
      omega
    have member : last.row jsonb (a - 1) ∈ tables.rows := by
      rw [represents.rows, ← List.take_append_drop (a - 1) log.entries, whole, rowsFrom_append,
        rowsFrom_append, length]
      simp [rowsFrom]
    have found : tables.getBySeq ((a : Int) - 1) = some (last.row jsonb (a - 1)) :=
      getBySeq_eq_some member
    rw [found, whole]
    dsimp only [AuditEntry.row]
    rw [parseHexPrefixed_hexPrefixed, headHash, List.getLast?_append]
    rfl

/-- The checkpoints that are stored agree with the hashes of any range. -/
theorem agrees_range (represents : Represents jsonb tables log) (wellFormed : WellFormed P log)
    {a b : Nat} (positive : 1 ≤ a) (bound : b ≤ log.entries.length) :
    Agrees P tables a [] a (((log.entries.map AuditEntry.entryHash).take b).drop (a - 1)) := by
  intro i within multiple inside checkpoint held
  have every := P.settings.checkpointEveryPositive
  rw [List.length_drop, List.length_take, List.length_map] at within
  have stored : checkpoint ∈ tables.checkpoints ∧ checkpoint.toSeq = a + i := by
    have kept := List.mem_filter.mp (List.mem_of_getLast? held)
    exact ⟨kept.1, by simpa using kept.2⟩
  rw [represents.checkpoints] at stored
  obtain ⟨c, member, rfl⟩ := List.mem_map.mp stored.1
  have ends : c.toSeq = a + i := by
    have same : c.row.toSeq = c.toSeq := rfl
    omega
  obtain ⟨starts, computed⟩ := wellFormed.roots c member
  refine ⟨c.merkleRoot, ?_, rfl⟩
  rw [← computed, List.nil_append, lastSegment_take, ends]
  · have here : a - 1 + (i + 1 - P.settings.auditCheckpointEvery) = c.fromSeq - 1 := by omega
    have short : a + i - (c.fromSeq - 1) = P.settings.auditCheckpointEvery := by omega
    rw [List.drop_drop, here, List.drop_take, List.drop_take, List.take_take, short,
      Nat.min_eq_left (by omega)]
  · rw [List.length_drop, List.length_take, List.length_map]
    omega
  · omega

end Represents

/-- Verification accepts every range of a log that is well formed. -/
theorem verifyChain_of_represents (represents : Represents jsonb tables log)
    (wellFormed : WellFormed P log) (survives : ∀ e ∈ log.entries, Survives jsonb e.payload)
    {a b : Nat} (positive : 1 ≤ a) (ordered : a ≤ b) (bound : b ≤ log.entries.length) :
    ∃ result, verifyChain P tables a b = .ok result ∧ result.ok = true ∧
      result.entriesVerified = b - a + 1 := by
  have range := represents.listRange_eq positive (Nat.le_succ_of_le ordered) bound
  have linked : Linked P (headHash genesisPrevHash (log.entries.take (a - 1)))
      ((log.entries.take b).drop (a - 1)) := by
    have upTo : Linked P genesisPrevHash (log.entries.take b) :=
      (linked_append (List.take_append_drop b log.entries ▸ wellFormed.linked)).1
    have first : (log.entries.take b).take (a - 1) = log.entries.take (a - 1) := by
      rw [List.take_take, Nat.min_eq_left (by omega)]
    rw [← List.take_append_drop (a - 1) (log.entries.take b)] at upTo
    rw [← first]
    exact (linked_append upTo).2
  obtain ⟨chained, recomputed⟩ := @chained_rowsFrom P jsonb _ _ a linked fun e member =>
    survives e (List.mem_of_mem_take (List.mem_of_mem_drop member))
  have intact : Intact P tables a b (headHash genesisPrevHash (log.entries.take (a - 1))) := by
    refine ⟨represents.priorHash_eq positive (by omega), ?_, ?_, ?_⟩
    · rw [range]
      exact numbered_rowsFrom _
    · rw [range]
      exact chained
    · rw [range, recomputed, List.map_drop, List.map_take]
      exact represents.agrees_range wellFormed positive bound
  obtain ⟨result, verified, accepted⟩ := verifyChain_ok_iff.mpr ⟨_, intact⟩
  obtain ⟨_, _, counted, _⟩ := intact_of_verifyChain verified accepted
  refine ⟨result, verified, accepted, ?_⟩
  rw [counted, range, length_rowsFrom, List.length_drop, List.length_take]
  omega

end Accepts

end Actl.Audit
