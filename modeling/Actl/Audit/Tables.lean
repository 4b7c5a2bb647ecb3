import Actl.Foundation.Program
import Actl.Audit.Chain

/-!
# The audit tables

`audit_log` and `audit_checkpoints` as the database holds them, with hashes in
their stored `sha256:` form and sequence numbers in a column, and the two
services of `application/audit_service.py` over them: `append_entry`, as a
program of the statements it issues inside its caller's transaction, and
`verify_chain`.

Payloads and subjects pass through a `JSONB` column, which is a parameter:
`jsonb value` is what comes back for `value`.
-/

set_option autoImplicit false

namespace Actl.Audit

open Foundation (Code Program)

/-! ## Stored hashes -/

/-- `hex_prefixed`. -/
def hexPrefixed (digest : Digest) : String := "sha256:" ++ hex digest.val

/-- The value of a hexadecimal digit of either case. -/
def hexValue (c : Char) : Option Nat :=
  if '0' ≤ c ∧ c ≤ '9' then some (c.toNat - '0'.toNat)
  else if 'a' ≤ c ∧ c ≤ 'f' then some (c.toNat - 'a'.toNat + 10)
  else if 'A' ≤ c ∧ c ≤ 'F' then some (c.toNat - 'A'.toNat + 10)
  else none

/-- The ASCII white space. -/
def isSpace (c : Char) : Bool := c = ' ' ∨ ('\t' ≤ c ∧ c ≤ '\r')

/-- `bytes.fromhex`: pairs of digits, with white space allowed between pairs. -/
def fromHex : List Char → Option Bytes
  | [] => some []
  | [c] => if isSpace c then some [] else none
  | c :: d :: rest =>
      if isSpace c then fromHex (d :: rest)
      else
        match hexValue c, hexValue d with
        | some high, some low => (fromHex rest).map (UInt8.ofNat (16 * high + low) :: ·)
        | _, _ => none

/-- `parse_hex_prefixed`. -/
def parseHexPrefixed (value : String) : Except Failure Digest :=
  if "sha256:".toList.isPrefixOf value.toList then
    match fromHex (value.toList.drop 7) with
    | some bytes => if h : bytes.length = 32 then .ok ⟨bytes, h⟩ else .error .valueError
    | none => .error .valueError
  else .error .valueError

/-- The text of an action in the log. -/
def AuditAction.text : AuditAction → String
  | .mandateLocked => "mandate.locked"
  | .mandateRevoked => "mandate.revoked"
  | .catalogQueried => "catalog.queried"
  | .catalogPriceMutated => "catalog.price_mutated"
  | .quoteIssued => "quote.issued"
  | .orderProposed => "order.proposed"
  | .policyDecision => "policy.decision"
  | .budgetReserved => "budget.reserved"
  | .paymentIntent => "payment.intent"
  | .paymentResult => "payment.result"
  | .webhookReceived => "webhook.received"
  | .compensationApplied => "compensation.applied"
  | .settlementClosed => "settlement.closed"
  | .reservationReleased => "reservation.released"
  | .reservationExpired => "reservation.expired"
  | .mandateExecuting => "mandate.executing"

/-! ## Rows and tables -/

/-- A row of `audit_log`. -/
structure AuditLogRow where
  seq : Int
  traceId : String
  actorType : String
  actorId : String
  action : String
  subject : JSONValue
  payload : JSONValue
  payloadHash : String
  prevHash : String
  entryHash : String

/-- A row of `audit_checkpoints`. -/
structure AuditCheckpointRow where
  fromSeq : Int
  toSeq : Int
  merkleRoot : String
  deriving DecidableEq

/-- The two tables in insertion order. `seq` is the primary key of the log and
`entry_hash` is unique; nothing is unique about a checkpoint. -/
structure AuditTables where
  rows : List AuditLogRow
  checkpoints : List AuditCheckpointRow
  seqUnique : (rows.map AuditLogRow.seq).Nodup
  entryHashUnique : (rows.map AuditLogRow.entryHash).Nodup

namespace AuditTables

def empty : AuditTables := ⟨[], [], by simp, by simp⟩

variable (tables : AuditTables)

/-- `get_tail`: the sequence number and the hash of the row with the highest
number. -/
def getTail : Option (Int × String) :=
  ((tables.rows.insertionSort fun a b => b.seq ≤ a.seq).head?).map fun row =>
    (row.seq, row.entryHash)

/-- `list_range`, ordered by `seq`. -/
def listRange (fromSeq toSeq : Int) : List AuditLogRow :=
  (tables.rows.filter fun row => fromSeq ≤ row.seq ∧ row.seq ≤ toSeq).insertionSort
    fun a b => a.seq ≤ b.seq

def getBySeq (seq : Int) : Option AuditLogRow := tables.rows.find? fun row => row.seq = seq

/-- `add_at_seq`; a taken number or hash is a `DBAPIError`. -/
def addAtSeq (row : AuditLogRow) : Except Failure AuditTables :=
  if fresh : row.seq ∉ tables.rows.map AuditLogRow.seq ∧
      row.entryHash ∉ tables.rows.map AuditLogRow.entryHash then
    .ok { tables with
      rows := tables.rows ++ [row]
      seqUnique := by
        rw [List.map_append]
        exact tables.seqUnique.append (List.nodup_singleton _)
          (List.disjoint_singleton.mpr fresh.1)
      entryHashUnique := by
        rw [List.map_append]
        exact tables.entryHashUnique.append (List.nodup_singleton _)
          (List.disjoint_singleton.mpr fresh.2) }
  else .error .dbapiError

/-- `audit_checkpoints.get_by_to_seq`, which raises when there are two. -/
def getByToSeq (toSeq : Int) : Except Failure (Option AuditCheckpointRow) :=
  match tables.checkpoints.filter fun c => c.toSeq = toSeq with
  | [] => .ok none
  | [checkpoint] => .ok (some checkpoint)
  | _ => .error .multipleResultsFound

def addCheckpoint (checkpoint : AuditCheckpointRow) : AuditTables :=
  { tables with checkpoints := tables.checkpoints ++ [checkpoint] }

/-- `checkpoints_by_to_seq.get`: of two checkpoints with one number the
dictionary holds the later one. -/
def checkpointByToSeq (toSeq : Int) : Option AuditCheckpointRow :=
  (tables.checkpoints.filter fun c => c.toSeq = toSeq).getLast?

end AuditTables

/-! ## Appending -/

/-- What `append_entry` asks of the database. -/
inductive Statement where
  | acquireChainLock
  | getTail
  | addAtSeq (row : AuditLogRow)
  | getByToSeq (toSeq : Int)
  | listRange (fromSeq toSeq : Int)
  | addCheckpoint (checkpoint : AuditCheckpointRow)

@[reducible] def Statement.Reply : Statement → Type
  | .acquireChainLock => Unit
  | .getTail => Option (Int × String)
  | .addAtSeq _ => Except Failure Unit
  | .getByToSeq _ => Except Failure (Option AuditCheckpointRow)
  | .listRange _ _ => List AuditLogRow
  | .addCheckpoint _ => Unit

/-- A statement on the tables the transaction sees. Taking the lock changes no
table. -/
def Statement.execute (tables : AuditTables) : (s : Statement) → s.Reply × AuditTables
  | .acquireChainLock => ((), tables)
  | .getTail => (tables.getTail, tables)
  | .addAtSeq row =>
      match tables.addAtSeq row with
      | .ok tables => (.ok (), tables)
      | .error failure => (.error failure, tables)
  | .getByToSeq toSeq => (tables.getByToSeq toSeq, tables)
  | .listRange fromSeq toSeq => (tables.listRange fromSeq toSeq, tables)
  | .addCheckpoint checkpoint => ((), tables.addCheckpoint checkpoint)

abbrev AuditCode (α : Type) : Type := Code Statement Statement.Reply Failure α

/-- A value of the platform's, or the exception it raised. -/
def ofExcept {α : Type} : Except Failure α → AuditCode α
  | .ok value => pure value
  | .error failure => throw failure

/-- The arguments of `append_entry`. -/
structure AppendRequest where
  traceId : String
  actorType : String
  actorId : String
  action : AuditAction
  subject : JSONValue
  payload : JSONValue

/-- The row for a request behind the given tail. -/
def AppendRequest.row (P : Platform) (jsonb : JSONValue → JSONValue) (request : AppendRequest)
    (seq : Int) (prevHash : Digest) : AuditLogRow where
  seq := seq
  traceId := request.traceId
  actorType := request.actorType
  actorId := request.actorId
  action := request.action.text
  subject := jsonb request.subject
  payload := jsonb request.payload
  payloadHash := hexPrefixed (payloadHash P request.payload)
  prevHash := hexPrefixed prevHash
  entryHash := hexPrefixed (computeEntryHash P prevHash request.payload)

/-- `_write_checkpoint`. -/
def writeCheckpoint (P : Platform) (toSeq : Int) : AuditCode Unit := do
  match ← Code.perform (.getByToSeq toSeq) id with
  | some _ => pure ()
  | none => do
      let checkpointEvery := P.settings.auditCheckpointEvery
      let fromSeq := toSeq - checkpointEvery + 1
      let entries ← Code.perform (.listRange fromSeq toSeq) .ok
      if entries.length ≠ checkpointEvery then
        throw (.other (s!"checkpoint segment {fromSeq}..{toSeq} " ++
          s!"expected {checkpointEvery} entries, found {entries.length}"))
      else do
        let leafHashes ← ofExcept (entries.mapM fun entry => parseHexPrefixed entry.entryHash)
        match merkleRoot P leafHashes with
        | none => throw .valueError
        | some root =>
            Code.perform (.addCheckpoint ⟨fromSeq, toSeq, hexPrefixed root⟩) .ok

/-- The next sequence number and the hash to link to, from the tail. -/
def afterTail : Option (Int × String) → Except Failure (Int × Digest)
  | none => .ok (1, genesisPrevHash)
  | some (prevSeq, prevEntryHash) =>
      (parseHexPrefixed prevEntryHash).map fun prevHash => (prevSeq + 1, prevHash)

/-- `append_entry`. -/
def appendEntry (P : Platform) (jsonb : JSONValue → JSONValue) (request : AppendRequest) :
    AuditCode AuditLogRow := do
  Code.perform .acquireChainLock .ok
  let tail ← Code.perform .getTail .ok
  let (seq, prevHash) ← ofExcept (afterTail tail)
  let row := request.row P jsonb seq prevHash
  Code.perform (.addAtSeq row) id
  if seq % P.settings.auditCheckpointEvery = 0 then
    writeCheckpoint P seq
  return row

/-! ## Verifying -/

structure ChainBreak where
  seq : Int
  expectedEntryHash : String
  computedEntryHash : String
  reason : String
  deriving DecidableEq

structure ChainVerificationResult where
  ok : Bool
  fromSeq : Int
  toSeq : Int
  entriesVerified : Nat
  checkpointsMatched : List Int := []
  headEntryHash : Option String := none
  break_ : Option ChainBreak := none
  deriving DecidableEq

/-- The variables of the loop of `verify_chain`. -/
structure Scan where
  prevHash : Digest
  verified : Nat
  checkpointsMatched : List Int
  segmentHashes : List Digest
  expectedSeq : Int

/-- A break and what was verified before it. -/
structure Broken where
  verified : Nat
  checkpointsMatched : List Int
  break_ : ChainBreak

/-- The check of a checkpoint at an entry that completes a segment: the roots
that differ, if they do. -/
def Scan.matchCheckpoint (P : Platform) (tables : AuditTables) (seq : Int) (scan : Scan) :
    Except Failure (Broken ⊕ Scan) :=
  match tables.checkpointByToSeq seq with
  | none => .ok (.inr scan)
  | some checkpoint =>
      let segment := scan.segmentHashes.drop
        (scan.segmentHashes.length - P.settings.auditCheckpointEvery)
      match merkleRoot P segment with
      | none => .error .valueError
      | some root =>
          if hexPrefixed root ≠ checkpoint.merkleRoot then
            .ok (.inl {
              verified := scan.verified
              checkpointsMatched := scan.checkpointsMatched
              break_ := {
                seq := seq
                expectedEntryHash := checkpoint.merkleRoot
                computedEntryHash := hexPrefixed root
                reason := s!"merkle root mismatch for checkpoint ending at seq={seq}" } })
          else .ok (.inr { scan with checkpointsMatched := scan.checkpointsMatched ++ [seq] })

/-- One round of the loop. -/
def Scan.visit (P : Platform) (tables : AuditTables) (fromSeq : Int) (scan : Scan)
    (entry : AuditLogRow) : Except Failure (Broken ⊕ Scan) :=
  if entry.seq ≠ scan.expectedSeq then
    .ok (.inl {
      verified := scan.verified
      checkpointsMatched := scan.checkpointsMatched
      break_ := {
        seq := scan.expectedSeq
        expectedEntryHash := "<row present>"
        computedEntryHash := "<row missing>"
        reason := s!"sequence gap: expected seq={scan.expectedSeq}, found seq={entry.seq}" } })
  else
    let recomputed := computeEntryHash P scan.prevHash entry.payload
    if entry.prevHash ≠ hexPrefixed scan.prevHash ∨ entry.entryHash ≠ hexPrefixed recomputed then
      .ok (.inl {
        verified := scan.verified
        checkpointsMatched := scan.checkpointsMatched
        break_ := {
          seq := entry.seq
          expectedEntryHash := entry.entryHash
          computedEntryHash := hexPrefixed recomputed
          reason := "payload hash does not match the recorded entry_hash" } })
    else
      let scan : Scan := {
        prevHash := recomputed
        verified := scan.verified + 1
        checkpointsMatched := scan.checkpointsMatched
        segmentHashes := scan.segmentHashes ++ [recomputed]
        expectedSeq := scan.expectedSeq + 1 }
      let checkpointEvery : Int := P.settings.auditCheckpointEvery
      if entry.seq % checkpointEvery = 0 ∧ fromSeq ≤ entry.seq - checkpointEvery + 1 then
        scan.matchCheckpoint P tables entry.seq
      else .ok (.inr scan)

/-- The loop over the entries. -/
def scanEntries (P : Platform) (tables : AuditTables) (fromSeq : Int) :
    Scan → List AuditLogRow → Except Failure (Broken ⊕ Scan)
  | scan, [] => .ok (.inr scan)
  | scan, entry :: entries =>
      match scan.visit P tables fromSeq entry with
      | .ok (.inr scan) => scanEntries P tables fromSeq scan entries
      | stopped => stopped

/-- The hash the first entry has to link to; none when the entry before the
range is missing. -/
def priorHash (tables : AuditTables) (fromSeq : Int) : Except Failure (Option Digest) :=
  if fromSeq = 1 then .ok (some genesisPrevHash)
  else
    match tables.getBySeq (fromSeq - 1) with
    | none => .ok none
    | some prior => (parseHexPrefixed prior.entryHash).map some

/-- `verify_chain`. -/
def verifyChain (P : Platform) (tables : AuditTables) (fromSeq toSeq : Int) :
    Except Failure ChainVerificationResult := do
  let entries := tables.listRange fromSeq toSeq
  match ← priorHash tables fromSeq with
  | none =>
      return {
        ok := false
        fromSeq := fromSeq
        toSeq := toSeq
        entriesVerified := 0
        break_ := some {
          seq := fromSeq - 1
          expectedEntryHash := "<a preceding entry>"
          computedEntryHash := "<not found>"
          reason := s!"cannot verify from seq={fromSeq}: seq={fromSeq - 1} is missing" } }
  | some prevHash =>
      match ← scanEntries P tables fromSeq ⟨prevHash, 0, [], [], fromSeq⟩ entries with
      | .inl broken =>
          return {
            ok := false
            fromSeq := fromSeq
            toSeq := toSeq
            entriesVerified := broken.verified
            checkpointsMatched := broken.checkpointsMatched
            break_ := some broken.break_ }
      | .inr scan =>
          return {
            ok := true
            fromSeq := fromSeq
            toSeq := toSeq
            entriesVerified := scan.verified
            checkpointsMatched := scan.checkpointsMatched
            headEntryHash := if entries.isEmpty then none else some (hexPrefixed scan.prevHash) }

end Actl.Audit
