import Actl.Audit.Canonical

/-!
# The audit chain

`append_entry` writes the next entry of the hash chain and, when the entry
completes a segment, the Merkle checkpoint of the segment. The log is the list
of its entries in order, so the sequence number of an entry is its position and
the numbers are gapless by construction; digests are kept as bytes, of which
the stored `sha256:` text is a rendering.
-/

set_option autoImplicit false

namespace Actl.Audit

/-- The closed registry of audit actions. -/
inductive AuditAction where
  | mandateLocked
  | mandateRevoked
  | catalogQueried
  | catalogPriceMutated
  | quoteIssued
  | orderProposed
  | policyDecision
  | budgetReserved
  | paymentIntent
  | paymentResult
  | webhookReceived
  | compensationApplied
  | settlementClosed
  | reservationReleased
  | reservationExpired
  | mandateExecuting
  deriving DecidableEq, Repr

/-! ## Hashes -/

def genesisPrevHash : Digest := ⟨List.replicate 32 0, by simp⟩

def payloadHash (P : Platform) (payload : JSONValue) : Digest := P.sha256 (jcs payload)

def computeEntryHash (P : Platform) (prevHash : Digest) (payload : JSONValue) : Digest :=
  P.sha256 (prevHash.val ++ (payloadHash P payload).val)

def leafHash (P : Platform) (entryHash : Digest) : Digest := P.sha256 (0 :: entryHash.val)

def nodeHash (P : Platform) (left right : Digest) : Digest :=
  P.sha256 (1 :: (left.val ++ right.val))

/-- One level of the tree from the level below. A lone trailing node moves up
unchanged. -/
def nextLevel (P : Platform) : List Digest → List Digest
  | left :: right :: rest => nodeHash P left right :: nextLevel P rest
  | level => level

theorem length_nextLevel (P : Platform) (level : List Digest) :
    (nextLevel P level).length = (level.length + 1) / 2 := by
  induction level using nextLevel.induct with
  | case1 left right rest ih => simp only [nextLevel, List.length_cons, ih]; omega
  | case2 level notPair =>
      match level, notPair with
      | [], _ => simp [nextLevel]
      | [_], _ => simp [nextLevel]
      | left :: right :: rest, notPair => exact absurd rfl (notPair left right rest)

/-- The levels of the tree from the leaves to the root. -/
def climb (P : Platform) (level : List Digest) : List Digest :=
  if 1 < level.length then climb P (nextLevel P level) else level
termination_by level.length
decreasing_by rw [length_nextLevel]; omega

/-- `merkle_root`, which has no value for an empty segment. -/
def merkleRoot (P : Platform) (entryHashes : List Digest) : Option Digest :=
  (climb P (entryHashes.map (leafHash P))).head?

/-! ## The log -/

structure AuditEntry where
  traceId : String
  actorType : String
  actorId : String
  action : AuditAction
  subject : JSONValue
  payload : JSONValue
  payloadHash : Digest
  prevHash : Digest
  entryHash : Digest

structure AuditCheckpoint where
  fromSeq : Nat
  toSeq : Nat
  merkleRoot : Digest

structure AuditLog where
  entries : List AuditEntry
  checkpoints : List AuditCheckpoint

namespace AuditLog

def empty : AuditLog := ⟨[], []⟩

/-- `_write_checkpoint`: the checkpoint of the segment that ends at `toSeq`, if
there is none yet. -/
def writeCheckpoint (P : Platform) (log : AuditLog) (toSeq : Nat) : AuditLog :=
  if log.checkpoints.any (fun c => c.toSeq = toSeq) then log
  else
    let fromSeq := toSeq - P.settings.auditCheckpointEvery + 1
    let segment := (log.entries.take toSeq).drop (fromSeq - 1)
    match merkleRoot P (segment.map AuditEntry.entryHash) with
    | some root => { log with checkpoints := log.checkpoints ++ [⟨fromSeq, toSeq, root⟩] }
    | none => log

/-- `append_entry`. -/
def appendEntry (P : Platform) (log : AuditLog) (traceId actorType actorId : String)
    (action : AuditAction) (subject payload : JSONValue) : AuditLog :=
  let prevHash := (log.entries.getLast?.map AuditEntry.entryHash).getD genesisPrevHash
  let seq := log.entries.length + 1
  let log := { log with entries := log.entries ++
    [{ traceId, actorType, actorId, action, subject, payload
       payloadHash := payloadHash P payload
       prevHash
       entryHash := computeEntryHash P prevHash payload }] }
  if seq % P.settings.auditCheckpointEvery = 0 then log.writeCheckpoint P seq else log

end AuditLog

end Actl.Audit
