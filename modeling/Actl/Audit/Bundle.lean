import Actl.Audit.Append

/-!
# The export bundle and its verifier

`export_bundle` writes the rows of a range, the checkpoints of the segments
inside it and what the range is to a directory, with a manifest of the files'
hashes. The directory also has `verify_bundle.py`, which checks it without the
database: the manifest first, then the chain in a loop of its own over the
exported checkpoints, then the head the metadata names.

The loop is `verify_chain`'s (`scanRows_eq`): between two rounds it holds the same
hashes, its previous hash as bytes since a partial export takes it from the
first row. On a bundle that starts at the genesis value and was not modified the
verdict is therefore the online one (`offline_verifier_agrees`).

Writing a file and reading it back is a parameter, under which values are kept.
-/

set_option autoImplicit false

namespace Actl.Audit

/-! ## The bundle -/

/-- `metadata.json`, without the time of the export. -/
structure BundleMetadata where
  fromSeq : Int
  toSeq : Int
  entryCount : Nat
  headEntryHash : Option String
  checkpointEvery : Nat

/-- How the evidence files are written and read. What was dumped is loaded as it
was. -/
structure BundleFormat where
  File : Type
  readBytes : File → Bytes
  dumpNdjson : List AuditLogRow → File
  loadNdjson : File → Except Failure (List AuditLogRow)
  dumpCheckpoints : List AuditCheckpointRow → File
  loadCheckpoints : File → Except Failure (List AuditCheckpointRow)
  dumpMetadata : BundleMetadata → File
  loadMetadata : File → Except Failure BundleMetadata
  loadNdjson_dump : ∀ rows, loadNdjson (dumpNdjson rows) = .ok rows
  loadCheckpoints_dump : ∀ checkpoints, loadCheckpoints (dumpCheckpoints checkpoints) =
    .ok checkpoints
  loadMetadata_dump : ∀ metadata, loadMetadata (dumpMetadata metadata) = .ok metadata

/-- A bundle directory: its evidence files, and `manifest.json` with a hash for
each file it lists. -/
structure Bundle (F : BundleFormat) where
  files : List (String × F.File)
  manifest : Option (List (String × String))

/-- The checkpoints whose whole segment is in the range. -/
def relevantCheckpoints (tables : AuditTables) (fromSeq toSeq : Int) : List AuditCheckpointRow :=
  tables.checkpoints.filter fun c => fromSeq ≤ c.fromSeq ∧ c.toSeq ≤ toSeq

/-- The metadata of an export. -/
def exportMetadata (P : Platform) (tables : AuditTables) (fromSeq toSeq : Int) :
    BundleMetadata where
  fromSeq := fromSeq
  toSeq := toSeq
  entryCount := (tables.listRange fromSeq toSeq).length
  headEntryHash := (tables.listRange fromSeq toSeq).getLast?.map AuditLogRow.entryHash
  checkpointEvery := P.settings.auditCheckpointEvery

/-- `export_bundle`. -/
def exportBundle (P : Platform) (F : BundleFormat) (tables : AuditTables) (fromSeq toSeq : Int) :
    Bundle F :=
  let files := [
    ("audit_log.ndjson", F.dumpNdjson (tables.listRange fromSeq toSeq)),
    ("checkpoints.json", F.dumpCheckpoints (relevantCheckpoints tables fromSeq toSeq)),
    ("metadata.json", F.dumpMetadata (exportMetadata P tables fromSeq toSeq))]
  { files := files
    manifest := some (files.map fun (name, file) => (name, P.prefixedDigest (F.readBytes file))) }

/-! ## `verify_bundle.py` -/

/-- What the script prints before it exits. -/
inductive BundleVerdict where
  | manifestMissing
  | fileMissing (filename : String)
  | manifestMismatch (filename expected computed : String)
  | chainBroken (seq : Int) (expected computed : String)
  | headMismatch (expected computed : Option String)
  | chainValid (head : Option String) (entries : Nat)
  deriving DecidableEq

namespace BundleVerdict

def exitCode : BundleVerdict → Nat
  | .chainValid _ _ => 0
  | _ => 1

/-- The sequence number a verdict names. -/
def brokenSeq : BundleVerdict → Option Int
  | .chainBroken seq _ _ => some seq
  | _ => none

end BundleVerdict

/-- `_verify_manifest`: the first file that is missing or differs. -/
def verifyManifest (P : Platform) {F : BundleFormat} (files : List (String × F.File)) :
    List (String × String) → Option BundleVerdict
  | [] => none
  | (filename, expectedHash) :: manifest =>
      match files.lookup filename with
      | none => some (.fileMissing filename)
      | some target =>
          let actualHash := P.prefixedDigest (F.readBytes target)
          if actualHash ≠ expectedHash then
            some (.manifestMismatch filename expectedHash actualHash)
          else verifyManifest P files manifest

/-- A file the script opens. -/
def readFile {F : BundleFormat} (files : List (String × F.File)) (filename : String) :
    Except Failure F.File :=
  match files.lookup filename with
  | none => .error (.other s!"No such file or directory: {filename}")
  | some file => .ok file

/-- The variables of the script's loop. -/
structure BundleScan where
  prevHash : Bytes
  segmentHashes : List Digest
  expectedSeq : Int

/-- The script's check of a checkpoint. -/
def BundleScan.matchCheckpoint (P : Platform) (metadata : BundleMetadata)
    (checkpoints : List AuditCheckpointRow) (seq : Int) (scan : BundleScan) :
    Except Failure (BundleVerdict ⊕ BundleScan) :=
  match (checkpoints.filter fun c => c.toSeq = seq).getLast? with
  | none => .ok (.inr scan)
  | some checkpoint =>
      let segment := scan.segmentHashes.drop
        (scan.segmentHashes.length - metadata.checkpointEvery)
      match merkleRoot P segment with
      | none => .error .valueError
      | some root =>
          if hexPrefixed root ≠ checkpoint.merkleRoot then
            .ok (.inl (.chainBroken seq checkpoint.merkleRoot (hexPrefixed root)))
          else .ok (.inr scan)

/-- One round of the script's loop. -/
def BundleScan.visit (P : Platform) (metadata : BundleMetadata)
    (checkpoints : List AuditCheckpointRow) (scan : BundleScan) (entry : AuditLogRow) :
    Except Failure (BundleVerdict ⊕ BundleScan) :=
  if entry.seq ≠ scan.expectedSeq then
    .ok (.inl (.chainBroken scan.expectedSeq "a row present"
      s!"row missing (found seq={entry.seq} instead)"))
  else
    let recomputedHash := P.sha256 (scan.prevHash ++ (payloadHash P entry.payload).val)
    if entry.prevHash ≠ "sha256:" ++ hex scan.prevHash ∨
        entry.entryHash ≠ hexPrefixed recomputedHash then
      .ok (.inl (.chainBroken entry.seq entry.entryHash (hexPrefixed recomputedHash)))
    else
      let scan : BundleScan := {
        prevHash := recomputedHash.val
        segmentHashes := scan.segmentHashes ++ [recomputedHash]
        expectedSeq := scan.expectedSeq + 1 }
      let checkpointEvery : Int := metadata.checkpointEvery
      if checkpointEvery = 0 then .error (.other "integer modulo by zero")
      else if entry.seq % checkpointEvery = 0 ∧
          metadata.fromSeq ≤ entry.seq - checkpointEvery + 1 then
        scan.matchCheckpoint P metadata checkpoints entry.seq
      else .ok (.inr scan)

/-- The script's loop. -/
def scanRows (P : Platform) (metadata : BundleMetadata) (checkpoints : List AuditCheckpointRow) :
    BundleScan → List AuditLogRow → Except Failure (BundleVerdict ⊕ BundleScan)
  | scan, [] => .ok (.inr scan)
  | scan, entry :: entries =>
      match scan.visit P metadata checkpoints entry with
      | .ok (.inr scan) => scanRows P metadata checkpoints scan entries
      | stopped => stopped

/-- The hash the first row has to link to: a partial export is trusted for it. -/
def chainStart (metadata : BundleMetadata) (entries : List AuditLogRow) : Except Failure Bytes :=
  if metadata.fromSeq = 1 then .ok genesisPrevHash.val
  else
    match entries with
    | [] => .ok genesisPrevHash.val
    | first :: _ =>
        match fromHex (first.prevHash.toList.drop 7) with
        | some bytes => .ok bytes
        | none => .error .valueError

/-- The check of the head, after the loop. -/
def checkHead (metadata : BundleMetadata) (entries : List AuditLogRow) (scan : BundleScan) :
    BundleVerdict :=
  let head := if entries.isEmpty then none else some ("sha256:" ++ hex scan.prevHash)
  if head ≠ metadata.headEntryHash then .headMismatch metadata.headEntryHash head
  else .chainValid head entries.length

/-- `main` of `verify_bundle.py`. -/
def verifyBundle (P : Platform) {F : BundleFormat} (bundle : Bundle F) :
    Except Failure BundleVerdict :=
  match bundle.manifest with
  | none => .ok .manifestMissing
  | some manifest =>
      match verifyManifest P bundle.files manifest with
      | some verdict => .ok verdict
      | none => do
          let entries ← F.loadNdjson (← readFile bundle.files "audit_log.ndjson")
          let checkpoints ← F.loadCheckpoints (← readFile bundle.files "checkpoints.json")
          let metadata ← F.loadMetadata (← readFile bundle.files "metadata.json")
          let start ← chainStart metadata entries
          match ← scanRows P metadata checkpoints ⟨start, [], metadata.fromSeq⟩ entries with
          | .inl verdict => return verdict
          | .inr scan => return checkHead metadata entries scan

/-! ## The loops agree -/

section Agreement

variable {P : Platform} {F : BundleFormat} {tables : AuditTables} {fromSeq toSeq : Int}

/-- The online loop's variables that the script's loop has. -/
def Scan.offline (scan : Scan) : BundleScan :=
  ⟨scan.prevHash.val, scan.segmentHashes, scan.expectedSeq⟩

/-- What a round of the online loop says to the script: a number or variables. -/
def online : Broken ⊕ Scan → Option Int ⊕ BundleScan :=
  Sum.map (fun broken => some broken.break_.seq) Scan.offline

/-- What a round of the script's loop comes to. -/
def offline : BundleVerdict ⊕ BundleScan → Option Int ⊕ BundleScan :=
  Sum.map BundleVerdict.brokenSeq id

/-- Every checkpoint is of a whole segment. -/
def Aligned (P : Platform) (tables : AuditTables) : Prop :=
  ∀ c ∈ tables.checkpoints, c.fromSeq = c.toSeq - P.settings.auditCheckpointEvery + 1

/-- The export leaves out no checkpoint that the online loop would look up. -/
theorem getLast?_relevantCheckpoints (aligned : Aligned P tables) {seq : Int} (bound : seq ≤ toSeq)
    (inside : fromSeq ≤ seq - P.settings.auditCheckpointEvery + 1) :
    ((relevantCheckpoints tables fromSeq toSeq).filter fun c => c.toSeq = seq).getLast? =
      tables.checkpointByToSeq seq := by
  rw [AuditTables.checkpointByToSeq, relevantCheckpoints, List.filter_filter]
  congr 1
  refine List.filter_congr fun c member => ?_
  have whole := aligned c member
  by_cases ends : c.toSeq = seq
  · have covered : fromSeq ≤ c.fromSeq ∧ c.toSeq ≤ toSeq := by omega
    simp only [ends] at covered
    simp [ends, covered]
  · simp [ends]

theorem matchCheckpoint_offline {scan : Scan} {seq : Int} {checkpoints : List AuditCheckpointRow}
    (same : (checkpoints.filter fun c => c.toSeq = seq).getLast? = tables.checkpointByToSeq seq) :
    (scan.offline.matchCheckpoint P (exportMetadata P tables fromSeq toSeq) checkpoints seq).map
        offline =
      (scan.matchCheckpoint P tables seq).map online := by
  rw [BundleScan.matchCheckpoint, Scan.matchCheckpoint, same]
  cases tables.checkpointByToSeq seq with
  | none => rfl
  | some checkpoint =>
      have segment : scan.offline.segmentHashes.drop (scan.offline.segmentHashes.length -
          (exportMetadata P tables fromSeq toSeq).checkpointEvery) =
        scan.segmentHashes.drop
          (scan.segmentHashes.length - P.settings.auditCheckpointEvery) := rfl
      simp only [segment]
      cases merkleRoot P (scan.segmentHashes.drop
          (scan.segmentHashes.length - P.settings.auditCheckpointEvery)) with
      | none => rfl
      | some root =>
          by_cases differs : hexPrefixed root = checkpoint.merkleRoot
          · simp only [differs, ne_eq, not_true_eq_false, if_false]
            rfl
          · simp only [differs, ne_eq, not_false_eq_true, if_true]
            rfl

/-- One round. -/
theorem visit_offline (aligned : Aligned P tables) (fromSeq : Int) (scan : Scan)
    {entry : AuditLogRow} (bound : entry.seq ≤ toSeq) :
    (scan.offline.visit P (exportMetadata P tables fromSeq toSeq)
        (relevantCheckpoints tables fromSeq toSeq) entry).map offline =
      (scan.visit P tables fromSeq entry).map online := by
  have every : (P.settings.auditCheckpointEvery : Int) ≠ 0 := by
    have positive := P.settings.checkpointEveryPositive
    omega
  rw [BundleScan.visit, Scan.visit]
  -- Both loops decide by the same conditions.
  change Except.map offline (ite (entry.seq ≠ scan.expectedSeq) _
    (ite (entry.prevHash ≠ hexPrefixed scan.prevHash ∨
        entry.entryHash ≠ hexPrefixed (computeEntryHash P scan.prevHash entry.payload)) _
      (ite ((P.settings.auditCheckpointEvery : Int) = 0) _
        (ite (entry.seq % (P.settings.auditCheckpointEvery : Int) = 0 ∧
          fromSeq ≤ entry.seq - (P.settings.auditCheckpointEvery : Int) + 1) _ _)))) = _
  by_cases gap : entry.seq ≠ scan.expectedSeq
  · rw [if_pos gap, if_pos gap]
    rfl
  · rw [if_neg gap, if_neg gap]
    dsimp only
    split
    next => rfl
    next linked =>
      split
      next completes =>
        exact @matchCheckpoint_offline P tables fromSeq toSeq
          (scan.next P entry scan.checkpointsMatched) _ _
          (getLast?_relevantCheckpoints aligned bound completes.2)
      next within => rfl

/-- The loops, from the same variables over the same rows. -/
theorem scanRows_eq (aligned : Aligned P tables) (fromSeq : Int) {rows : List AuditLogRow}
    (bound : ∀ row ∈ rows, row.seq ≤ toSeq) (scan : Scan) :
    (scanRows P (exportMetadata P tables fromSeq toSeq)
        (relevantCheckpoints tables fromSeq toSeq) scan.offline rows).map offline =
      (scanEntries P tables fromSeq scan rows).map online := by
  induction rows generalizing scan with
  | nil => rfl
  | cons row rows ih =>
      have round := visit_offline aligned fromSeq scan (bound row List.mem_cons_self)
      rw [scanRows, scanEntries]
      cases visited : scan.visit P tables fromSeq row with
      | error failure =>
          rw [visited] at round
          cases visited' : scan.offline.visit P (exportMetadata P tables fromSeq toSeq)
              (relevantCheckpoints tables fromSeq toSeq) row with
          | error failure' => rwa [visited'] at round
          | ok after' => rw [visited'] at round; cases round
      | ok after =>
          rw [visited] at round
          cases visited' : scan.offline.visit P (exportMetadata P tables fromSeq toSeq)
              (relevantCheckpoints tables fromSeq toSeq) row with
          | error failure' => rw [visited'] at round; cases round
          | ok after' =>
              rw [visited'] at round
              have same : offline after' = online after := Except.ok.inj round
              cases after with
              | inl broken =>
                  cases after' with
                  | inl verdict => exact round
                  | inr scan' => cases same
              | inr scan =>
                  cases after' with
                  | inl verdict => cases same
                  | inr scan' =>
                      obtain rfl : scan' = scan.offline := Sum.inr.inj same
                      exact ih (fun row member => bound row (List.mem_cons_of_mem _ member)) scan

/-! ## An export that starts at the genesis value -/

/-- A round raises nothing: a segment that is complete has a root. -/
theorem visit_returns (P : Platform) (tables : AuditTables) (fromSeq : Int) (scan : Scan)
    (entry : AuditLogRow) : ∃ after, scan.visit P tables fromSeq entry = .ok after := by
  rw [Scan.visit]
  split
  next => exact ⟨_, rfl⟩
  next =>
    dsimp only
    split
    next => exact ⟨_, rfl⟩
    next =>
      split
      next =>
        have every := P.settings.checkpointEveryPositive
        rw [Scan.matchCheckpoint]
        split
        next => exact ⟨_, rfl⟩
        next checkpoint found =>
          dsimp only
          have nonempty : lastSegment P
              (scan.segmentHashes ++ [computeEntryHash P scan.prevHash entry.payload]) ≠ [] := by
            refine List.ne_nil_of_length_pos ?_
            rw [lastSegment, List.length_drop, List.length_append, List.length_singleton]
            omega
          obtain ⟨root, computed⟩ := exists_merkleRoot (P := P) nonempty
          rw [lastSegment] at computed
          rw [computed]
          dsimp only
          split
          next => exact ⟨_, rfl⟩
          next => exact ⟨_, rfl⟩
      next => exact ⟨_, rfl⟩

theorem scanEntries_returns (P : Platform) (tables : AuditTables) (fromSeq : Int)
    (rows : List AuditLogRow) (scan : Scan) :
    ∃ after, scanEntries P tables fromSeq scan rows = .ok after := by
  induction rows generalizing scan with
  | nil => exact ⟨_, rfl⟩
  | cons row rows ih =>
      obtain ⟨after, visited⟩ := visit_returns P tables fromSeq scan row
      rw [scanEntries, visited]
      cases after with
      | inl broken => exact ⟨_, rfl⟩
      | inr scan => exact ih scan

/-- After the loop the previous hash is the last row's. -/
theorem entryHash_getLast?_of_scanned {rows : List AuditLogRow} {scan after : Scan}
    (passed : scanEntries P tables fromSeq scan rows = .ok (.inr after)) :
    (rows.getLast?.map AuditLogRow.entryHash).getD (hexPrefixed scan.prevHash) =
      hexPrefixed after.prevHash := by
  induction rows generalizing scan with
  | nil =>
      cases passed
      rfl
  | cons row rows ih =>
      rw [scanEntries] at passed
      split at passed
      next next goesOn =>
        obtain ⟨⟨_, _, hashed, _⟩, matched, rfl⟩ := visit_eq_inr goesOn
        rw [← ih passed, List.getLast?_cons]
        cases rows.getLast? with
        | none => exact hashed
        | some last => rfl
      next stopped => exact absurd passed (fun same => stopped _ same)

/-- On an unmodified bundle the manifest is in order and the files are read back,
so that the loop and the check of the head decide. -/
theorem verifyBundle_exportBundle (P : Platform) (F : BundleFormat) (tables : AuditTables)
    (toSeq : Int) :
    verifyBundle P (exportBundle P F tables 1 toSeq) =
      (scanRows P (exportMetadata P tables 1 toSeq) (relevantCheckpoints tables 1 toSeq)
        ⟨genesisPrevHash.val, [], 1⟩ (tables.listRange 1 toSeq)).map
        (Sum.elim id (checkHead (exportMetadata P tables 1 toSeq) (tables.listRange 1 toSeq))) := by
  have manifest : verifyManifest P (exportBundle P F tables 1 toSeq).files
      ((exportBundle P F tables 1 toSeq).files.map fun (name, file) =>
        (name, P.prefixedDigest (F.readBytes file))) = none := by
    simp [exportBundle, verifyManifest, List.lookup_cons]
  have listed : (exportBundle P F tables 1 toSeq).manifest =
      some ((exportBundle P F tables 1 toSeq).files.map fun (name, file) =>
        (name, P.prefixedDigest (F.readBytes file))) := rfl
  have log : readFile (exportBundle P F tables 1 toSeq).files "audit_log.ndjson" =
      .ok (F.dumpNdjson (tables.listRange 1 toSeq)) := rfl
  have checkpoints : readFile (exportBundle P F tables 1 toSeq).files "checkpoints.json" =
      .ok (F.dumpCheckpoints (relevantCheckpoints tables 1 toSeq)) := rfl
  have metadata : readFile (exportBundle P F tables 1 toSeq).files "metadata.json" =
      .ok (F.dumpMetadata (exportMetadata P tables 1 toSeq)) := rfl
  have start : chainStart (exportMetadata P tables 1 toSeq) (tables.listRange 1 toSeq) =
      .ok genesisPrevHash.val := rfl
  have first : (exportMetadata P tables 1 toSeq).fromSeq = 1 := rfl
  simp only [verifyBundle, listed, manifest, log, checkpoints, metadata, start, first,
    F.loadNdjson_dump, F.loadCheckpoints_dump, F.loadMetadata_dump, Foundation.ok_bind]
  cases scanRows P (exportMetadata P tables 1 toSeq) (relevantCheckpoints tables 1 toSeq)
      ⟨genesisPrevHash.val, [], 1⟩ (tables.listRange 1 toSeq) with
  | error failure => rfl
  | ok stopped =>
      cases stopped with
      | inl verdict => rfl
      | inr scan => rfl

/-- After a pass through the whole loop the head is the one of the metadata. -/
theorem checkHead_of_scanned {after : Scan}
    (passed : scanEntries P tables 1 ⟨genesisPrevHash, 0, [], [], 1⟩ (tables.listRange 1 toSeq) =
      .ok (.inr after)) :
    (checkHead (exportMetadata P tables 1 toSeq) (tables.listRange 1 toSeq) after.offline).exitCode =
      0 := by
  have last := entryHash_getLast?_of_scanned passed
  have head : (if (tables.listRange 1 toSeq).isEmpty then none
      else some ("sha256:" ++ hex after.offline.prevHash)) =
        (exportMetadata P tables 1 toSeq).headEntryHash := by
    rw [exportMetadata]
    cases entries : tables.listRange 1 toSeq with
    | nil => rfl
    | cons entry rest =>
        rw [entries, List.getLast?_eq_some_getLast (List.cons_ne_nil entry rest)] at last
        rw [List.getLast?_eq_some_getLast (List.cons_ne_nil entry rest)]
        exact congrArg some last.symm
  simp only [checkHead, head, ne_eq, not_true_eq_false, if_false, BundleVerdict.exitCode]

end Agreement

namespace Fixture

open Actl.Fixture (platform)

/-- The files of a bundle, by what was dumped to them. -/
inductive EvidenceFile where
  | ndjson (rows : List AuditLogRow)
  | checkpoints (rows : List AuditCheckpointRow)
  | metadata (metadata : BundleMetadata)

/-- A row as `export_bundle` writes it. -/
def rowObject (row : AuditLogRow) : JSONValue :=
  .obj [("seq", .int row.seq), ("trace_id", .str row.traceId), ("actor_type", .str row.actorType),
    ("actor_id", .str row.actorId), ("action", .str row.action), ("subject", row.subject),
    ("payload", row.payload), ("payload_hash", .str row.payloadHash),
    ("prev_hash", .str row.prevHash), ("entry_hash", .str row.entryHash)]

def checkpointObject (checkpoint : AuditCheckpointRow) : JSONValue :=
  .obj [("from_seq", .int checkpoint.fromSeq), ("to_seq", .int checkpoint.toSeq),
    ("merkle_root", .str checkpoint.merkleRoot)]

def metadataObject (metadata : BundleMetadata) : JSONValue :=
  .obj [("from_seq", .int metadata.fromSeq), ("to_seq", .int metadata.toSeq),
    ("entry_count", .int metadata.entryCount),
    ("head_entry_hash", (metadata.headEntryHash.map JSONValue.str).getD .null),
    ("checkpoint_every", .int metadata.checkpointEvery)]

/-- Files in canonical JSON. -/
def canonicalFormat : BundleFormat where
  File := EvidenceFile
  readBytes
    | .ndjson rows => rows.flatMap fun row => jcs (rowObject row) ++ encode "\n"
    | .checkpoints rows => jcs (.arr (rows.map checkpointObject))
    | .metadata metadata => jcs (metadataObject metadata)
  dumpNdjson := .ndjson
  loadNdjson
    | .ndjson rows => .ok rows
    | _ => .error .valueError
  dumpCheckpoints := .checkpoints
  loadCheckpoints
    | .checkpoints rows => .ok rows
    | _ => .error .valueError
  dumpMetadata := .metadata
  loadMetadata
    | .metadata metadata => .ok metadata
    | _ => .error .valueError
  loadNdjson_dump _ := rfl
  loadCheckpoints_dump _ := rfl
  loadMetadata_dump _ := rfl

/-- A log whose one row was rewritten after its hash was taken, with a checkpoint
beyond it. -/
def rewrittenRow : AuditTables :=
  ⟨[{ firstRow (.obj []) with payload := .obj [("amount_minor", .int 1)] }],
    [⟨1, 64, "sha256:00"⟩], by simp, by simp⟩

end Fixture

end Actl.Audit
