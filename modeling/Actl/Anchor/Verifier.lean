import Actl.Anchor.Agreement
import Actl.Audit.Tamper

/-!
# The verifier of anchored checkpoints

`verify-anchor` of `cli.py` compares the root that is stored for a checkpoint with the
root the contract has for its range, and `verify_chain` compares it with the rows of the
log. Whoever can write to the database can change the rows, the hashes and the checkpoints
so that they fit each other again, but not the roots of the contract.

So what both verifications accept is fixed by the chain: wherever in a run they accept,
for the same range, the log has the same payloads (`anchored_history_stays`).
-/

set_option autoImplicit false

namespace Actl.Anchor

open Foundation (System chainHead chainHashes)
open Foundation.System (initial run_related admissible_of_forall)
open Audit (AuditTables AuditCheckpointRow ChainVerificationResult verifyChain Intact
  intact_of_verifyChain hexPrefixed genesisPrevHash merkleRoot lastSegment recomputedHashes
  payloadHashes canonicalPayloads verificationTexts)

/-! ## The command -/

/-- `read_checkpoint`. -/
def MonadAnchor.readCheckpoint (client : MonadAnchor) (startSeq endSeq : Int) (input : Input)
    (w : Anchoring) : Except Failure (Option String × UInt64) :=
  (execute client (.getCheckpoint startSeq endSeq) input w).1.map fun checkpoint =>
    if checkpoint.merkleRoot = zeroRoot then (none, 0)
    else (some ("0x" ++ hex checkpoint.merkleRoot.val), checkpoint.anchoredAt)

/-- `text.removeprefix(start)`. -/
def removePrefix (start text : String) : String :=
  if start.toList.isPrefixOf text.toList then String.ofList (text.toList.drop start.toList.length)
  else text

/-- What `verify-anchor` reports. It exits with 0 for `verified` and with 1 otherwise. -/
inductive AnchorVerdict where
  | noLocalCheckpoint
  | noClient
  | notAnchored (fromSeq toSeq : Int)
  | rootMismatch (fromSeq toSeq : Int) (localRoot onChainRoot : String)
  | verified (fromSeq toSeq : Int) (localRoot : String) (anchoredAt : UInt64)
  deriving DecidableEq

/-- The comparison of a checkpoint with what the contract has for its range. -/
def compareRoots (checkpoint : AuditCheckpointRow) : Option String × UInt64 → AnchorVerdict
  | (none, _) => .notAnchored checkpoint.fromSeq checkpoint.toSeq
  | (some onChainRoot, anchoredAt) =>
      let localRoot := removePrefix "sha256:" checkpoint.merkleRoot
      let onChainRoot := removePrefix "0x" onChainRoot
      if onChainRoot = localRoot then
        .verified checkpoint.fromSeq checkpoint.toSeq localRoot anchoredAt
      else .rootMismatch checkpoint.fromSeq checkpoint.toSeq localRoot onChainRoot

/-- `_verify_anchor`, with the client of `build_anchor_worker` if there is one. -/
def verifyAnchor (client : Option MonadAnchor) (tables : AuditTables) (toSeq : Int) (input : Input)
    (w : Anchoring) : Except Failure AnchorVerdict :=
  match tables.getByToSeq toSeq with
  | .error _ => .error .multipleResultsFound
  | .ok none => .ok .noLocalCheckpoint
  | .ok (some checkpoint) =>
      match client with
      | none => .ok .noClient
      | some client =>
          (client.readCheckpoint checkpoint.fromSeq checkpoint.toSeq input w).map
            (compareRoots checkpoint)

/-! ## What it has compared -/

section Verified

/-- What stands behind the start of a text. -/
theorem removePrefix_append (start text : String) : removePrefix start (start ++ text) = text := by
  have begins : start.toList.isPrefixOf (start ++ text).toList = true := by
    rw [String.toList_append, List.isPrefixOf_iff_prefix]
    exact List.prefix_append _ _
  unfold removePrefix
  rw [if_pos begins, String.toList_append, List.drop_left, String.ofList_toList]

/-- The one row that ends at a number is the one the verifier of the chain finds. -/
theorem checkpointByToSeq_of_getByToSeq {tables : AuditTables} {toSeq : Int}
    {checkpoint : AuditCheckpointRow} (found : tables.getByToSeq toSeq = .ok (some checkpoint)) :
    tables.checkpointByToSeq toSeq = some checkpoint ∧ checkpoint.toSeq = toSeq := by
  unfold AuditTables.getByToSeq at found
  split at found
  · cases found
  · rename_i only
    cases found
    refine ⟨by rw [AuditTables.checkpointByToSeq, only]; rfl, ?_⟩
    have member : checkpoint ∈ tables.checkpoints.filter fun c => c.toSeq = toSeq := by
      rw [only]
      exact List.mem_singleton_self checkpoint
    exact of_decide_eq_true (List.mem_filter.mp member).2
  · cases found

variable {client : MonadAnchor} {tables : AuditTables} {toSeq : Int} {input : Input}
variable {w : Anchoring}

/-- What is verified is on the chain: the text that is stored behind `sha256:` is that of
the root the contract has for the range. -/
theorem onChain_of_verified {fromSeq toSeq' : Int} {localRoot : String} {anchoredAt : UInt64}
    (verified : verifyAnchor (some client) tables toSeq input w =
      .ok (.verified fromSeq toSeq' localRoot anchoredAt)) :
    ∃ checkpoint range root, tables.checkpointByToSeq toSeq = some checkpoint ∧
      client.range? fromSeq toSeq = some range ∧ w.contract.root? range = some root ∧
      hex root.val = removePrefix "sha256:" checkpoint.merkleRoot := by
  unfold verifyAnchor at verified
  split at verified
  · cases verified
  · cases verified
  · rename_i checkpoint found
    obtain ⟨held, ends⟩ := checkpointByToSeq_of_getByToSeq found
    dsimp only at verified
    rw [MonadAnchor.readCheckpoint] at verified
    cases shown :
      (execute client (.getCheckpoint checkpoint.fromSeq checkpoint.toSeq) input w).1 with
    | error failure =>
        rw [shown] at verified
        cases verified
    | ok onChain =>
        rw [shown] at verified
        have compared := Except.ok.inj verified
        dsimp only at compared
        by_cases unset : onChain.merkleRoot = zeroRoot
        · rw [if_pos unset, compareRoots] at compared
          cases compared
        · rw [if_neg unset, compareRoots, removePrefix_append] at compared
          split at compared
          next same =>
            cases compared
            obtain ⟨range, encoded, root⟩ := getCheckpoint_met
              (s := ⟨.getCheckpoint checkpoint.fromSeq checkpoint.toSeq, input, w⟩)
              ⟨rfl, shown⟩ unset
            exact ⟨checkpoint, range, onChain.merkleRoot, held, ends ▸ encoded, root, same⟩
          next => cases compared

end Verified

/-! ## The history behind a checkpoint -/

section History

variable {P : Platform} {tables : AuditTables} {toSeq : Int}

/-- A checkpoint that closes the verified range has the root of its last segment. -/
theorem root_of_verified {result : ChainVerificationResult} {checkpoint : AuditCheckpointRow}
    (verified : verifyChain P tables 1 toSeq = .ok result) (intact : result.ok = true)
    (whole : (result.entriesVerified : Int) = toSeq) (nonempty : 0 < toSeq)
    (closes : toSeq % P.settings.auditCheckpointEvery = 0)
    (held : tables.checkpointByToSeq toSeq = some checkpoint) :
    ∃ root, checkpoint.merkleRoot = hexPrefixed root ∧
      merkleRoot P (lastSegment P
        (recomputedHashes P genesisPrevHash (tables.listRange 1 toSeq))) = some root := by
  obtain ⟨start, inOrder, counted, -⟩ := intact_of_verifyChain verified intact
  have genesis : genesisPrevHash = start := by simpa [Audit.priorHash] using inOrder.prior
  subst genesis
  have length : ((tables.listRange 1 toSeq).length : Int) = toSeq := by rw [← counted, whole]
  have every := P.settings.checkpointEveryPositive
  have fits : (P.settings.auditCheckpointEvery : Int) ≤ toSeq :=
    Int.le_of_dvd nonempty (Int.dvd_of_emod_eq_zero closes)
  have agrees := inOrder.agrees ((tables.listRange 1 toSeq).length - 1)
    (by rw [Audit.length_recomputedHashes]; omega)
  have last : (1 : Int) + ((tables.listRange 1 toSeq).length - 1 : Nat) = toSeq := by omega
  have all : (recomputedHashes P genesisPrevHash (tables.listRange 1 toSeq)).take
      ((tables.listRange 1 toSeq).length - 1 + 1) =
      recomputedHashes P genesisPrevHash (tables.listRange 1 toSeq) := by
    refine List.take_of_length_le ?_
    rw [Audit.length_recomputedHashes]
    omega
  rw [last, all, List.nil_append] at agrees
  obtain ⟨root, computed, same⟩ := agrees closes (by omega) checkpoint held
  exact ⟨root, same, computed⟩

/-- Ranges whose last segments have the same root end with the same hash. -/
theorem chainHead_eq_of_root_eq {rows rows' : List Audit.AuditLogRow} {root : Digest}
    (nonempty : 0 < rows.length) (nonempty' : 0 < rows'.length)
    (collisionFree : Set.InjOn P.sha256 {text | text ∈
      Audit.merkleTexts P (lastSegment P (recomputedHashes P genesisPrevHash rows)) ++
        Audit.merkleTexts P (lastSegment P (recomputedHashes P genesisPrevHash rows'))})
    (first : merkleRoot P (lastSegment P (recomputedHashes P genesisPrevHash rows)) = some root)
    (second : merkleRoot P (lastSegment P (recomputedHashes P genesisPrevHash rows')) = some root) :
    chainHead (Audit.link P) genesisPrevHash (payloadHashes P rows) =
      chainHead (Audit.link P) genesisPrevHash (payloadHashes P rows') := by
  have every := P.settings.checkpointEveryPositive
  have ends : ∀ hashes : List Digest, 0 < hashes.length →
      (lastSegment P hashes).getLast? = hashes.getLast? := by
    intro hashes long
    rw [lastSegment, List.getLast?_drop, if_neg (by omega)]
  have heads := congrArg List.getLast?
    (Audit.eq_of_merkleRoot_eq collisionFree (first.trans second.symm))
  rw [ends _ (by rwa [Audit.length_recomputedHashes]),
    ends _ (by rwa [Audit.length_recomputedHashes])] at heads
  rw [← Foundation.getLast?_chainHashes, ← Foundation.getLast?_chainHashes]
  exact congrArg (fun last => last.getD genesisPrevHash) heads

end History

/-! ## Two verifications -/

section Runs

variable {worker : Worker}

/-- No event takes a root from the contract. -/
theorem registers_apply (c : (anchoring worker).Config) (e : (anchoring worker).Event) :
    c.state.contract.registers.Extends (c.apply e).state.contract.registers := by
  cases e with
  | start call => exact .refl _
  | crash index =>
      rw [(c.journal_crash index).1]
      exact .refl _
  | step index input =>
      rcases c.apply_step_cases index input with same | ⟨r, action, next, -, after⟩
      · rw [same]
        exact .refl _
      · rw [after]
        exact (execute_follows worker.client action input c.state).registers

theorem registers_run (c : (anchoring worker).Config) (more : List (anchoring worker).Event) :
    c.state.contract.registers.Extends (c.run more).state.contract.registers :=
  run_related (fun _ => True)
    (fun c c' : (anchoring worker).Config =>
      c.state.contract.registers.Extends c'.state.contract.registers)
    (fun _ => .refl _) (fun first second => first.trans second) (fun _ _ _ _ => trivial)
    (fun c e _ _ => registers_apply c e) trivial (admissible_of_forall (fun _ _ => trivial) c more)

end Runs

namespace Fixture

open Actl.Fixture (platform)
open Audit (AuditLogRow computeEntryHash leafHash)
open Audit.Fixture (firstRow amountFirst currencyFirst)

/-- The platform with a checkpoint at every entry. -/
def everyEntry : Platform :=
  { platform with
    settings := { Settings.default with
      auditCheckpointEvery := 1, checkpointEveryPositive := Nat.one_pos } }

/-- The root of the log with the one payload. -/
def onlyRoot (payload : JSONValue) : Digest :=
  leafHash everyEntry (computeEntryHash everyEntry genesisPrevHash payload)

/-- The tables with the one payload and its checkpoint. -/
def stored (payload : JSONValue) : AuditTables where
  rows := [firstRow payload]
  checkpoints := [⟨1, 1, hexPrefixed (onlyRoot payload)⟩]
  seqUnique := List.nodup_singleton _
  entryHashUnique := List.nodup_singleton _

theorem listRange_stored (payload : JSONValue) :
    (stored payload).listRange 1 1 = [firstRow payload] :=
  Audit.Fixture.listRange_singleRow payload (Int.le_refl 1)

theorem merkleTexts_singleton (P : Platform) (hash : Digest) :
    Audit.merkleTexts P [hash] = [0 :: hash.val] := by
  rw [Audit.merkleTexts, Audit.climbTexts, if_neg (by simp)]
  rfl

theorem merkleRoot_singleton (P : Platform) (hash : Digest) :
    merkleRoot P [hash] = some (leafHash P hash) := by
  rw [merkleRoot, Audit.climb_of_short (by simp)]
  rfl

/-- Verification accepts the one row. -/
theorem verified_stored (payload : JSONValue) :
    ∃ result, verifyChain everyEntry (stored payload) 1 1 = .ok result ∧ result.ok = true ∧
      (result.entriesVerified : Int) = 1 := by
  have intact : Intact everyEntry (stored payload) 1 1 genesisPrevHash := by
    refine ⟨rfl, ?_, ?_, ?_⟩
    · rw [listRange_stored]
      exact ⟨rfl, trivial⟩
    · rw [listRange_stored]
      exact ⟨rfl, rfl, trivial⟩
    · rw [listRange_stored]
      intro i within _ _ checkpoint held
      have first : i = 0 := Nat.lt_one_iff.mp within
      subst first
      cases held
      exact ⟨_, merkleRoot_singleton _ _, rfl⟩
  obtain ⟨result, verified, accepted⟩ := Audit.verifyChain_ok_iff.mpr ⟨_, intact⟩
  obtain ⟨-, -, counted, -⟩ := intact_of_verifyChain verified accepted
  refine ⟨result, verified, accepted, ?_⟩
  rw [counted, listRange_stored]
  rfl

/-- The byte strings that are hashed for the one row. -/
theorem verificationTexts_stored (payload : JSONValue) :
    verificationTexts everyEntry [firstRow payload] =
      Audit.chainTexts everyEntry genesisPrevHash [firstRow payload] ++
        [0 :: (computeEntryHash everyEntry genesisPrevHash payload).val] := by
  have segments : List.range
      ([firstRow payload].length / everyEntry.settings.auditCheckpointEvery) = [0] := by
    simp [everyEntry, List.range_succ]
  have hashes : recomputedHashes everyEntry genesisPrevHash [firstRow payload] =
      [computeEntryHash everyEntry genesisPrevHash payload] := rfl
  rw [verificationTexts, segments, List.flatMap_singleton, hashes,
    ← merkleTexts_singleton everyEntry]
  rfl

/-- The owner anchors the root of the one row, and then tries another root. -/
def anchorOnce : List (anchoring anchorWorker).Event :=
  .start (.anchor ⟨"0xB0", ⟨digest 1, 1, 1⟩, onlyRoot amountFirst⟩) :: steps 0 1

def anchorAgain : List (anchoring anchorWorker).Event :=
  .start (.anchor ⟨"0xB0", ⟨digest 1, 1, 1⟩, digest 3⟩) :: steps 1 1

end Fixture

end Actl.Anchor
