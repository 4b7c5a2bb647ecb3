import Actl.Foundation.Run
import Mathlib.Algebra.Group.Int.Defs
import Mathlib.Data.List.Infix
import Actl.Anchor.Contract
import Actl.Audit.Tables

/-!
# The anchor worker

`_anchor_tick` of `worker.py` with the client of `monad_testnet.py` and the outbox
columns of `audit_checkpoints`. An action is one statement on the table, one call of
the node, or an event on the chain; the input of a step is what the environment
decides about it. A node may fail, may not have seen yet that a range was anchored, and may
accept a transaction and still report an error. A transaction it has accepted is
mined at any later time or never.

The node's errors are outside the repository. Of their texts only this is used: an
error is called by the name of another one in no text.
-/

set_option autoImplicit false

namespace Actl.Anchor

open Foundation (Code Program System)
open Audit (parseHexPrefixed)

/-! ## The outbox -/

inductive AnchorStatus where
  | unanchored
  | anchored
  | conflict
  deriving DecidableEq, Repr

structure AuditCheckpointRecord where
  fromSeq : Int
  toSeq : Int
  merkleRoot : String
  anchorTx : Option String := none
  anchorStatus : AnchorStatus := .unanchored
  anchorChainId : Option Int := none
  anchorContractAddress : Option String := none
  anchorAttempts : Nat := 0
  anchorLastError : Option String := none
  anchoredAt : Option Time := none
  deriving DecidableEq

/-- The table in insertion order. The primary key of a row is its position. -/
abbrev CheckpointTable : Type := List AuditCheckpointRecord

/-- `list_unanchored`, with the keys of the rows. -/
def listUnanchored (rows : CheckpointTable) : List (AuditCheckpointRecord × Nat) :=
  (rows.zipIdx.filter fun entry => entry.1.anchorStatus = .unanchored).mergeSort
    fun entry entry' => entry.1.toSeq ≤ entry'.1.toSeq

/-- What a tick is about to write to a row. -/
inductive Mark where
  | anchored (txHash : Option String) (chainId : Int) (contractAddress : String)
      (anchoredAt : Time)
  | conflict (error : String)
  | attemptFailure (error : String)
  deriving DecidableEq

/-- `mark_anchored`, `mark_conflict` and `record_attempt_failure` on the row they have
found. No other session writes these columns. -/
def Mark.apply : Mark → AuditCheckpointRecord → AuditCheckpointRecord
  | .anchored txHash chainId contractAddress anchoredAt, row =>
      { row with
        anchorStatus := .anchored, anchorTx := txHash, anchorChainId := some chainId
        anchorContractAddress := some contractAddress, anchoredAt := some anchoredAt
        anchorLastError := none }
  | .conflict error, row =>
      { row with anchorStatus := .conflict, anchorLastError := some error }
  | .attemptFailure error, row =>
      { row with anchorAttempts := row.anchorAttempts + 1, anchorLastError := some error }

/-- The commit of a tick: its marks, each on the row it was made for. -/
def applyMarks (rows : CheckpointTable) (marks : List (Nat × Mark)) : CheckpointTable :=
  marks.foldl (fun rows mark => rows.modify mark.1 mark.2.apply) rows

/-! ## Failures -/

/-- The exceptions of a tick. `other` is anything the client does not tell apart. -/
inductive Failure where
  | transientAnchorError (message : String)
  | anchorConflictError (message : String)
  | contractCustomError (message : String)
  | circuitOpenError (message : String)
  | retryExhausted (message : String)
  | valueError (message : String)
  | multipleResultsFound
  | dbapiError
  | other (message : String)
  deriving DecidableEq

/-- `str` of an exception. -/
def Failure.text : Failure → String
  | .transientAnchorError message | .anchorConflictError message | .contractCustomError message
  | .circuitOpenError message | .retryExhausted message | .valueError message
  | .other message => message
  | .multipleResultsFound => "Multiple rows were found when one or none was required"
  | .dbapiError => ""

def Failure.isTransientAnchorError : Failure → Bool
  | .transientAnchorError _ => true
  | _ => false

/-- `pattern in text`. -/
def contains (pattern text : String) : Bool := pattern.toList <:+: text.toList

/-- `_get_row`: the key of the one row that ends at `to_seq`. -/
def getRow (toSeq : Int) (rows : CheckpointTable) : Except Failure Nat :=
  match rows.zipIdx.filter fun entry => entry.1.toSeq = toSeq with
  | [] => .error (.valueError ("no checkpoint with to_seq=" ++ toString toSeq))
  | [entry] => .ok entry.2
  | _ => .error .multipleResultsFound

section Rows

variable {rows : CheckpointTable}

theorem mem_listUnanchored {entry : AuditCheckpointRecord × Nat} (listed : entry ∈ listUnanchored rows) :
    rows[entry.2]? = some entry.1 ∧ entry.1.anchorStatus = .unanchored := by
  obtain ⟨present, unanchored⟩ := List.mem_filter.mp (List.mem_mergeSort.mp listed)
  exact ⟨List.mem_zipIdx_iff_getElem?.mp present, of_decide_eq_true unanchored⟩

/-- The row that is found is the only one that ends there. -/
theorem getRow_unique {toSeq : Int} {key key' : Nat} {row : AuditCheckpointRecord}
    (found : getRow toSeq rows = .ok key) (present : rows[key']? = some row)
    (ends : row.toSeq = toSeq) : key = key' := by
  have member : (row, key') ∈ rows.zipIdx.filter fun entry => entry.1.toSeq = toSeq :=
    List.mem_filter.mpr ⟨List.mem_zipIdx_iff_getElem?.mpr present, decide_eq_true ends⟩
  unfold getRow at found
  split at found
  · cases found
  · rename_i entry only
    cases found
    rw [only] at member
    cases List.mem_singleton.mp member
    rfl
  · cases found

end Rows

/-! ## The chain -/

/-- The arguments of a call of `anchor`, with its sender. -/
structure AnchorCall where
  sender : Address
  range : Range
  merkleRoot : Digest
  deriving DecidableEq

/-- A transaction a node has accepted. Once mined it has succeeded or reverted. -/
structure Transaction where
  call : AnchorCall
  hash : String
  status : Option Bool := none
  deriving DecidableEq

/-- The contract, the transactions and the table of checkpoints. -/
structure Anchoring where
  contract : Contract
  transactions : List Transaction
  checkpoints : CheckpointTable

/-- A fresh contract and no checkpoints yet. -/
def Anchoring.fresh (owner : Address) : Anchoring := ⟨.deploy owner, [], []⟩

/-- The contract as a node sees it that has not seen the range anchored. -/
def Contract.stale (c : Contract) (range : Range) : Contract :=
  { c with checkpoints := Function.update c.checkpoints range ⟨zeroRoot, 0⟩ }

/-- How a node treats one request. -/
inductive Rpc where
  | fails (message : String) (tookEffect : Bool)
  | answers (stale : Bool)
  deriving DecidableEq

/-- What the environment decides about one step. -/
structure Input where
  rpc : Rpc
  circuitOpen : Option String
  errorText : Revert → String
  named : ∀ revert, contains "ConflictingRoot" (errorText revert) = true →
    ∃ existing, revert = .conflictingRoot existing
  txHash : String
  timestamp : Nat
  now : Time
  dbError : Bool

/-- The contract's state after a call, which may revert. -/
def Contract.call (c : Contract) (call : AnchorCall) (timestamp : Nat) : Except Revert Contract :=
  c.anchor call.sender timestamp call.range call.merkleRoot

/-- A pending transaction is mined. -/
def Anchoring.mine (w : Anchoring) (tx timestamp : Nat) : Anchoring :=
  match w.transactions[tx]? with
  | some { call, hash, status := none } =>
      match w.contract.call call timestamp with
      | .ok contract =>
          { w with contract, transactions := w.transactions.set tx ⟨call, hash, some true⟩ }
      | .error _ => { w with transactions := w.transactions.set tx ⟨call, hash, some false⟩ }
  | _ => w

/-! ## The client -/

structure MonadAnchor where
  chainId : Int
  contractAddress : String
  auditChainId : Digest
  address : Address

/-- The client, `settings.max_retry_attempts` and Python's `repr` of a string. -/
structure Worker where
  client : MonadAnchor
  maxRetryAttempts : Nat
  repr : String → String

structure Receipt where
  txHash : String
  status : Bool
  deriving DecidableEq

structure AnchorSubmission where
  chainId : Int
  contractAddress : String
  alreadyAnchored : Bool
  txHash : Option String := none
  deriving DecidableEq

/-- A `uint64` argument of a contract call. -/
def uint64? (n : Int) : Option UInt64 :=
  if 0 ≤ n ∧ n < 2 ^ 64 then some (UInt64.ofNat n.toNat) else none

def MonadAnchor.range? (client : MonadAnchor) (startSeq endSeq : Int) : Option Range :=
  match uint64? startSeq, uint64? endSeq with
  | some startSeq, some endSeq => some ⟨client.auditChainId, startSeq, endSeq⟩
  | _, _ => none

inductive Action where
  | listUnanchored
  | enterBreaker
  | getCheckpoint (startSeq endSeq : Int)
  | buildTransaction (startSeq endSeq : Int) (merkleRoot : Digest)
  /-- Sending for the checkpoint with the given key, which is not part of what is
  sent. -/
  | sendRawTransaction (key : Nat) (call : AnchorCall)
  | waitForTransactionReceipt (tx : Nat)
  | clockNow
  | getRow (toSeq : Int)
  | commit (marks : List (Nat × Mark))
  | mine (tx : Nat)
  | anchor (call : AnchorCall)
  | addCheckpoint (fromSeq toSeq : Int) (merkleRoot : String) (anchorTx : Option String)

/-- What an action that does not raise answers. -/
@[reducible] def Value : Action → Type
  | .listUnanchored => List (AuditCheckpointRecord × Nat)
  | .getCheckpoint .. => Checkpoint
  | .buildTransaction .. => AnchorCall
  | .sendRawTransaction .. => Nat
  | .waitForTransactionReceipt _ => Receipt
  | .clockNow => Time
  | .getRow _ => Nat
  | _ => Unit

abbrev Reply (action : Action) : Type := Except Failure (Value action)

/-- Performing an action. -/
def execute (client : MonadAnchor) : (action : Action) → Input → Anchoring →
    Reply action × Anchoring
  | .listUnanchored, input, w =>
      (if input.dbError then .error .dbapiError else .ok (listUnanchored w.checkpoints), w)
  | .enterBreaker, input, w =>
      (match input.circuitOpen with
        | some message => .error (.circuitOpenError message)
        | none => .ok (), w)
  | .getCheckpoint startSeq endSeq, input, w =>
      (match client.range? startSeq endSeq, input.rpc with
        | some range, .answers stale =>
            .ok ((if stale then w.contract.stale range else w.contract).getCheckpoint range)
        | some _, .fails message _ => .error (.other message)
        | none, _ => .error (.other "could not encode the arguments"), w)
  | .buildTransaction startSeq endSeq merkleRoot, input, w =>
      -- The node runs the call on the state it sees to estimate its gas.
      (match client.range? startSeq endSeq, input.rpc with
        | some range, .answers stale =>
            let call : AnchorCall := ⟨client.address, range, merkleRoot⟩
            match (if stale then w.contract.stale range else w.contract).call call input.timestamp with
            | .ok _ => .ok call
            | .error revert => .error (.contractCustomError (input.errorText revert))
        | some _, .fails message _ => .error (.other message)
        | none, _ => .error (.other "could not encode the arguments"), w)
  | .sendRawTransaction _ call, input, w =>
      let sent := { w with transactions := w.transactions ++ [⟨call, input.txHash, none⟩] }
      match input.rpc with
      | .answers _ => (.ok w.transactions.length, sent)
      | .fails message tookEffect => (.error (.other message), if tookEffect then sent else w)
  | .waitForTransactionReceipt tx, input, w =>
      (match input.rpc, w.transactions[tx]? with
        | .answers _, some { hash, status := some status, .. } => .ok ⟨hash, status⟩
        | .answers _, _ => .error (.other "not in the chain in time")
        | .fails message _, _ => .error (.other message), w)
  | .clockNow, input, w => (.ok input.now, w)
  | .getRow toSeq, input, w =>
      (if input.dbError then .error .dbapiError else getRow toSeq w.checkpoints, w)
  | .commit marks, input, w =>
      if input.dbError then (.error .dbapiError, w)
      else (.ok (), { w with checkpoints := applyMarks w.checkpoints marks })
  | .mine tx, input, w => (.ok (), w.mine tx input.timestamp)
  | .anchor call, input, w =>
      match w.contract.call call input.timestamp with
      | .ok contract => (.ok (), { w with contract })
      | .error revert => (.error (.contractCustomError (input.errorText revert)), w)
  | .addCheckpoint fromSeq toSeq merkleRoot anchorTx, input, w =>
      if input.dbError then (.error .dbapiError, w)
      else (.ok (), { w with checkpoints := w.checkpoints ++
        [{ fromSeq, toSeq, merkleRoot, anchorTx }] })

abbrev Prog (α : Type) : Type := Code Action Reply Failure α

/-- Issuing one action. -/
def issue (action : Action) : Prog (Value action) := Code.perform action id

/-- `_anchor_checkpoint_blocking`. -/
def anchorCheckpointBlocking (client : MonadAnchor) (key : Nat) (startSeq endSeq : Int)
    (merkleRoot : Digest) : Prog AnchorSubmission := do
  let existing ← issue (.getCheckpoint startSeq endSeq)
  if existing.merkleRoot ≠ zeroRoot then
    if existing.merkleRoot = merkleRoot then
      return { chainId := client.chainId, contractAddress := client.contractAddress
               alreadyAnchored := true }
    throw (.anchorConflictError
      ("on-chain root disagrees with the local checkpoint for the same range (start_seq="
        ++ toString startSeq ++ ", end_seq=" ++ toString endSeq ++ "): existing=0x"
        ++ hex existing.merkleRoot.val ++ " local=0x" ++ hex merkleRoot.val))
  let receipt ← tryCatch (do
      let call ← issue (.buildTransaction startSeq endSeq merkleRoot)
      let tx ← issue (.sendRawTransaction key call)
      issue (.waitForTransactionReceipt tx)) fun failure =>
    match failure with
    | .contractCustomError message =>
        if contains "ConflictingRoot" message then
          throw (.anchorConflictError ("on-chain conflict on submission: " ++ message))
        else throw failure
    | _ => throw failure
  if receipt.status = false then
    throw (.transientAnchorError ("anchor transaction reverted: 0x" ++ receipt.txHash))
  return { chainId := client.chainId, contractAddress := client.contractAddress
           alreadyAnchored := false, txHash := some ("0x" ++ receipt.txHash) }

/-- `anchor_checkpoint`. -/
def anchorCheckpoint (client : MonadAnchor) (key : Nat) (startSeq endSeq : Int)
    (merkleRootHex : String) : Prog AnchorSubmission :=
  match parseHexPrefixed merkleRootHex with
  | .error _ => throw (.valueError "expected a 32-byte sha256 digest")
  | .ok merkleRoot =>
      tryCatch (anchorCheckpointBlocking client key startSeq endSeq merkleRoot) fun failure =>
        match failure with
        | .anchorConflictError message => throw (.anchorConflictError message)
        | _ => throw (.transientAnchorError ("monad anchor submission failed: " ++ failure.text))

/-! ## The worker -/

/-- `repr` of the exception a retry has given up on. -/
def Worker.exhausted (worker : Worker) (failure : Failure) : String :=
  "retry exhausted after " ++ toString worker.maxRetryAttempts
    ++ " attempt(s): TransientAnchorError(" ++ worker.repr failure.text ++ ")"

/-- The attempts that are left of `retry_with_full_jitter`. -/
def Worker.retry {α : Type} (worker : Worker) (body : Prog α) : Nat → Prog α
  | 0 => throw (.valueError "max_attempts must be >= 1")
  | remaining + 1 => tryCatch body fun failure =>
      if failure.isTransientAnchorError then
        match remaining with
        | 0 => throw (.retryExhausted (worker.exhausted failure))
        | _ + 1 => worker.retry body remaining
      else throw failure

/-- `_anchor_checkpoint_with_retry`. -/
def anchorCheckpointWithRetry (worker : Worker) (key : Nat) (checkpoint : AuditCheckpointRecord) :
    Prog AnchorSubmission :=
  worker.retry (do
    issue .enterBreaker
    anchorCheckpoint worker.client key checkpoint.fromSeq checkpoint.toSeq checkpoint.merkleRoot)
    worker.maxRetryAttempts

/-- One checkpoint of a tick: the row that is marked and the mark. Any other exception
ends the tick. -/
def anchorPending (worker : Worker) (entry : AuditCheckpointRecord × Nat) :
    Prog (Nat × Mark) := do
  match ← (anchorCheckpointWithRetry worker entry.2 entry.1).outcome with
  | .ok submission =>
      let now ← issue .clockNow
      let row ← issue (.getRow entry.1.toSeq)
      return (row, .anchored submission.txHash submission.chainId submission.contractAddress now)
  | .error (.anchorConflictError message) =>
      let row ← issue (.getRow entry.1.toSeq)
      return (row, .conflict message)
  | .error (.retryExhausted message) | .error (.circuitOpenError message) =>
      let row ← issue (.getRow entry.1.toSeq)
      return (row, .attemptFailure message)
  | .error failure => throw failure

/-- The loop of a tick. -/
def anchorAll (worker : Worker) : List (AuditCheckpointRecord × Nat) → Prog (List (Nat × Mark))
  | [] => return []
  | entry :: pending => do
      let mark ← anchorPending worker entry
      let marks ← anchorAll worker pending
      return mark :: marks

/-- `_anchor_tick`: how many checkpoints it has anchored. -/
def anchorTick (worker : Worker) : Prog Nat := do
  let pending ← issue .listUnanchored
  let marks ← anchorAll worker pending
  issue (.commit marks)
  return (marks.filter fun mark => mark.2 matches .anchored ..).length

/-! ## The system -/

inductive Call where
  | anchorTick
  | mine (tx : Nat)
  | anchor (call : AnchorCall)
  | addCheckpoint (fromSeq toSeq : Int) (merkleRoot : String) (anchorTx : Option String)

def Call.code (worker : Worker) : Call → Prog Nat
  | .anchorTick => Anchor.anchorTick worker
  | .mine tx => do
      issue (.mine tx)
      return 0
  | .anchor call => do
      issue (.anchor call)
      return 0
  | .addCheckpoint fromSeq toSeq merkleRoot anchorTx => do
      issue (.addCheckpoint fromSeq toSeq merkleRoot anchorTx)
      return 0

/-- The worker's ticks, the mining of its transactions, anybody's calls of the
contract and the checkpoints of the audit log. -/
def anchoring (worker : Worker) : System where
  Action := Action
  Reply := Reply
  Input := Input
  State := Anchoring
  Call := Call
  Result := Except Failure Nat
  execute := execute worker.client
  code := Call.code worker

end Actl.Anchor
