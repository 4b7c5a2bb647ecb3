import Actl.Anchor.Worker

/-!
# What a tick does

The discipline of the calls, read off their programs once (`code_obeys`). A tick sends
only for the checkpoints it has listed. Its commit is its last action, and each mark of
the commit is for the row of a listed checkpoint and rests on what the tick has seen of
the chain.
-/

set_option autoImplicit false

namespace Actl.Anchor

open Foundation (Step Code System)
open Foundation.Code (ObeysCode obeys_pure obeys_throw obeys_perform obeys_bind obeys_tryCatch
  obeys_outcome obeys_mono ConfinedCode confined_pure confined_throw confined_perform confined_bind
  confined_tryCatch confined_outcome)
open Audit (parseHexPrefixed)

/-- What a call has done, the latest step first. -/
abbrev Past : Type := List (Step Action Input Anchoring)

section Steps

variable (client : MonadAnchor)

/-- The step performed the action, which answered with the value. -/
def Answered (s : Step Action Input Anchoring) (action : Action) (value : Value action) : Prop :=
  s.action = action ∧ (execute client action s.input s.before).1 = .ok value

/-- The step performed the action, which raised. -/
def Raised (s : Step Action Input Anchoring) (action : Action) (failure : Failure) : Prop :=
  s.action = action ∧ (execute client action s.input s.before).1 = .error failure

def Did (past : Past) (action : Action) (value : Value action) : Prop :=
  ∃ s ∈ past, Answered client s action value

/-- The checkpoint was listed, with its key. -/
def Listed (past : Past) (entry : AuditCheckpointRecord × Nat) : Prop :=
  ∃ pending, Did client past .listUnanchored pending ∧ entry ∈ pending

/-- The row with the key was found for a checkpoint that had been listed. -/
def Chosen (past : Past) (entry : AuditCheckpointRecord × Nat) (key : Nat) : Prop :=
  ∃ s earlier, (s :: earlier) <:+ past ∧ Answered client s (.getRow entry.1.toSeq) key ∧
    Listed client earlier entry

/-- The range and the root of a checkpoint, as they are sent. -/
def About (checkpoint : AuditCheckpointRecord) (range : Range) (root : Digest) : Prop :=
  client.range? checkpoint.fromSeq checkpoint.toSeq = some range ∧
    parseHexPrefixed checkpoint.merkleRoot = .ok root

/-- In a state the call has passed through the range had the root. -/
def Met (past : Past) (range : Range) (root : Digest) : Prop :=
  ∃ s ∈ past, s.before.contract.root? range = some root

/-- A transaction with the root has been sent, and its receipt is a success. -/
def Confirmed (past : Past) (range : Range) (root : Digest) : Prop :=
  ∃ key sender tx hash, Did client past (.sendRawTransaction key ⟨sender, range, root⟩) tx ∧
    Did client past (.waitForTransactionReceipt tx) ⟨hash, true⟩

/-- The checkpoint's root is known to be on the chain. -/
def OnChain (past : Past) (checkpoint : AuditCheckpointRecord) : Prop :=
  ∃ range root, About client checkpoint range root ∧
    (Met past range root ∨ Confirmed client past range root)

/-- Another root is known to be on the chain for the checkpoint's range. -/
def Conflicts (past : Past) (checkpoint : AuditCheckpointRecord) : Prop :=
  ∃ range root existing, About client checkpoint range root ∧ existing ≠ root ∧
    Met past range existing

/-- What the call knows of the chain when it makes a mark. -/
def Found (past : Past) (checkpoint : AuditCheckpointRecord) : Mark → Prop
  | .anchored .. => OnChain client past checkpoint
  | .conflict _ => Conflicts client past checkpoint
  | .attemptFailure _ => True

/-- The call has not committed yet. -/
def Unfinished (past : Past) : Prop := ∀ s ∈ past, ∀ marks, s.action ≠ .commit marks

/-- What an action rests on. -/
def Grounds (call : Call) (past : Past) : Action → Prop
  | .listUnanchored => call = .anchorTick
  | .sendRawTransaction key sent => ∃ checkpoint, Listed client past (checkpoint, key) ∧
      About client checkpoint sent.range sent.merkleRoot
  | .commit marks => call = .anchorTick ∧ ∀ mark ∈ marks, ∃ entry,
      Chosen client past entry mark.1 ∧ Found client past entry.1 mark.2
  | _ => True

/-- What a call may issue, given what it has done. -/
def May (call : Call) (past : Past) (action : Action) : Prop :=
  Unfinished past ∧ Grounds client call past action

variable {client} {past later : Past}

theorem Did.mono {action : Action} {value : Value action} (did : Did client past action value)
    (longer : past <:+ later) : Did client later action value := by
  obtain ⟨s, member, answered⟩ := did
  exact ⟨s, longer.subset member, answered⟩

theorem Listed.mono {entry : AuditCheckpointRecord × Nat} (listed : Listed client past entry)
    (longer : past <:+ later) : Listed client later entry := by
  obtain ⟨pending, did, member⟩ := listed
  exact ⟨pending, did.mono longer, member⟩

theorem Chosen.mono {entry : AuditCheckpointRecord × Nat} {key : Nat}
    (chosen : Chosen client past entry key) (longer : past <:+ later) :
    Chosen client later entry key := by
  obtain ⟨s, earlier, inside, rest⟩ := chosen
  exact ⟨s, earlier, inside.trans longer, rest⟩

theorem Met.mono {range : Range} {root : Digest} (met : Met past range root)
    (longer : past <:+ later) : Met later range root := by
  obtain ⟨s, member, found⟩ := met
  exact ⟨s, longer.subset member, found⟩

theorem OnChain.mono {checkpoint : AuditCheckpointRecord}
    (known : OnChain client past checkpoint) (longer : past <:+ later) :
    OnChain client later checkpoint := by
  obtain ⟨range, root, about, met | ⟨key, sender, tx, hash, sent, mined⟩⟩ := known
  · exact ⟨range, root, about, .inl (met.mono longer)⟩
  · exact ⟨range, root, about, .inr ⟨key, sender, tx, hash, sent.mono longer, mined.mono longer⟩⟩

theorem Conflicts.mono {checkpoint : AuditCheckpointRecord}
    (known : Conflicts client past checkpoint) (longer : past <:+ later) :
    Conflicts client later checkpoint := by
  obtain ⟨range, root, existing, about, other, met⟩ := known
  exact ⟨range, root, existing, about, other, met.mono longer⟩

theorem Found.mono {checkpoint : AuditCheckpointRecord} {mark : Mark}
    (found : Found client past checkpoint mark) (longer : past <:+ later) :
    Found client later checkpoint mark := by
  cases mark with
  | anchored txHash chainId contractAddress anchoredAt => exact OnChain.mono found longer
  | conflict error => exact Conflicts.mono found longer
  | attemptFailure error => trivial

end Steps

/-! ## What the node shows -/

section Node

variable {client : MonadAnchor} {s : Step Action Input Anchoring} {startSeq endSeq : Int}

theorem checkpoints_stale (c : Contract) (range : Range) :
    (c.stale range).checkpoints range = ⟨zeroRoot, 0⟩ := Function.update_self ..

/-- A node that has not seen a range anchored shows it without a root. -/
theorem root?_stale (c : Contract) (range : Range) : (c.stale range).root? range = none := by
  rw [Contract.root?, checkpoints_stale, if_pos rfl]

/-- What a read sees, if it sees a root. -/
theorem getCheckpoint_met {checkpoint : Checkpoint}
    (answered : Answered client s (.getCheckpoint startSeq endSeq) checkpoint)
    (set : checkpoint.merkleRoot ≠ zeroRoot) :
    ∃ range, client.range? startSeq endSeq = some range ∧
      s.before.contract.root? range = some checkpoint.merkleRoot := by
  obtain ⟨-, result⟩ := answered
  simp only [execute] at result
  split at result
  · rename_i range stale encoded _
    cases result
    refine ⟨range, encoded, ?_⟩
    cases stale with
    | true => exact absurd (congrArg Checkpoint.merkleRoot (checkpoints_stale ..)) set
    | false => exact Contract.root?_eq_some.mpr ⟨rfl, set⟩
  · cases result
  · cases result

/-- A transaction that could be built is the worker's call for the range. -/
theorem buildTransaction_call {root : Digest} {sent : AnchorCall}
    (answered : Answered client s (.buildTransaction startSeq endSeq root) sent) :
    client.range? startSeq endSeq = some sent.range ∧ sent.merkleRoot = root := by
  obtain ⟨-, result⟩ := answered
  simp only [execute] at result
  split at result
  · rename_i range stale encoded _
    split at result
    · cases result
      exact ⟨encoded, rfl⟩
    · cases result
  · cases result
  · cases result

/-- A submission that the contract turns down for a conflict has met another root. -/
theorem buildTransaction_met {root : Digest} {message : String}
    (raised : Raised client s (.buildTransaction startSeq endSeq root) (.contractCustomError message))
    (named : contains "ConflictingRoot" message = true) :
    ∃ range existing, client.range? startSeq endSeq = some range ∧ existing ≠ root ∧
      s.before.contract.root? range = some existing := by
  obtain ⟨-, result⟩ := raised
  simp only [execute] at result
  split at result
  · rename_i range stale encoded _
    split at result
    · cases result
    · rename_i revert turned
      cases result
      obtain ⟨existing, rfl⟩ := s.input.named revert named
      obtain ⟨found, other⟩ := Contract.anchor_conflict turned
      refine ⟨range, existing, encoded, other, ?_⟩
      split at found
      · cases (root?_stale ..).symm.trans found
      · exact found
  · cases result
  · cases result

end Node

/-! ## The programs -/

section Programs

variable {client : MonadAnchor} {call : Call} {history : Past}
variable {entry : AuditCheckpointRecord × Nat}

theorem obeys_issue {may : Past → Action → Prop} {action : Action}
    {returns : Value action → Past → Prop} {raises : Failure → Past → Prop}
    (permitted : may history action)
    (answers : ∀ s : Step Action Input Anchoring, ∀ value, Answered client s action value →
      returns value (s :: history))
    (fails : ∀ s : Step Action Input Anchoring, ∀ failure, Raised client s action failure →
      raises failure (s :: history)) :
    ObeysCode (execute client) may returns raises history (issue action) := by
  refine obeys_perform permitted fun input before => ?_
  cases result : (execute client action input before).1 with
  | ok value => exact answers ⟨action, input, before⟩ value ⟨rfl, result⟩
  | error failure => exact fails ⟨action, input, before⟩ failure ⟨rfl, result⟩

/-- No action raises a conflict: the client does, from what it has read. -/
theorem raised_plain {s : Step Action Input Anchoring} {action : Action} {failure : Failure}
    (raised : Raised client s action failure) (message : String) :
    failure ≠ .anchorConflictError message := by
  rintro rfl
  obtain ⟨-, result⟩ := raised
  cases action <;> simp only [execute, getRow] at result <;> grind

/-- Sending and waiting do not run the contract. -/
theorem raised_sending {s : Step Action Input Anchoring} {action : Action} {failure : Failure}
    (raised : Raised client s action failure)
    (sending : (∃ key sent, action = .sendRawTransaction key sent) ∨
      ∃ tx, action = .waitForTransactionReceipt tx) (message : String) :
    failure ≠ .contractCustomError message := by
  rintro rfl
  obtain ⟨-, result⟩ := raised
  rcases sending with ⟨key, sent, rfl⟩ | ⟨tx, rfl⟩ <;> simp only [execute] at result <;> grind

/-- How a submission raises: a conflict is one on the chain. -/
def ConflictOnly (client : MonadAnchor) (checkpoint : AuditCheckpointRecord) (failure : Failure)
    (past : Past) : Prop :=
  ∀ message, failure = .anchorConflictError message → Conflicts client past checkpoint

/-- How the three calls of a submission raise: a conflict that the contract names is one on
the chain. -/
def NamedConflict (client : MonadAnchor) (checkpoint : AuditCheckpointRecord)
    (failure : Failure) (past : Past) : Prop :=
  ConflictOnly client checkpoint failure past ∧ ∀ message,
    failure = .contractCustomError message → contains "ConflictingRoot" message = true →
      Conflicts client past checkpoint

theorem submit_obeys {root : Digest} (listed : Listed client history entry)
    (parsed : parseHexPrefixed entry.1.merkleRoot = .ok root) :
    ObeysCode (execute client) (Grounds client call)
      (fun receipt past => receipt.status = true → OnChain client past entry.1)
      (NamedConflict client entry.1) history
      (do
        let sent ← issue (.buildTransaction entry.1.fromSeq entry.1.toSeq root)
        let tx ← issue (.sendRawTransaction entry.2 sent)
        issue (.waitForTransactionReceipt tx)) := by
  refine obeys_bind (fun sent _ => client.range? entry.1.fromSeq entry.1.toSeq = some sent.range ∧
      sent.merkleRoot = root) (obeys_issue trivial (fun s sent answered => ?_)
      fun s failure raised => ⟨?_, ?_⟩) fun sent past longer built => ?_
  · exact buildTransaction_call answered
  · exact fun message conflict => absurd conflict (raised_plain raised message)
  · rintro message rfl named
    obtain ⟨range, existing, encoded, other, met⟩ := buildTransaction_met raised named
    exact ⟨range, root, existing, ⟨encoded, parsed⟩, other, s, List.mem_cons_self, met⟩
  have about : About client entry.1 sent.range sent.merkleRoot := ⟨built.1, built.2 ▸ parsed⟩
  refine obeys_bind (fun tx past => Did client past (.sendRawTransaction entry.2 sent) tx)
    (obeys_issue ⟨entry.1, listed.mono longer, about⟩
      (fun s tx answered => ⟨s, List.mem_cons_self, answered⟩)
      fun s failure raised => ⟨?_, ?_⟩) fun tx past longer did => ?_
  · exact fun message conflict => absurd conflict (raised_plain raised message)
  · exact fun message custom => absurd custom (raised_sending raised (.inl ⟨_, _, rfl⟩) message)
  refine obeys_issue trivial (fun s receipt answered success => ?_) fun s failure raised => ⟨?_, ?_⟩
  · obtain ⟨hash, status⟩ := receipt
    cases success
    exact ⟨sent.range, sent.merkleRoot, about, .inr ⟨entry.2, sent.sender, tx, hash,
      did.mono (List.suffix_cons _ _), s, List.mem_cons_self, answered⟩⟩
  · exact fun message conflict => absurd conflict (raised_plain raised message)
  · exact fun message custom => absurd custom (raised_sending raised (.inr ⟨_, rfl⟩) message)

theorem blocking_obeys {root : Digest} (listed : Listed client history entry)
    (parsed : parseHexPrefixed entry.1.merkleRoot = .ok root) :
    ObeysCode (execute client) (Grounds client call)
      (fun _ past => OnChain client past entry.1) (ConflictOnly client entry.1)
      history (anchorCheckpointBlocking client entry.2 entry.1.fromSeq entry.1.toSeq root) := by
  unfold anchorCheckpointBlocking
  refine obeys_bind (fun existing past => existing.merkleRoot ≠ zeroRoot → ∃ range,
    client.range? entry.1.fromSeq entry.1.toSeq = some range ∧ Met past range existing.merkleRoot)
    (obeys_issue trivial (fun s existing answered set => ?_)
      fun s failure raised message conflict => absurd conflict (raised_plain raised message))
    fun existing past longer met => ?_
  · obtain ⟨range, encoded, found⟩ := getCheckpoint_met answered set
    exact ⟨range, encoded, s, List.mem_cons_self, found⟩
  split
  · rename_i set
    obtain ⟨range, encoded, seen⟩ := met set
    split
    · rename_i same
      exact obeys_pure ⟨range, root, ⟨encoded, parsed⟩, .inl (same ▸ seen)⟩
    · rename_i other
      exact obeys_throw fun message _ =>
        ⟨range, root, existing.merkleRoot, ⟨encoded, parsed⟩, other, seen⟩
  · refine obeys_bind (fun receipt past => receipt.status = true → OnChain client past entry.1)
      (obeys_tryCatch _ (submit_obeys (listed.mono longer) parsed)
        fun failure past _ raised => ?_) fun receipt past _ mined => ?_
    · split
      · rename_i message
        split
        · rename_i named
          exact obeys_throw fun _ _ => raised.2 message rfl named
        · exact obeys_throw nofun
      · exact obeys_throw raised.1
    · split
      · exact obeys_throw nofun
      · rename_i success
        exact obeys_pure (mined (Bool.not_eq_false _ ▸ success))

/-- Whatever else a submission may raise is a transient error. -/
theorem anchorCheckpoint_obeys (listed : Listed client history entry) :
    ObeysCode (execute client) (Grounds client call)
      (fun _ past => OnChain client past entry.1) (ConflictOnly client entry.1)
      history (anchorCheckpoint client entry.2 entry.1.fromSeq entry.1.toSeq entry.1.merkleRoot) := by
  unfold anchorCheckpoint
  split
  · exact obeys_throw nofun
  · rename_i root parsed
    refine obeys_tryCatch _ (blocking_obeys listed parsed) fun failure past _ raised => ?_
    split
    · rename_i message
      exact obeys_throw fun _ _ => raised message rfl
    · exact obeys_throw nofun

/-- Retrying: what every attempt obeys, the retries obey. -/
theorem obeys_retry {α : Type} {worker : Worker} {may : Past → Action → Prop}
    {returns : α → Past → Prop} {raises : Failure → Past → Prop} {body : Prog α}
    (attempt : ∀ past, history <:+ past →
      ObeysCode (execute client) may returns raises past body)
    (unused : ∀ message past, raises (.valueError message) past)
    (exhausted : ∀ message past, raises (.retryExhausted message) past) (remaining : Nat) :
    ObeysCode (execute client) may returns raises history (worker.retry body remaining) := by
  induction remaining generalizing history with
  | zero => exact obeys_throw (unused _ _)
  | succ remaining ih =>
      refine obeys_tryCatch _ (attempt history (List.suffix_refl _))
        fun failure past longer raised => ?_
      split
      · split
        · exact obeys_throw (exhausted _ _)
        · exact ih fun later further => attempt later (longer.trans further)
      · exact obeys_throw raised

theorem anchorCheckpointWithRetry_obeys {worker : Worker}
    (listed : Listed worker.client history entry) :
    ObeysCode (execute worker.client) (Grounds worker.client call)
      (fun _ past => OnChain worker.client past entry.1) (ConflictOnly worker.client entry.1)
      history (anchorCheckpointWithRetry worker entry.2 entry.1) := by
  refine obeys_retry (fun past longer => ?_) (fun _ _ => nofun) (fun _ _ => nofun) _
  refine obeys_bind (fun _ past => Listed worker.client past entry)
    (obeys_issue trivial (fun s _ _ => (listed.mono longer).mono (List.suffix_cons _ _))
      fun s failure raised message conflict => absurd conflict (raised_plain raised message))
    fun _ past _ listed => anchorCheckpoint_obeys listed

/-- The row of a listed checkpoint. -/
theorem getRow_obeys (listed : Listed client history entry) :
    ObeysCode (execute client) (Grounds client call)
      (fun key past => Chosen client past entry key) (fun _ _ => True) history
      (issue (.getRow entry.1.toSeq)) :=
  obeys_issue trivial
    (fun s _ answered => ⟨s, history, List.suffix_refl _, answered, listed⟩) fun _ _ _ => trivial

/-- A mark is for a listed checkpoint and rests on what was seen. -/
def Marks (client : MonadAnchor) (past : Past) (mark : Nat × Mark) : Prop :=
  ∃ entry, Chosen client past entry mark.1 ∧ Found client past entry.1 mark.2

theorem Marks.mono {past later : Past} {mark : Nat × Mark} (marks : Marks client past mark)
    (longer : past <:+ later) : Marks client later mark := by
  obtain ⟨entry, chosen, found⟩ := marks
  exact ⟨entry, chosen.mono longer, found.mono longer⟩

theorem anchorPending_obeys {worker : Worker} (listed : Listed worker.client history entry) :
    ObeysCode (execute worker.client) (Grounds worker.client call)
      (fun mark past => Marks worker.client past mark) (fun _ _ => True)
      history (anchorPending worker entry) := by
  have marked : ∀ {past : Past} (mark : Mark), history <:+ past → Found worker.client past entry.1 mark →
      ObeysCode (execute worker.client) (Grounds worker.client call)
        (fun mark past => Marks worker.client past mark) (fun _ _ => True) past
        (do
          let row ← issue (.getRow entry.1.toSeq)
          return (row, mark)) := by
    intro past mark longer found
    refine obeys_bind _ (getRow_obeys (listed.mono longer)) fun row later further chosen => ?_
    exact obeys_pure ⟨entry, chosen, found.mono further⟩
  refine obeys_bind (fun outcome past => match outcome with
    | .ok _ => OnChain worker.client past entry.1
    | .error failure => ConflictOnly worker.client entry.1 failure past)
    (obeys_outcome (anchorCheckpointWithRetry_obeys listed))
    fun outcome past longer known => ?_
  split
  · refine obeys_bind (fun _ later => OnChain worker.client later entry.1)
      (obeys_issue trivial (fun s _ _ => OnChain.mono known (List.suffix_cons _ _))
        fun _ _ _ => trivial) fun now later further known => ?_
    exact marked (.anchored _ _ _ now) (longer.trans further) known
  · rename_i message
    exact marked (.conflict message) longer (known message rfl)
  · exact marked (.attemptFailure _) longer trivial
  · exact marked (.attemptFailure _) longer trivial
  · exact obeys_throw trivial

theorem anchorAll_grounds {worker : Worker} {pending : List (AuditCheckpointRecord × Nat)}
    (listed : ∀ entry ∈ pending, Listed worker.client history entry) :
    ObeysCode (execute worker.client) (Grounds worker.client call)
      (fun marks past => ∀ mark ∈ marks, Marks worker.client past mark) (fun _ _ => True)
      history (anchorAll worker pending) := by
  induction pending generalizing history with
  | nil => exact obeys_pure nofun
  | cons entry pending ih =>
      refine obeys_bind _ (anchorPending_obeys (listed entry List.mem_cons_self))
        fun mark past longer made => ?_
      refine obeys_bind _
        (ih fun other member => (listed other (List.mem_cons_of_mem _ member)).mono longer)
        fun marks later further rest => ?_
      exact obeys_pure (List.forall_mem_cons.mpr ⟨made.mono further, rest⟩)

/-! ### The commit is last -/

/-- An action that is not the commit of a tick. -/
def Uncommitted (action : Action) : Prop := ∀ marks, action ≠ .commit marks

theorem Unfinished.cons {s : Step Action Input Anchoring} {past : Past}
    (unfinished : Unfinished past) (fine : Uncommitted s.action) : Unfinished (s :: past) :=
  List.forall_mem_cons.mpr ⟨fine, unfinished⟩

theorem confined_issue {action : Action} (fine : Uncommitted action) :
    ConfinedCode Uncommitted (issue action) := confined_perform fine _

theorem blocking_uncommitted {key : Nat} {startSeq endSeq : Int} {root : Digest} :
    ConfinedCode Uncommitted (anchorCheckpointBlocking client key startSeq endSeq root) := by
  refine confined_bind (confined_issue nofun) fun existing => ?_
  split
  · split
    · exact confined_pure _
    · exact confined_throw _
  · refine confined_bind (confined_tryCatch ?_ fun failure => ?_) fun receipt => ?_
    · exact confined_bind (confined_issue nofun) fun sent =>
        confined_bind (confined_issue nofun) fun tx => confined_issue nofun
    · split
      · split
        · exact confined_throw _
        · exact confined_throw _
      · exact confined_throw _
    · split
      · exact confined_throw _
      · exact confined_pure _

theorem anchorCheckpoint_uncommitted {key : Nat} {startSeq endSeq : Int} {root : String} :
    ConfinedCode Uncommitted (anchorCheckpoint client key startSeq endSeq root) := by
  unfold anchorCheckpoint
  split
  · exact confined_throw _
  · refine confined_tryCatch blocking_uncommitted fun failure => ?_
    split
    · exact confined_throw _
    · exact confined_throw _

theorem retry_uncommitted {α : Type} {worker : Worker} {body : Prog α}
    (confined : ConfinedCode Uncommitted body) (remaining : Nat) :
    ConfinedCode Uncommitted (worker.retry body remaining) := by
  induction remaining with
  | zero => exact confined_throw _
  | succ remaining ih =>
      refine confined_tryCatch confined fun failure => ?_
      split
      · split
        · exact confined_throw _
        · exact ih
      · exact confined_throw _

theorem anchorPending_uncommitted {worker : Worker} :
    ConfinedCode Uncommitted (anchorPending worker entry) := by
  have marked : ∀ mark : Mark, ConfinedCode Uncommitted (do
      let row ← issue (.getRow entry.1.toSeq)
      return (row, mark)) := fun mark =>
    confined_bind (confined_issue nofun) fun row => confined_pure _
  have attempt : ConfinedCode Uncommitted (do
      issue .enterBreaker
      anchorCheckpoint worker.client entry.2 entry.1.fromSeq entry.1.toSeq entry.1.merkleRoot) :=
    confined_bind (confined_issue nofun) fun _ => anchorCheckpoint_uncommitted
  refine confined_bind (confined_outcome (retry_uncommitted attempt _)) fun outcome => ?_
  split
  · exact confined_bind (confined_issue nofun) fun now => marked _
  · exact marked _
  · exact marked _
  · exact marked _
  · exact confined_throw _

theorem anchorAll_uncommitted {worker : Worker} (pending : List (AuditCheckpointRecord × Nat)) :
    ConfinedCode Uncommitted (anchorAll worker pending) := by
  induction pending with
  | nil => exact confined_pure _
  | cons entry pending ih =>
      exact confined_bind anchorPending_uncommitted fun mark =>
        confined_bind ih fun marks => confined_pure _

/-! ### The calls -/

/-- From a call that has not committed yet, code that does not commit obeys the whole
discipline. -/
theorem obeys_uncommitted {α : Type} {body : Prog α} {returns : α → Past → Prop}
    {raises : Failure → Past → Prop} (unfinished : Unfinished history)
    (confined : ConfinedCode Uncommitted body)
    (obeys : ObeysCode (execute client) (Grounds client call) returns raises history body) :
    ObeysCode (execute client) (May client call)
      (fun value past => Unfinished past ∧ returns value past) raises history body := by
  have both := confined.keeping Unfinished (fun _ _ fine unfinished => unfinished.cons fine) obeys
    unfinished
  refine Foundation.Obeys.mono both fun outcome past ended => ?_
  cases outcome with
  | ok value => exact ended
  | error failure => exact ended.2

theorem unfinished_nil : Unfinished [] := fun _ member => nomatch member

theorem anchorTick_obeys (worker : Worker) :
    ObeysCode (execute worker.client) (May worker.client .anchorTick) (fun _ _ => True)
      (fun _ _ => True) [] (anchorTick worker) := by
  have listing : ObeysCode (execute worker.client) (Grounds worker.client .anchorTick)
      (fun pending past => ∀ entry ∈ pending, Listed worker.client past entry) (fun _ _ => True) []
      (issue .listUnanchored) :=
    obeys_issue rfl (fun s pending answered entry member =>
      ⟨pending, ⟨s, List.mem_cons_self, answered⟩, member⟩) fun _ _ _ => trivial
  refine obeys_bind _ (obeys_uncommitted unfinished_nil (confined_issue nofun) listing)
    fun pending past _ holds => ?_
  refine obeys_bind _ (obeys_uncommitted holds.1 (anchorAll_uncommitted pending)
    (anchorAll_grounds holds.2)) fun marks past _ made => ?_
  exact obeys_bind (fun _ _ => True)
    (obeys_issue ⟨made.1, rfl, made.2⟩ (fun _ _ _ => trivial) fun _ _ _ => trivial)
    fun _ _ _ _ => obeys_pure trivial

/-- Every call issues only what `May` permits. -/
theorem code_obeys (worker : Worker) (call : Call) :
    Foundation.Obeys (execute worker.client) (May worker.client call) (fun _ _ => True) []
      (call.code worker) := by
  cases call with
  | anchorTick => exact (anchorTick_obeys worker).mono fun _ _ _ => trivial
  | mine tx => exact ⟨⟨unfinished_nil, trivial⟩, fun _ _ => trivial⟩
  | anchor sent =>
      refine ⟨⟨unfinished_nil, trivial⟩, fun input before => ?_⟩
      simp only [execute]
      split <;> trivial
  | addCheckpoint fromSeq toSeq merkleRoot anchorTx =>
      refine ⟨⟨unfinished_nil, trivial⟩, fun input before => ?_⟩
      simp only [execute]
      split <;> trivial

end Programs

end Actl.Anchor
