import Actl.Anchor.Agreement
import Actl.Foundation.Sequential
import Actl.Foundation.Table
import Actl.Platform.Breaker

/-!
# A tick behind its circuit breaker

`_anchor_tick` on a database that works, with the breaker that all submissions of the
worker go through. What the node makes of an attempt and when the clock is read are given;
what `anchor_checkpoint` makes of it is `submit`.

A checkpoint's own submission is what its attempts come to without a breaker. The tick
gives every checkpoint its own outcome exactly if no attempt that counts is blocked, no
malformed root is looked at, and no row is ambiguous (`tick_isolates_iff`): the breaker is
shared, and an exception that no handler names ends the tick before it commits.
-/

set_option autoImplicit false

namespace Actl.Anchor

open Audit (parseHexPrefixed)
open Breaker (Circuit CircuitBreaker History Outcome)
open Breaker.CircuitBreaker (LetsIn executed)
open Foundation (Code filter_eq_singleton)
open Foundation.Code (concludes_perform concludes_throw concludes_tryCatch concludes_outcome
  concludes_bind_cases concludes_pure)
open Foundation.Program (Concludes)

/-! ## Attempts -/

/-- An attempt to submit a checkpoint: the clock's reading when the breaker is asked, what
`_anchor_checkpoint_sync` returns or raises, and the reading when the breaker is told. -/
structure Attempt where
  startedAt : Time
  answer : Except Failure AnchorSubmission
  finishedAt : Time

/-- What the environment decides about a tick: the attempts for each row, and the reading
when the row is marked. -/
structure TickInput where
  attempts : Nat → Nat → Attempt
  now : Nat → Time

/-- `anchor_checkpoint`. -/
def submit (merkleRootHex : String) (answer : Except Failure AnchorSubmission) :
    Except Failure AnchorSubmission :=
  match parseHexPrefixed merkleRootHex with
  | .error _ => .error (.valueError "expected a 32-byte sha256 digest")
  | .ok _ =>
      match answer with
      | .ok submission => .ok submission
      | .error (.anchorConflictError message) => .error (.anchorConflictError message)
      | .error failure =>
          .error (.transientAnchorError ("monad anchor submission failed: " ++ failure.text))

/-- The program of the client ends as `submit` says. -/
theorem anchorCheckpoint_concludes {client : MonadAnchor} {allowed : Input → Prop} {key : Nat}
    {startSeq endSeq : Int} {merkleRootHex : String} {merkleRoot : Digest} {w w' : Anchoring}
    {result : Except Failure AnchorSubmission}
    (parsed : parseHexPrefixed merkleRootHex = .ok merkleRoot) :
    Concludes (execute client) allowed
        (anchorCheckpoint client key startSeq endSeq merkleRootHex) w result w' ↔
      ∃ answer, Concludes (execute client) allowed
          (anchorCheckpointBlocking client key startSeq endSeq merkleRoot) w answer w' ∧
        result = submit merkleRootHex answer := by
  unfold anchorCheckpoint submit
  rw [parsed]
  dsimp only
  rw [concludes_tryCatch]
  constructor
  · rintro (⟨submission, ended, rfl⟩ | ⟨failure, middle, ended, handled⟩)
    · exact ⟨.ok submission, ended, rfl⟩
    · refine ⟨.error failure, ?_, ?_⟩
      all_goals
        cases failure
        all_goals
          obtain ⟨rfl, rfl⟩ := concludes_throw.mp handled
          first | exact ended | rfl
  · rintro ⟨answer, ended, rfl⟩
    cases answer with
    | ok submission => exact .inl ⟨submission, ended, rfl⟩
    | error failure =>
        refine .inr ⟨failure, w', ended, ?_⟩
        cases failure <;> exact ⟨rfl, rfl⟩

/-- How the breaker is told about it. -/
def outcomeOf : Except Failure AnchorSubmission → Outcome
  | .ok _ => .success
  | .error _ => .failure

/-- An attempt for a root, as a call of the breaker. -/
def Attempt.call (attempt : Attempt) (merkleRootHex : String) : Breaker.Call where
  startedAt := attempt.startedAt
  outcome := outcomeOf (submit merkleRootHex attempt.answer)
  finishedAt := attempt.finishedAt

/-! ## The tick -/

section Tick

variable (worker : Worker) (breaker : CircuitBreaker)

/-- `_attempt`: `anchor_checkpoint` behind the breaker. -/
def attemptOnce (merkleRootHex : String) (attempt : Attempt) (circuit : Circuit) :
    Except Failure AnchorSubmission × Circuit :=
  match breaker.enter circuit attempt.startedAt with
  | .error message => (.error (.circuitOpenError message), circuit)
  | .ok entered =>
      let result := submit merkleRootHex attempt.answer
      (result, breaker.leave entered (outcomeOf result) attempt.finishedAt)

/-- `_anchor_checkpoint_with_retry`, with the attempts that are left. -/
def submitWithRetry (merkleRootHex : String) :
    Nat → (Nat → Attempt) → Circuit → Except Failure AnchorSubmission × Circuit
  | 0, _, circuit => (.error (.valueError "max_attempts must be >= 1"), circuit)
  | remaining + 1, attempts, circuit =>
      match attemptOnce breaker merkleRootHex (attempts 0) circuit with
      | (.ok submission, circuit) => (.ok submission, circuit)
      | (.error failure, circuit) =>
          if failure.isTransientAnchorError then
            match remaining with
            | 0 => (.error (.retryExhausted (worker.exhausted failure)), circuit)
            | _ + 1 => submitWithRetry merkleRootHex remaining (fun i => attempts (i + 1)) circuit
          else (.error failure, circuit)

/-- The handlers of a tick: what is written about a submission, if its failure is named by
one of them. -/
def markOf (now : Time) : Except Failure AnchorSubmission → Except Failure Mark
  | .ok submission =>
      .ok (.anchored submission.txHash submission.chainId submission.contractAddress now)
  | .error (.anchorConflictError message) => .ok (.conflict message)
  | .error (.retryExhausted message) => .ok (.attemptFailure message)
  | .error (.circuitOpenError message) => .ok (.attemptFailure message)
  | .error failure => .error failure

/-- The mark, and the row that it is written to. -/
def markRow (rows : CheckpointTable) (toSeq : Int) (mark : Except Failure Mark) :
    Except Failure (Nat × Mark) := do
  let mark ← mark
  let key ← getRow toSeq rows
  return (key, mark)

/-- A row is looked for where the database works. -/
theorem getRow_concludes {client : MonadAnchor} {allowed : Input → Prop}
    (works : ∀ input, allowed input → input.dbError = false) {toSeq : Int} {mark : Mark}
    {w w' : Anchoring} {result : Except Failure (Nat × Mark)}
    (ended : Concludes (execute client) allowed (do
      let row ← issue (.getRow toSeq)
      return (row, mark) : Prog (Nat × Mark)) w result w') :
    result = markRow w.checkpoints toSeq (.ok mark) ∧ w' = w := by
  have answer : ∀ input, allowed input →
      (execute client (.getRow toSeq) input w) = (getRow toSeq w.checkpoints, w) := by
    intro input fine
    rw [execute, works input fine]
    rfl
  have marked : markRow w.checkpoints toSeq (.ok mark)
      = (getRow toSeq w.checkpoints).map fun key => (key, mark) := by
    unfold markRow
    cases getRow toSeq w.checkpoints <;> rfl
  rw [marked]
  rcases concludes_bind_cases ended with ⟨failure, raised, rfl⟩ | ⟨row, middle, found, returned⟩
  · obtain ⟨input, fine, replied, same⟩ := concludes_perform.mp raised
    rw [answer input fine] at replied same
    have missing : getRow toSeq w.checkpoints = .error failure := replied.symm
    rw [missing]
    exact ⟨rfl, same⟩
  · obtain ⟨input, fine, replied, same⟩ := concludes_perform.mp found
    rw [answer input fine] at replied same
    have there : getRow toSeq w.checkpoints = .ok row := replied.symm
    obtain ⟨rfl, rfl⟩ := concludes_pure.mp returned
    rw [there]
    exact ⟨rfl, same⟩

/-- A checkpoint of the program of the tick is marked as its submission has ended. -/
theorem anchorPending_concludes {worker : Worker} {allowed : Input → Prop}
    (works : ∀ input, allowed input → input.dbError = false)
    {entry : AuditCheckpointRecord × Nat} {w w' : Anchoring} {result : Except Failure (Nat × Mark)}
    (ended : Concludes (execute worker.client) allowed (anchorPending worker entry) w result w') :
    ∃ submitted now,
      Concludes (execute worker.client) allowed
        (anchorCheckpointWithRetry worker entry.2 entry.1) w submitted w' ∧
      result = markRow w'.checkpoints entry.1.toSeq (markOf now submitted) := by
  unfold anchorPending at ended
  rcases concludes_bind_cases ended with ⟨failure, raised, -⟩ | ⟨submitted, middle, one, two⟩
  · obtain ⟨submitted, clash, -⟩ := concludes_outcome.mp raised
    cases clash
  obtain ⟨same, is, submits⟩ := concludes_outcome.mp one
  cases is
  cases submitted with
  | ok submission =>
      rcases concludes_bind_cases two with ⟨failure, raised, -⟩ | ⟨now, there, read, rest⟩
      · obtain ⟨input, -, clash, -⟩ := concludes_perform.mp raised
        cases clash
      · obtain ⟨input, -, -, rfl⟩ := concludes_perform.mp read
        obtain ⟨rfl, rfl⟩ := getRow_concludes works rest
        exact ⟨_, now, submits, rfl⟩
  | error failure =>
      cases failure with
      | anchorConflictError message =>
          obtain ⟨rfl, rfl⟩ := getRow_concludes works two
          exact ⟨_, 0, submits, rfl⟩
      | retryExhausted message =>
          obtain ⟨rfl, rfl⟩ := getRow_concludes works two
          exact ⟨_, 0, submits, rfl⟩
      | circuitOpenError message =>
          obtain ⟨rfl, rfl⟩ := getRow_concludes works two
          exact ⟨_, 0, submits, rfl⟩
      | _ =>
          obtain ⟨rfl, rfl⟩ := concludes_throw.mp two
          exact ⟨_, 0, submits, rfl⟩

/-- The loop of `_anchor_tick`. -/
def markAll (rows : CheckpointTable) (input : TickInput) :
    List (AuditCheckpointRecord × Nat) → Circuit → Except Failure (List (Nat × Mark)) × Circuit
  | [], circuit => (.ok [], circuit)
  | entry :: pending, circuit =>
      let submitted := submitWithRetry worker breaker entry.1.merkleRoot worker.maxRetryAttempts
        (input.attempts entry.2) circuit
      match markRow rows entry.1.toSeq (markOf (input.now entry.2) submitted.1) with
      | .error failure => (.error failure, submitted.2)
      | .ok mark =>
          let marked := markAll rows input pending submitted.2
          (marked.1.map (mark :: ·), marked.2)

/-- `_anchor_tick`: what it returns, the table, and the circuit. -/
def tick (input : TickInput) (rows : CheckpointTable) (circuit : Circuit) :
    Except Failure Nat × CheckpointTable × Circuit :=
  match markAll worker breaker rows input (listUnanchored rows) circuit with
  | (.error failure, circuit) => (.error failure, rows, circuit)
  | (.ok marks, circuit) =>
      (.ok (marks.filter fun mark => mark.2 matches .anchored ..).length, applyMarks rows marks,
        circuit)

end Tick

/-! ## A submission by itself -/

/-- The retry without a breaker. -/
def Worker.alone (worker : Worker) (merkleRootHex : String) :
    Nat → (Nat → Attempt) → Except Failure AnchorSubmission
  | 0, _ => .error (.valueError "max_attempts must be >= 1")
  | remaining + 1, attempts =>
      match submit merkleRootHex (attempts 0).answer with
      | .ok submission => .ok submission
      | .error failure =>
          if failure.isTransientAnchorError then
            match remaining with
            | 0 => .error (.retryExhausted (worker.exhausted failure))
            | _ + 1 => worker.alone merkleRootHex remaining fun i => attempts (i + 1)
          else .error failure

/-- The attempts that it makes. -/
def callsAlone (merkleRootHex : String) : Nat → (Nat → Attempt) → List Breaker.Call
  | 0, _ => []
  | remaining + 1, attempts =>
      (attempts 0).call merkleRootHex ::
        match submit merkleRootHex (attempts 0).answer with
        | .ok _ => []
        | .error failure =>
            if failure.isTransientAnchorError then
              callsAlone merkleRootHex remaining fun i => attempts (i + 1)
            else []

section Retry

variable {worker : Worker} {breaker : CircuitBreaker} {history : History} {circuit : Circuit}

theorem attemptOnce_blocked (positive : 1 ≤ breaker.failureThreshold)
    (tracks : breaker.Tracks history circuit) (merkleRootHex : String) {attempt : Attempt}
    (blocked : breaker.Blocks history attempt.startedAt) :
    ∃ message, attemptOnce breaker merkleRootHex attempt circuit
      = (.error (.circuitOpenError message), circuit) := by
  obtain ⟨message, rejected⟩ := (tracks.rejected_iff positive attempt.startedAt).mpr blocked
  refine ⟨message, ?_⟩
  rw [attemptOnce, rejected]

theorem attemptOnce_entered (positive : 1 ≤ breaker.failureThreshold)
    (tracks : breaker.Tracks history circuit) (merkleRootHex : String) {attempt : Attempt}
    (free : ¬ breaker.Blocks history attempt.startedAt) :
    ∃ circuit', attemptOnce breaker merkleRootHex attempt circuit
        = (submit merkleRootHex attempt.answer, circuit') ∧
      breaker.Tracks (attempt.call merkleRootHex :: history) circuit' := by
  cases entered : breaker.enter circuit attempt.startedAt with
  | error message =>
      exact absurd ((tracks.rejected_iff positive attempt.startedAt).mp ⟨message, entered⟩) free
  | ok circuit' =>
      have after : breaker.Tracks (attempt.call merkleRootHex :: history)
          (breaker.leave circuit' (attempt.call merkleRootHex).outcome attempt.finishedAt) :=
        tracks.leave positive entered
      refine ⟨_, ?_, after⟩
      rw [attemptOnce, entered]
      rfl

/-- Behind the breaker a submission comes to the same, unless one of its attempts is
blocked, which ends it. -/
theorem submitWithRetry_tracks (positive : 1 ≤ breaker.failureThreshold)
    (tracks : breaker.Tracks history circuit) (merkleRootHex : String) (remaining : Nat)
    (attempts : Nat → Attempt) :
    breaker.Tracks (breaker.executed history (callsAlone merkleRootHex remaining attempts))
        (submitWithRetry worker breaker merkleRootHex remaining attempts circuit).2 ∧
      (breaker.LetsIn history (callsAlone merkleRootHex remaining attempts) →
        (submitWithRetry worker breaker merkleRootHex remaining attempts circuit).1
          = worker.alone merkleRootHex remaining attempts) ∧
      (¬ breaker.LetsIn history (callsAlone merkleRootHex remaining attempts) → ∃ message,
        (submitWithRetry worker breaker merkleRootHex remaining attempts circuit).1
          = .error (.circuitOpenError message)) := by
  induction remaining generalizing attempts history circuit with
  | zero => exact ⟨tracks, fun _ => rfl, fun blocked => absurd trivial blocked⟩
  | succ remaining ih =>
      unfold submitWithRetry Worker.alone callsAlone
      rw [executed, LetsIn]
      by_cases blocked : breaker.Blocks history (attempts 0).startedAt
      · obtain ⟨message, once⟩ := attemptOnce_blocked positive tracks merkleRootHex blocked
        rw [once]
        have stops : breaker.Blocks history ((attempts 0).call merkleRootHex).startedAt := blocked
        rw [if_pos stops]
        exact ⟨tracks, fun free => absurd blocked free.1, fun _ => ⟨message, rfl⟩⟩
      · obtain ⟨circuit', once, after⟩ := attemptOnce_entered positive tracks merkleRootHex blocked
        have free : ¬ breaker.Blocks history ((attempts 0).call merkleRootHex).startedAt := blocked
        rw [once, if_neg free]
        cases submitted : submit merkleRootHex (attempts 0).answer with
        | ok submission =>
            exact ⟨after, fun _ => rfl, fun stopped => absurd ⟨free, trivial⟩ stopped⟩
        | error failure =>
            dsimp only
            split
            next transient =>
              cases remaining with
              | zero => exact ⟨after, fun _ => rfl, fun stopped => absurd ⟨free, trivial⟩ stopped⟩
              | succ remaining =>
                  obtain ⟨still, same, stops⟩ := ih after fun i => attempts (i + 1)
                  exact ⟨still, fun letsIn => same letsIn.2, fun stopped =>
                    stops fun letsIn => stopped ⟨free, letsIn⟩⟩
            next => exact ⟨after, fun _ => rfl, fun stopped => absurd ⟨free, trivial⟩ stopped⟩

end Retry

/-! ## A batch -/

section Batch

variable (worker : Worker) (breaker : CircuitBreaker) (rows : CheckpointTable) (input : TickInput)

/-- What the submission of a pending checkpoint comes to by itself. -/
def own (entry : AuditCheckpointRecord × Nat) : Except Failure AnchorSubmission :=
  worker.alone entry.1.merkleRoot worker.maxRetryAttempts (input.attempts entry.2)

/-- The attempts it makes for that. -/
def ownCalls (entry : AuditCheckpointRecord × Nat) : List Breaker.Call :=
  callsAlone entry.1.merkleRoot worker.maxRetryAttempts (input.attempts entry.2)

/-- The submission succeeds, or finds another root on the chain. -/
def Concludable (result : Except Failure AnchorSubmission) : Prop :=
  (∃ submission, result = .ok submission) ∨ ∃ message, result = .error (.anchorConflictError message)

/-- The stored root cannot be read. -/
def Malformed (merkleRootHex : String) : Prop := ∃ failure, parseHexPrefixed merkleRootHex = .error failure

/-- No other row ends where the pending one does. -/
def Unambiguous (entry : AuditCheckpointRecord × Nat) : Prop :=
  ∀ key row, rows[key]? = some row → row.toSeq = entry.1.toSeq → key = entry.2

/-- The breaker lets in what succeeds or conflicts, and keeps out what cannot be read. -/
def Unhindered : History → List (AuditCheckpointRecord × Nat) → Prop
  | _, [] => True
  | history, entry :: pending =>
      (Concludable (own worker input entry) → breaker.LetsIn history (ownCalls worker input entry)) ∧
      (Malformed entry.1.merkleRoot →
        breaker.Blocks history (input.attempts entry.2 0).startedAt) ∧
      Unhindered (breaker.executed history (ownCalls worker input entry)) pending

/-- After the tick what succeeds by itself is anchored, and what conflicts by itself is a
conflict. -/
def Isolated (circuit : Circuit) : Prop :=
  ∀ entry ∈ listUnanchored rows,
    (∀ submission, own worker input entry = .ok submission →
      (tick worker breaker input rows circuit).2.1[entry.2]?
        = some ((Mark.anchored submission.txHash submission.chainId submission.contractAddress
            (input.now entry.2)).apply entry.1)) ∧
    ∀ message, own worker input entry = .error (.anchorConflictError message) →
      (tick worker breaker input rows circuit).2.1[entry.2]?
        = some ((Mark.conflict message).apply entry.1)

variable {worker breaker rows input}

theorem distinct_keys (rows : CheckpointTable) : (rows.zipIdx.map Prod.snd).Nodup := by
  rw [List.zipIdx_map_snd]
  exact List.nodup_range'

theorem distinct_zipIdx (rows : CheckpointTable) : rows.zipIdx.Nodup :=
  List.Nodup.of_map _ (distinct_keys rows)

theorem distinct_listUnanchored (rows : CheckpointTable) :
    ((listUnanchored rows).map Prod.snd).Nodup := by
  rw [listUnanchored, ((List.mergeSort_perm _ _).map Prod.snd).nodup_iff]
  exact ((List.filter_sublist).map Prod.snd).nodup (distinct_keys rows)

variable (worker input) in
/-- What the tick gets for a pending checkpoint. -/
theorem submitted_own (positive : 1 ≤ breaker.failureThreshold) {history : History}
    {circuit : Circuit} (tracks : breaker.Tracks history circuit)
    (entry : AuditCheckpointRecord × Nat) :
    let submitted := submitWithRetry worker breaker entry.1.merkleRoot worker.maxRetryAttempts
      (input.attempts entry.2) circuit
    breaker.Tracks (breaker.executed history (ownCalls worker input entry)) submitted.2 ∧
      (breaker.LetsIn history (ownCalls worker input entry) →
        submitted.1 = own worker input entry) ∧
      (¬ breaker.LetsIn history (ownCalls worker input entry) →
        ∃ message, submitted.1 = .error (.circuitOpenError message)) :=
  submitWithRetry_tracks positive tracks _ _ _

theorem getRow_eq_ok_iff {entry : AuditCheckpointRecord × Nat}
    (present : rows[entry.2]? = some entry.1) {key : Nat} :
    getRow entry.1.toSeq rows = .ok key ↔ key = entry.2 ∧ Unambiguous rows entry := by
  constructor
  · intro found
    have here := getRow_unique found present rfl
    exact ⟨here, fun key' row present' ends => (getRow_unique found present' ends).symm.trans here⟩
  · rintro ⟨rfl, only⟩
    have selected : (rows.zipIdx.filter fun entry' => entry'.1.toSeq = entry.1.toSeq) = [entry] := by
      refine filter_eq_singleton (distinct_zipIdx rows) (List.mem_zipIdx_iff_getElem?.mpr present)
        (decide_eq_true rfl) ?_
      intro entry' member ends
      have present' := List.mem_zipIdx_iff_getElem?.mp member
      have here := only entry'.2 entry'.1 present' (of_decide_eq_true ends)
      rw [here] at present'
      exact Prod.ext (Option.some.inj (present'.symm.trans present)) here
    rw [getRow, selected]

/-- Where no two checkpoints end alike no row is ambiguous. -/
theorem unambiguous_of_nodup (distinct : (rows.map AuditCheckpointRecord.toSeq).Nodup)
    {entry : AuditCheckpointRecord × Nat} (present : rows[entry.2]? = some entry.1) :
    Unambiguous rows entry := by
  intro key row found ends
  have bound : key < (rows.map AuditCheckpointRecord.toSeq).length := by
    rw [List.length_map]
    exact (List.getElem?_eq_some_iff.mp found).1
  refine (List.getElem?_inj bound distinct).mp ?_
  rw [List.getElem?_map, List.getElem?_map, found, present, Option.map_some, Option.map_some, ends]

theorem submit_of_malformed {merkleRootHex : String} (malformed : Malformed merkleRootHex)
    (answer : Except Failure AnchorSubmission) :
    submit merkleRootHex answer
      = .error (.valueError "expected a 32-byte sha256 digest") := by
  obtain ⟨failure, parsed⟩ := malformed
  unfold submit
  rw [parsed]

theorem submit_error {merkleRootHex : String} (readable : ¬ Malformed merkleRootHex)
    {answer : Except Failure AnchorSubmission} {failure : Failure}
    (raised : submit merkleRootHex answer = .error failure)
    (lasting : ¬ failure.isTransientAnchorError = true) :
    ∃ message, failure = .anchorConflictError message := by
  unfold submit at raised
  split at raised
  next unparsed => exact absurd ⟨_, unparsed⟩ readable
  next =>
    split at raised
    next => cases raised
    next message =>
      cases raised
      exact ⟨message, rfl⟩
    next =>
      cases raised
      exact absurd rfl lasting

theorem alone_of_malformed {merkleRootHex : String} (malformed : Malformed merkleRootHex)
    (remaining : Nat) (attempts : Nat → Attempt) :
    ∃ message, worker.alone merkleRootHex remaining attempts = .error (.valueError message) := by
  unfold Worker.alone
  split
  next => exact ⟨_, rfl⟩
  next =>
    rw [submit_of_malformed malformed]
    exact ⟨_, rfl⟩

/-- A submission by itself ends in a way that some handler names, unless its root cannot be
read or there is no attempt. -/
theorem markOf_alone {merkleRootHex : String} (readable : ¬ Malformed merkleRootHex) (now : Time)
    {remaining : Nat} (positive : 1 ≤ remaining) (attempts : Nat → Attempt) :
    ∃ mark, markOf now (worker.alone merkleRootHex remaining attempts) = .ok mark := by
  induction remaining generalizing attempts with
  | zero => cases positive
  | succ remaining ih =>
      unfold Worker.alone
      cases submitted : submit merkleRootHex (attempts 0).answer with
      | ok submission => exact ⟨_, rfl⟩
      | error failure =>
          dsimp only
          split
          next transient =>
            cases remaining with
            | zero => exact ⟨_, rfl⟩
            | succ remaining => exact ih (Nat.le_add_left 1 remaining) _
          next lasting =>
            obtain ⟨message, rfl⟩ := submit_error readable submitted lasting
            exact ⟨_, rfl⟩

/-- One checkpoint more is marked when its submission comes to something that a handler
names and its row is found. -/
theorem markAll_cons_ok {entry : AuditCheckpointRecord × Nat}
    {pending : List (AuditCheckpointRecord × Nat)} {circuit : Circuit} {marks : List (Nat × Mark)} :
    (markAll worker breaker rows input (entry :: pending) circuit).1 = .ok marks ↔
      ∃ key mark marks', marks = (key, mark) :: marks' ∧
        markOf (input.now entry.2) (submitWithRetry worker breaker entry.1.merkleRoot
          worker.maxRetryAttempts (input.attempts entry.2) circuit).1 = .ok mark ∧
        getRow entry.1.toSeq rows = .ok key ∧
        (markAll worker breaker rows input pending (submitWithRetry worker breaker
          entry.1.merkleRoot worker.maxRetryAttempts (input.attempts entry.2) circuit).2).1
            = .ok marks' := by
  rw [markAll]
  dsimp only
  generalize submitWithRetry worker breaker entry.1.merkleRoot worker.maxRetryAttempts
    (input.attempts entry.2) circuit = submitted
  unfold markRow
  cases markOf (input.now entry.2) submitted.1 with
  | error failure => exact iff_of_false nofun (by simp)
  | ok mark =>
      cases getRow entry.1.toSeq rows with
      | error failure => exact iff_of_false nofun (by simp)
      | ok key =>
          dsimp only [Bind.bind, Except.bind, pure, Except.pure]
          cases (markAll worker breaker rows input pending submitted.2).1 with
          | error failure => exact iff_of_false nofun (by simp)
          | ok marks' =>
              constructor
              · intro same
                cases same
                exact ⟨key, mark, marks', rfl, rfl, rfl, rfl⟩
              · rintro ⟨_, _, _, rfl, marked, found, made⟩
                cases marked
                cases found
                cases made
                rfl

variable {history : History} {circuit : Circuit} {pending : List (AuditCheckpointRecord × Nat)}

theorem callsAlone_head {merkleRootHex : String} {remaining : Nat} (attempted : 1 ≤ remaining)
    {attempts : Nat → Attempt} (blocked : breaker.Blocks history (attempts 0).startedAt) :
    ¬ breaker.LetsIn history (callsAlone merkleRootHex remaining attempts) := by
  cases remaining with
  | zero => cases attempted
  | succ remaining => exact fun letsIn => letsIn.1 blocked

theorem letsIn_of_malformed {merkleRootHex : String} (malformed : Malformed merkleRootHex)
    {remaining : Nat} {attempts : Nat → Attempt}
    (free : ¬ breaker.Blocks history (attempts 0).startedAt) :
    breaker.LetsIn history (callsAlone merkleRootHex remaining attempts) := by
  cases remaining with
  | zero => trivial
  | succ remaining =>
      unfold callsAlone
      rw [submit_of_malformed malformed]
      exact ⟨free, trivial⟩

/-- A batch that is unhindered is marked as its checkpoints come out by themselves. -/
theorem markAll_of_unhindered (positive : 1 ≤ breaker.failureThreshold)
    (attempted : 1 ≤ worker.maxRetryAttempts) (tracks : breaker.Tracks history circuit)
    (present : ∀ entry ∈ pending, rows[entry.2]? = some entry.1)
    (unambiguous : ∀ entry ∈ pending, Unambiguous rows entry)
    (unhindered : Unhindered worker breaker input history pending) :
    ∃ marks, (markAll worker breaker rows input pending circuit).1 = .ok marks ∧
      ∀ entry ∈ pending, ∃ mark, (entry.2, mark) ∈ marks ∧
        (Concludable (own worker input entry) →
          markOf (input.now entry.2) (own worker input entry) = .ok mark) := by
  induction pending generalizing history circuit with
  | nil => exact ⟨[], rfl, List.forall_mem_nil _⟩
  | cons entry pending ih =>
      obtain ⟨lets, keeps, later⟩ := unhindered
      rw [List.forall_mem_cons] at present unambiguous
      obtain ⟨after, same, stopped⟩ := submitted_own worker input positive tracks entry
      obtain ⟨marks, made, marked⟩ := ih after present.2 unambiguous.2 later
      have row := (getRow_eq_ok_iff present.1).mpr ⟨rfl, unambiguous.1⟩
      have handled : ∃ mark, markOf (input.now entry.2) (submitWithRetry worker breaker
            entry.1.merkleRoot worker.maxRetryAttempts (input.attempts entry.2) circuit).1 = .ok mark ∧
          (Concludable (own worker input entry) →
            markOf (input.now entry.2) (own worker input entry) = .ok mark) := by
        by_cases letsIn : breaker.LetsIn history (ownCalls worker input entry)
        · have readable : ¬ Malformed entry.1.merkleRoot := fun malformed =>
            callsAlone_head attempted (keeps malformed) letsIn
          have handled : ∃ mark,
              markOf (input.now entry.2) (own worker input entry) = .ok mark :=
            markOf_alone readable _ attempted _
          obtain ⟨mark, handled⟩ := handled
          rw [same letsIn]
          exact ⟨mark, handled, fun _ => handled⟩
        · obtain ⟨message, raised⟩ := stopped letsIn
          rw [raised]
          exact ⟨_, rfl, fun concludable => absurd (lets concludable) letsIn⟩
      obtain ⟨mark, handled, kept⟩ := handled
      refine ⟨(entry.2, mark) :: marks,
        markAll_cons_ok.mpr ⟨_, _, _, rfl, handled, row, made⟩, ?_⟩
      rw [List.forall_mem_cons]
      refine ⟨⟨mark, List.mem_cons_self, kept⟩, ?_⟩
      intro entry' member
      obtain ⟨mark', marked', kept'⟩ := marked entry' member
      exact ⟨mark', List.mem_cons_of_mem _ marked', kept'⟩

/-- What is marked has rows that are not ambiguous. -/
theorem keys_of_markAll {marks : List (Nat × Mark)}
    (present : ∀ entry ∈ pending, rows[entry.2]? = some entry.1)
    (made : (markAll worker breaker rows input pending circuit).1 = .ok marks) :
    marks.map Prod.fst = pending.map Prod.snd ∧ ∀ entry ∈ pending, Unambiguous rows entry := by
  induction pending generalizing circuit marks with
  | nil =>
      cases made
      exact ⟨rfl, List.forall_mem_nil _⟩
  | cons entry pending ih =>
      rw [List.forall_mem_cons] at present ⊢
      obtain ⟨key, mark, marks', rfl, -, found, rest⟩ := markAll_cons_ok.mp made
      obtain ⟨rfl, unambiguous⟩ := (getRow_eq_ok_iff present.1).mp found
      obtain ⟨keys, others⟩ := ih present.2 rest
      exact ⟨congrArg (entry.2 :: ·) keys, unambiguous, others⟩

/-- A batch is unhindered if it is marked, and what can be concluded is not marked as a
failed attempt. -/
theorem unhindered_of_markAll (positive : 1 ≤ breaker.failureThreshold)
    (tracks : breaker.Tracks history circuit)
    (present : ∀ entry ∈ pending, rows[entry.2]? = some entry.1) {marks : List (Nat × Mark)}
    (made : (markAll worker breaker rows input pending circuit).1 = .ok marks)
    (kept : ∀ entry ∈ pending, Concludable (own worker input entry) →
      ∀ message, (entry.2, .attemptFailure message) ∉ marks) :
    Unhindered worker breaker input history pending := by
  induction pending generalizing history circuit marks with
  | nil => trivial
  | cons entry pending ih =>
      rw [List.forall_mem_cons] at present kept
      obtain ⟨key, mark, marks', rfl, handled, found, rest⟩ := markAll_cons_ok.mp made
      obtain ⟨rfl, -⟩ := (getRow_eq_ok_iff present.1).mp found
      obtain ⟨after, same, stopped⟩ := submitted_own worker input positive tracks entry
      refine ⟨fun concludable => ?_, fun malformed => ?_, ih after present.2 rest ?_⟩
      · by_contra blocked
        obtain ⟨message, raised⟩ := stopped blocked
        rw [raised] at handled
        cases handled
        exact kept.1 concludable message List.mem_cons_self
      · by_contra free
        have raised : ∃ message, own worker input entry = .error (.valueError message) :=
          alone_of_malformed malformed _ _
        obtain ⟨message, raised⟩ := raised
        rw [same (letsIn_of_malformed malformed free), raised] at handled
        cases handled
      · intro entry' member concludable message failed
        exact kept.2 entry' member concludable message (List.mem_cons_of_mem _ failed)

/-! ## The whole tick -/

theorem getElem?_applyMarks_of_not_mem {rows : CheckpointTable} {marks : List (Nat × Mark)}
    {key : Nat} (absent : key ∉ marks.map Prod.fst) : (applyMarks rows marks)[key]? = rows[key]? := by
  unfold applyMarks
  induction marks generalizing rows with
  | nil => rfl
  | cons first marks ih =>
      rw [List.map_cons, List.mem_cons, not_or] at absent
      rw [List.foldl_cons, ih absent.2, List.getElem?_modify_ne _ _ (Ne.symm absent.1)]

/-- A row that is marked once carries this mark. -/
theorem getElem?_applyMarks_of_mem {rows : CheckpointTable} {marks : List (Nat × Mark)}
    (distinct : (marks.map Prod.fst).Nodup) {key : Nat} {mark : Mark} (member : (key, mark) ∈ marks)
    {row : AuditCheckpointRecord} (found : rows[key]? = some row) :
    (applyMarks rows marks)[key]? = some (mark.apply row) := by
  unfold applyMarks
  induction marks generalizing rows row with
  | nil => cases member
  | cons first marks ih =>
      rw [List.map_cons, List.nodup_cons] at distinct
      rw [List.foldl_cons]
      rcases List.mem_cons.mp member with rfl | later
      · refine (getElem?_applyMarks_of_not_mem distinct.1).trans ?_
        rw [List.getElem?_modify_eq, found]
        rfl
      · have other : first.1 ≠ key := by
          rintro rfl
          exact distinct.1 (List.mem_map.mpr ⟨_, later, rfl⟩)
        refine ih distinct.2 later ?_
        rw [List.getElem?_modify_ne _ _ other, found]

theorem tick_of_ok {marks : List (Nat × Mark)}
    (made : (markAll worker breaker rows input (listUnanchored rows) circuit).1 = .ok marks) :
    (tick worker breaker input rows circuit).2.1 = applyMarks rows marks := by
  unfold tick
  split
  next raised =>
    rw [raised] at made
    cases made
  next same =>
    rw [same] at made
    cases made
    rfl

theorem tick_of_error {failure : Failure}
    (raised : (markAll worker breaker rows input (listUnanchored rows) circuit).1 = .error failure) :
    (tick worker breaker input rows circuit).2.1 = rows := by
  unfold tick
  split
  next => rfl
  next same =>
    rw [same] at raised
    cases raised

/-- What can be concluded is written as a conclusion. -/
theorem markOf_concludable {result : Except Failure AnchorSubmission}
    (concludable : Concludable result) (now : Time) :
    ∃ mark, markOf now result = .ok mark ∧ ∀ row, (mark.apply row).anchorStatus ≠ .unanchored := by
  rcases concludable with ⟨submission, rfl⟩ | ⟨message, rfl⟩
  · exact ⟨_, rfl, fun row same => AnchorStatus.noConfusion same⟩
  · exact ⟨_, rfl, fun row same => AnchorStatus.noConfusion same⟩

theorem isolated_iff :
    Isolated worker breaker rows input circuit ↔
      ∀ entry ∈ listUnanchored rows, Concludable (own worker input entry) →
        ∀ mark, markOf (input.now entry.2) (own worker input entry) = .ok mark →
          (tick worker breaker input rows circuit).2.1[entry.2]? = some (mark.apply entry.1) := by
  constructor
  · rintro isolated entry listed (⟨submission, result⟩ | ⟨message, result⟩) mark marked
    all_goals
      rw [result] at marked
      cases marked
    · exact (isolated entry listed).1 submission result
    · exact (isolated entry listed).2 message result
  · intro concluded entry listed
    refine ⟨fun submission result => ?_, fun message result => ?_⟩
    · exact concluded entry listed (.inl ⟨submission, result⟩) _ (by rw [result]; rfl)
    · exact concluded entry listed (.inr ⟨message, result⟩) _ (by rw [result]; rfl)

/-- For every table and all outcomes of the attempts, each checkpoint gets what its own
submission comes to exactly if the tick is unhindered, or there is nothing to conclude. -/
theorem tick_isolates_iff (worker : Worker) (breaker : CircuitBreaker) (rows : CheckpointTable)
    (input : TickInput) (earlier : List Breaker.Call) (positive : 1 ≤ breaker.failureThreshold) :
    Isolated worker breaker rows input (breaker.run earlier).1 ↔
      (∀ entry ∈ listUnanchored rows, ¬ Concludable (own worker input entry)) ∨
        (∀ entry ∈ listUnanchored rows, Unambiguous rows entry) ∧
          Unhindered worker breaker input (breaker.run earlier).2 (listUnanchored rows) := by
  have tracks := CircuitBreaker.tracks_run positive earlier
  have present : ∀ entry ∈ listUnanchored rows, rows[entry.2]? = some entry.1 :=
    fun entry listed => (mem_listUnanchored listed).1
  by_cases nothing : ∀ entry ∈ listUnanchored rows, ¬ Concludable (own worker input entry)
  · refine iff_of_true (fun entry listed => ⟨fun submission own => ?_, fun message own => ?_⟩)
      (.inl nothing)
    · exact absurd (.inl ⟨submission, own⟩) (nothing entry listed)
    · exact absurd (.inr ⟨message, own⟩) (nothing entry listed)
  rw [or_iff_right nothing]
  rw [isolated_iff]
  constructor
  · intro isolated
    cases made : (markAll worker breaker rows input (listUnanchored rows)
        (breaker.run earlier).1).1 with
    | error failure =>
        refine absurd (fun entry listed concludable => ?_) nothing
        obtain ⟨found, unanchored⟩ := mem_listUnanchored listed
        obtain ⟨mark, marked, concludes⟩ := markOf_concludable concludable (input.now entry.2)
        have after := isolated entry listed concludable mark marked
        rw [tick_of_error made, found] at after
        exact concludes entry.1 (Option.some.inj after ▸ unanchored)
    | ok marks =>
        obtain ⟨keys, unambiguous⟩ := keys_of_markAll present made
        refine ⟨unambiguous, unhindered_of_markAll positive tracks present made ?_⟩
        intro entry listed concludable message failed
        obtain ⟨found, unanchored⟩ := mem_listUnanchored listed
        obtain ⟨mark, marked, concludes⟩ := markOf_concludable concludable (input.now entry.2)
        have distinct : (marks.map Prod.fst).Nodup := keys ▸ distinct_listUnanchored rows
        have after := isolated entry listed concludable mark marked
        rw [tick_of_ok made, getElem?_applyMarks_of_mem distinct failed found] at after
        exact concludes entry.1 (Option.some.inj after ▸ unanchored)
  · rintro ⟨unambiguous, unhindered⟩ entry listed concludable mark marked
    have attempted : 1 ≤ worker.maxRetryAttempts := by
      by_contra never
      have result : own worker input entry = .error (.valueError "max_attempts must be >= 1") := by
        rw [own, Nat.lt_one_iff.mp (not_le.mp never)]
        rfl
      rw [result] at marked
      cases marked
    obtain ⟨marks, made, all⟩ := markAll_of_unhindered positive attempted tracks present unambiguous
      unhindered
    obtain ⟨keys, -⟩ := keys_of_markAll present made
    have distinct : (marks.map Prod.fst).Nodup := keys ▸ distinct_listUnanchored rows
    obtain ⟨mark', member, marked'⟩ := all entry listed
    cases marked.symm.trans (marked' concludable)
    rw [tick_of_ok made]
    exact getElem?_applyMarks_of_mem distinct member (present entry listed)

end Batch

namespace Fixture

/-- The breaker of `_anchor_loop`. -/
def anchorBreaker : CircuitBreaker where
  name := "monad-anchor"

def pendingCheckpoint (number : Nat) (merkleRoot : String) : AuditCheckpointRecord where
  fromSeq := 64 * number + 1
  toSeq := 64 * (number + 1)
  merkleRoot := merkleRoot

/-- The node answers each attempt for a row in a second. -/
def answeredBy (answers : Nat → Except Failure AnchorSubmission) : TickInput where
  attempts key attempt :=
    ⟨seconds (4 * key + attempt), answers key, seconds (4 * key + attempt + 1)⟩
  now key := seconds (4 * key + 4)

def sent : AnchorSubmission where
  chainId := 10143
  contractAddress := "0xA0"
  alreadyAnchored := false
  txHash := some "0xc0"

def conflicting : Except Failure AnchorSubmission := .error (.anchorConflictError "another root")

/-- The first rows are in conflict, the others are sent. -/
def conflictsFirst (count : Nat) : TickInput :=
  answeredBy fun key => if key < count then conflicting else .ok sent

def root : String :=
  "sha256:0202020202020202020202020202020202020202020202020202020202020202"

theorem readable_root : ¬ Malformed root := by
  rintro ⟨failure, unread⟩
  have read : parseHexPrefixed root = .ok (digest 2) := by decide +kernel
  cases read.symm.trans unread

/-- Pending checkpoints that come in their order are listed in it. -/
theorem listUnanchored_of_pairwise {rows : CheckpointTable}
    (pending : rows.all fun row => row.anchorStatus = .unanchored)
    (ordered : rows.zipIdx.Pairwise fun entry entry' => entry.1.toSeq ≤ entry'.1.toSeq) :
    listUnanchored rows = rows.zipIdx := by
  have all : (rows.zipIdx.filter fun entry => entry.1.anchorStatus = .unanchored) = rows.zipIdx := by
    rw [List.filter_eq_self]
    intro entry member
    have present := List.mem_of_getElem? (List.mem_zipIdx_iff_getElem?.mp member)
    exact List.all_eq_true.mp pending entry.1 present
  rw [listUnanchored, all]
  exact List.mergeSort_of_pairwise (ordered.imp decide_eq_true)

def twoRoots : CheckpointTable := [pendingCheckpoint 0 root, pendingCheckpoint 1 root]

/-- A checkpoint in conflict does not keep the next one from being anchored. -/
theorem conflict_apart :
    Isolated anchorWorker anchorBreaker twoRoots (conflictsFirst 1) (anchorBreaker.run []).1 := by
  refine (tick_isolates_iff _ _ _ _ [] (by decide)).mpr (.inr ?_)
  rw [listUnanchored_of_pairwise (by decide +kernel) (by decide +kernel)]
  refine ⟨?_, ?_, fun malformed => absurd malformed readable_root, ?_,
    fun malformed => absurd malformed readable_root, trivial⟩
  · intro entry member
    exact unambiguous_of_nodup (by decide +kernel) (List.mem_zipIdx_iff_getElem?.mp member)
  · exact fun _ => ⟨by decide +kernel, trivial⟩
  · exact fun _ => ⟨by decide +kernel, trivial⟩

def unreadableFirst : CheckpointTable := [pendingCheckpoint 0 "0x00", pendingCheckpoint 1 root]

def sixRoots : CheckpointTable := (List.range 6).map fun number => pendingCheckpoint number root

/-- A root that cannot be read keeps the next checkpoint from being anchored, and five
checkpoints in conflict keep the sixth. -/
theorem checkpoint_blocked :
    ¬ Isolated anchorWorker anchorBreaker unreadableFirst (conflictsFirst 0)
        (anchorBreaker.run []).1 ∧
      ¬ Isolated anchorWorker anchorBreaker sixRoots (conflictsFirst 5)
        (anchorBreaker.run []).1 := by
  constructor
  · intro isolated
    have listed : listUnanchored unreadableFirst = unreadableFirst.zipIdx :=
      listUnanchored_of_pairwise (by decide +kernel) (by decide +kernel)
    have raised : (markAll anchorWorker anchorBreaker unreadableFirst (conflictsFirst 0)
        (listUnanchored unreadableFirst) (anchorBreaker.run []).1).1
          = .error (.valueError "expected a 32-byte sha256 digest") := by
      rw [listed]
      decide +kernel
    have member : (pendingCheckpoint 1 root, 1) ∈ listUnanchored unreadableFirst := by
      rw [listed]
      exact List.mem_zipIdx_iff_getElem?.mpr rfl
    have anchored := (isolated _ member).1 sent (by decide +kernel)
    rw [tick_of_error raised] at anchored
    revert anchored
    decide +kernel
  · intro isolated
    have listed : listUnanchored sixRoots = sixRoots.zipIdx :=
      listUnanchored_of_pairwise (by decide +kernel) (by decide +kernel)
    have made : (markAll anchorWorker anchorBreaker sixRoots (conflictsFirst 5)
        (listUnanchored sixRoots) (anchorBreaker.run []).1).1
          = .ok (((List.range 5).map fun key => (key, .conflict "another root"))
            ++ [(5, .attemptFailure "circuit 'monad-anchor' is open")]) := by
      rw [listed]
      decide +kernel
    have member : (pendingCheckpoint 5 root, 5) ∈ listUnanchored sixRoots := by
      rw [listed]
      exact List.mem_zipIdx_iff_getElem?.mpr rfl
    have anchored := (isolated _ member).1 sent (by decide +kernel)
    rw [tick_of_ok made] at anchored
    revert anchored
    decide +kernel

end Fixture

end Actl.Anchor
