import Mathlib.Data.List.Basic
import Mathlib.Order.Lattice
import Actl.Platform

/-!
# The circuit breaker

`CircuitBreaker` of `platform/breaker.py`. A call enters the circuit, runs, and leaves it
with an outcome; what the two ends do to the circuit is `enter` and `leave`. A call that
is cancelled leaves neither a success nor a failure behind.

Calls that do not overlap meet a specification that knows no states (`rejected_iff`): a
call is rejected when enough calls have failed in a row, and the last of them not long
ago.
-/

set_option autoImplicit false

namespace Actl.Breaker

/-- `BreakerState`. -/
inductive BreakerState where
  | closed
  | opened
  | halfOpen
  deriving DecidableEq, Repr

/-- What a breaker is made with. -/
structure CircuitBreaker where
  name : String
  failureThreshold : Int := 5
  recoveryTimeout : Time := seconds 30
  deriving DecidableEq

/-- The fields of a breaker that its calls change. -/
structure Circuit where
  state : BreakerState := .closed
  consecutiveFailures : Nat := 0
  openedAt : Option Time := none
  halfOpenTrialInFlight : Bool := false
  deriving DecidableEq, Repr

/-- How the function of a call ends: it returns, it raises, or it is cancelled. -/
inductive Outcome where
  | success
  | failure
  | cancelled
  deriving DecidableEq, Repr

namespace CircuitBreaker

variable (breaker : CircuitBreaker)

/-- The property `state`. -/
def state (circuit : Circuit) (now : Time) : BreakerState :=
  match circuit.state, circuit.openedAt with
  | .opened, some openedAt =>
      if breaker.recoveryTimeout ≤ now - openedAt then .halfOpen else .opened
  | state, _ => state

/-- `call` up to its function, or the message of the `CircuitOpenError` it raises. -/
def enter (circuit : Circuit) (now : Time) : Except String Circuit :=
  match breaker.state circuit now with
  | .opened => .error ("circuit '" ++ breaker.name ++ "' is open")
  | .halfOpen =>
      if circuit.halfOpenTrialInFlight then
        .error ("circuit '" ++ breaker.name ++ "' is half-open (trial in flight)")
      else .ok { circuit with halfOpenTrialInFlight := true }
  | .closed => .ok circuit

/-- `_on_success`. -/
def onSuccess (circuit : Circuit) : Circuit :=
  { circuit with consecutiveFailures := 0, state := .closed, openedAt := none }

/-- `_on_failure`. -/
def onFailure (circuit : Circuit) (now : Time) : Circuit :=
  let circuit := { circuit with consecutiveFailures := circuit.consecutiveFailures + 1 }
  if breaker.failureThreshold ≤ circuit.consecutiveFailures ∨ circuit.state = .opened then
    { circuit with state := .opened, openedAt := some now }
  else circuit

/-- `call` from the end of its function on. -/
def leave (circuit : Circuit) (outcome : Outcome) (now : Time) : Circuit :=
  let circuit := match outcome with
    | .success => onSuccess circuit
    | .failure => breaker.onFailure circuit now
    | .cancelled => circuit
  { circuit with halfOpenTrialInFlight := false }

end CircuitBreaker

/-! ## Calls that do not overlap -/

/-- A call: the clock's reading when it starts, how its function ends, and the reading
then. -/
structure Call where
  startedAt : Time
  outcome : Outcome
  finishedAt : Time
  deriving DecidableEq

/-- The calls that were executed, the latest first. -/
abbrev History : Type := List Call

namespace CircuitBreaker

variable (breaker : CircuitBreaker)

/-- The circuit lets no call in. -/
def Rejected (circuit : Circuit) (now : Time) : Prop :=
  ∃ message, breaker.enter circuit now = .error message

/-- A whole call. -/
def call (circuit : Circuit) (call : Call) : Circuit :=
  match breaker.enter circuit call.startedAt with
  | .error _ => circuit
  | .ok circuit => breaker.leave circuit call.outcome call.finishedAt

/-- Calls one after the other: the circuit, and the calls of them that were executed. -/
def run : List Call → Circuit × History
  | [] => ({}, [])
  | call :: earlier =>
      let (circuit, history) := run earlier
      (breaker.call circuit call,
        match breaker.enter circuit call.startedAt with
        | .error _ => history
        | .ok _ => call :: history)

/-- The calls that have failed since the last success. -/
def failures (history : History) : History :=
  (history.takeWhile fun call => call.outcome ≠ .success).filter fun call =>
    call.outcome = .failure

/-- Enough executed calls have failed since the last success, and the last of them a
shorter time ago than the breaker takes to recover. -/
def Blocks (history : History) (now : Time) : Prop :=
  breaker.failureThreshold ≤ (failures history).length ∧
    ∃ last, (failures history).head? = some last ∧
      now - last.finishedAt < breaker.recoveryTimeout

instance (history : History) (now : Time) : Decidable (breaker.Blocks history now) :=
  decidable_of_iff (breaker.failureThreshold ≤ (failures history).length ∧
      (failures history).head?.any fun last => now - last.finishedAt < breaker.recoveryTimeout)
    (and_congr_right fun _ => by simp only [Option.any_eq_true, decide_eq_true_eq])

/-- The circuit is the one that the executed calls have left. -/
structure Tracks (history : History) (circuit : Circuit) : Prop where
  idle : circuit.halfOpenTrialInFlight = false
  counted : circuit.consecutiveFailures = (failures history).length
  state : circuit.state
    = if breaker.failureThreshold ≤ (failures history).length then .opened else .closed
  since : circuit.openedAt
    = if breaker.failureThreshold ≤ (failures history).length
      then (failures history).head?.map Call.finishedAt else none

section Failures

variable (history : History) {last : Call}

theorem failures_success (ended : last.outcome = .success) : failures (last :: history) = [] := by
  simp [failures, ended]

theorem failures_failure (ended : last.outcome = .failure) :
    failures (last :: history) = last :: failures history := by
  simp [failures, ended]

theorem failures_cancelled (ended : last.outcome = .cancelled) :
    failures (last :: history) = failures history := by
  simp [failures, ended]

end Failures

variable {breaker} {history : History} {circuit : Circuit}

theorem tracks_fresh (positive : 1 ≤ breaker.failureThreshold) : breaker.Tracks [] {} := by
  have few : ¬ breaker.failureThreshold ≤ ((failures []).length : Int) := by
    simp only [failures, List.takeWhile_nil, List.filter_nil, List.length_nil]
    omega
  exact ⟨rfl, rfl, (if_neg few).symm, (if_neg few).symm⟩

/-- A tracked circuit rejects a call exactly when its history blocks it. -/
theorem Tracks.rejected_iff (positive : 1 ≤ breaker.failureThreshold)
    (tracks : breaker.Tracks history circuit) (now : Time) :
    breaker.Rejected circuit now ↔ breaker.Blocks history now := by
  have state := tracks.state
  have since := tracks.since
  by_cases many : breaker.failureThreshold ≤ ((failures history).length : Int)
  · rw [if_pos many] at state since
    cases found : (failures history).head? with
    | none =>
        rw [List.head?_eq_none_iff] at found
        rw [found, List.length_nil] at many
        omega
    | some last =>
        rw [found, Option.map_some] at since
        have seen : breaker.state circuit now
            = if breaker.recoveryTimeout ≤ now - last.finishedAt then .halfOpen else .opened := by
          rw [CircuitBreaker.state, state, since]
        by_cases recovered : breaker.recoveryTimeout ≤ now - last.finishedAt
        · rw [if_pos recovered] at seen
          constructor
          · rintro ⟨message, rejected⟩
            rw [enter, seen, tracks.idle] at rejected
            cases rejected
          · rintro ⟨-, last', here, early⟩
            rw [found] at here
            cases here
            exact absurd recovered (not_le.mpr early)
        · rw [if_neg recovered] at seen
          refine ⟨fun _ => ⟨many, last, found, not_le.mp recovered⟩, fun _ => ?_⟩
          exact ⟨_, by rw [enter, seen]⟩
  · rw [if_neg many] at state
    have seen : breaker.state circuit now = .closed := by
      rw [CircuitBreaker.state, state]
    constructor
    · rintro ⟨message, rejected⟩
      rw [enter, seen] at rejected
      cases rejected
    · intro blocked
      exact absurd blocked.1 many

/-- A call that is let in changes no more than the flag. -/
theorem enter_ok {circuit' : Circuit} {now : Time} (entered : breaker.enter circuit now = .ok circuit') :
    circuit' = { circuit with halfOpenTrialInFlight := circuit'.halfOpenTrialInFlight } := by
  rw [enter] at entered
  split at entered
  next => cases entered
  next =>
    split at entered
    next => cases entered
    next =>
      cases entered
      rfl
  next =>
    cases entered
    rfl

/-- An executed call leaves the circuit that its outcome asks for. -/
theorem Tracks.leave (positive : 1 ≤ breaker.failureThreshold)
    (tracks : breaker.Tracks history circuit) {call : Call} {circuit' : Circuit}
    (entered : breaker.enter circuit call.startedAt = .ok circuit') :
    breaker.Tracks (call :: history) (breaker.leave circuit' call.outcome call.finishedAt) := by
  rw [enter_ok entered]
  cases ended : call.outcome with
  | success =>
      have few : ¬ breaker.failureThreshold ≤ ((failures (call :: history)).length : Int) := by
        rw [failures_success history ended, List.length_nil]
        omega
      refine ⟨rfl, ?_, (if_neg few).symm, (if_neg few).symm⟩
      rw [failures_success history ended]
      rfl
  | failure =>
      have longer := failures_failure history ended
      have counted : ((failures (call :: history)).length : Int)
          = circuit.consecutiveFailures + 1 := by
        rw [longer, List.length_cons, tracks.counted]
        rfl
      have opens : breaker.failureThreshold ≤ ((circuit.consecutiveFailures + 1 : Nat) : Int) ∨
          circuit.state = .opened ↔
            breaker.failureThreshold ≤ ((failures (call :: history)).length : Int) := by
        rw [counted, tracks.state, tracks.counted]
        constructor
        · rintro (reached | before)
          · exact reached
          · split at before
            next already => omega
            next => cases before
        · exact .inl
      by_cases many : breaker.failureThreshold ≤ ((failures (call :: history)).length : Int)
      · refine ⟨rfl, ?_, ?_, ?_⟩
        · simp only [CircuitBreaker.leave, onFailure, if_pos (opens.mpr many)]
          omega
        · simp only [CircuitBreaker.leave, onFailure, if_pos (opens.mpr many), if_pos many]
        · simp only [CircuitBreaker.leave, onFailure, if_pos (opens.mpr many), if_pos many]
          rw [longer]
          rfl
      · have not_opened : circuit.state = .closed := by
          rw [tracks.state, if_neg]
          rw [← tracks.counted]
          omega
        have never : circuit.openedAt = none := by
          rw [tracks.since, if_neg]
          rw [← tracks.counted]
          omega
        have stays := mt opens.mp many
        refine ⟨rfl, ?_, ?_, ?_⟩
        · simp only [CircuitBreaker.leave, onFailure, if_neg stays]
          omega
        · simp only [CircuitBreaker.leave, onFailure, if_neg stays, if_neg many]
          exact not_opened
        · simp only [CircuitBreaker.leave, onFailure, if_neg stays, if_neg many]
          exact never
  | cancelled =>
      have same := failures_cancelled history ended
      exact ⟨rfl, same ▸ tracks.counted, same ▸ tracks.state, same ▸ tracks.since⟩

/-- The circuit after any calls is the one that the executed of them have left. -/
theorem tracks_run (positive : 1 ≤ breaker.failureThreshold) (calls : List Call) :
    breaker.Tracks (breaker.run calls).2 (breaker.run calls).1 := by
  induction calls with
  | nil => exact tracks_fresh positive
  | cons call earlier ih =>
      rw [run]
      dsimp only
      cases entered : breaker.enter (breaker.run earlier).1 call.startedAt with
      | error message =>
          simp only [CircuitBreaker.call, entered]
          exact ih
      | ok circuit =>
          simp only [CircuitBreaker.call, entered]
          exact ih.leave positive entered

/-- After any calls, a call is rejected exactly when enough of the executed ones have
failed since the last success and the last of them not long ago; it changes nothing
then. -/
theorem sequential_calls (positive : 1 ≤ breaker.failureThreshold) (earlier : List Call)
    (call : Call) :
    (breaker.Rejected (breaker.run earlier).1 call.startedAt ↔
      breaker.Blocks (breaker.run earlier).2 call.startedAt) ∧
    (breaker.Rejected (breaker.run earlier).1 call.startedAt →
      breaker.run (call :: earlier) = breaker.run earlier) := by
  refine ⟨(tracks_run positive earlier).rejected_iff positive call.startedAt, ?_⟩
  rintro ⟨message, rejected⟩
  simp only [run, CircuitBreaker.call, rejected]

/-! ### Calls until one is rejected -/

variable (breaker) in
/-- None of the calls is blocked. -/
def LetsIn : History → List Call → Prop
  | _, [] => True
  | history, call :: calls =>
      ¬ breaker.Blocks history call.startedAt ∧ LetsIn (call :: history) calls

variable (breaker) in
/-- The executed calls, when no call is made after one that is blocked. -/
def executed : History → List Call → History
  | history, [] => history
  | history, call :: calls =>
      if breaker.Blocks history call.startedAt then history else executed (call :: history) calls

end CircuitBreaker

namespace Fixture

/-- The breaker of the payment provider. -/
def razorpay : CircuitBreaker where
  name := "razorpay"

/-- A failure that takes a second. -/
def failing (start : Int) : Call := ⟨seconds start, .failure, seconds (start + 1)⟩

/-- After five failures the sixth call is rejected, half a minute after the last of them
it is not. -/
theorem razorpay_opens :
    (razorpay.Rejected (razorpay.run [failing 4, failing 3, failing 2, failing 1, failing 0]).1
        (seconds 34) ∧
      ¬ razorpay.Rejected (razorpay.run [failing 4, failing 3, failing 2, failing 1, failing 0]).1
        (seconds 35)) := by
  constructor
  · exact ((CircuitBreaker.sequential_calls (by decide) _ (failing 34)).1.mpr
      ⟨by decide, failing 4, by decide, by decide⟩)
  · intro rejected
    obtain ⟨-, last, found, early⟩ :=
      (CircuitBreaker.sequential_calls (by decide) _ (failing 35)).1.mp rejected
    have named : last = failing 4 := Option.some.inj (found.symm.trans (by decide))
    rw [named] at early
    revert early
    decide

end Fixture

end Actl.Breaker
