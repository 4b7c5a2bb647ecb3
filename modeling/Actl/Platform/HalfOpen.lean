import Actl.Platform.Breaker

/-!
# Overlapping calls of a breaker

Any number of calls go through one breaker, each starting and finishing when it likes.
What happened is a log, the latest entry first. The log is orderly (`Orderly`) if no call
is let in while a half-open trial is in flight and no call closes the breaker that was
let in before it last opened.

The flag of the trial belongs to the breaker, and every call that finishes clears it. So
runs are orderly as long as no call finishes that was let in before the breaker last
opened, during a trial, or successfully while the breaker is open (`half_open_trials`);
where one does, the log is not orderly for long.
-/

set_option autoImplicit false

namespace Actl.Breaker

/-! ## The log -/

inductive Entry where
  | admitted (call : Nat) (trial : Bool)
  | rejected (call : Nat)
  | finished (call : Nat) (opens closes : Bool)
  deriving DecidableEq, Repr

abbrev Log : Type := List Entry

/-- Whether the call in flight is a trial, if it is in flight. -/
def inFlight? : Log → Nat → Option Bool
  | [], _ => none
  | .admitted other trial :: log, call => if other = call then some trial else inFlight? log call
  | .finished other _ _ :: log, call => if other = call then none else inFlight? log call
  | .rejected _ :: log, call => inFlight? log call

/-- The call was let in after the breaker last opened. -/
def SinceOpening : Log → Nat → Prop
  | [], _ => False
  | .admitted other _ :: log, call => other = call ∨ SinceOpening log call
  | .finished _ opens _ :: log, call => opens = false ∧ SinceOpening log call
  | .rejected _ :: log, call => SinceOpening log call

instance decidableSinceOpening : (log : Log) → (call : Nat) → Decidable (SinceOpening log call)
  | [], _ => .isFalse nofun
  | .admitted other _ :: log, call =>
      have := decidableSinceOpening log call
      inferInstanceAs (Decidable (other = call ∨ SinceOpening log call))
  | .finished _ opens _ :: log, call =>
      have := decidableSinceOpening log call
      inferInstanceAs (Decidable (opens = false ∧ SinceOpening log call))
  | .rejected _ :: log, call => decidableSinceOpening log call

/-- A half-open trial is in flight. -/
def OnTrial (log : Log) : Prop := ∃ call, inFlight? log call = some true

/-- What the breaker is to see to, entry by entry. -/
def Orderly : Log → Prop
  | [] => True
  | .admitted _ _ :: log => ¬ OnTrial log ∧ Orderly log
  | .finished call _ closes :: log => (closes = true → SinceOpening log call) ∧ Orderly log
  | .rejected _ :: log => Orderly log

/-! ## Runs -/

/-- A circuit with its calls, which are numbered as they start. -/
structure Monitor where
  circuit : Circuit := {}
  started : Nat := 0
  log : Log := []
  deriving DecidableEq

/-- Calls start and finish at the clock's reading. -/
inductive Event where
  | start (now : Time)
  | finish (call : Nat) (outcome : Outcome) (now : Time)
  deriving DecidableEq

namespace CircuitBreaker

variable (breaker : CircuitBreaker)

def start (m : Monitor) (now : Time) : Monitor :=
  match breaker.enter m.circuit now with
  | .error _ => { m with started := m.started + 1, log := .rejected m.started :: m.log }
  | .ok circuit =>
      { circuit := circuit
        started := m.started + 1
        log := .admitted m.started (breaker.state m.circuit now = .halfOpen) :: m.log }

def finish (m : Monitor) (call : Nat) (outcome : Outcome) (now : Time) : Monitor :=
  let circuit := breaker.leave m.circuit outcome now
  { m with
    circuit := circuit
    log := .finished call (outcome = .failure ∧ circuit.state = .opened)
      (m.circuit.state = .opened ∧ circuit.state = .closed) :: m.log }

/-- What an event makes of the calls; a call that is not in flight does not finish. -/
def apply (m : Monitor) : Event → Monitor
  | .start now => breaker.start m now
  | .finish call outcome now =>
      match inFlight? m.log call with
      | none => m
      | some _ => breaker.finish m call outcome now

def runEvents (m : Monitor) (events : List Event) : Monitor := events.foldl breaker.apply m

end CircuitBreaker

/-- Finishing does no harm: the call was let in after the breaker last opened, or there is
no trial in flight, and the call does not succeed while the breaker is open. -/
def Harmless (m : Monitor) : Event → Prop
  | .start _ => True
  | .finish call outcome _ => inFlight? m.log call ≠ none → SinceOpening m.log call ∨
      ¬ OnTrial m.log ∧ (outcome = .success → m.circuit.state ≠ .opened)

/-- Every event of the run does no harm when it happens. -/
def HarmlessRun (breaker : CircuitBreaker) : Monitor → List Event → Prop
  | _, [] => True
  | m, event :: events => Harmless m event ∧ HarmlessRun breaker (breaker.apply m event) events

/-! ## The invariant -/

/-- The circuit agrees with the log: a trial that is in flight holds the flag of an open
breaker, and is the only call in flight that was let in since the breaker opened. -/
structure Consistent (m : Monitor) : Prop where
  orderly : Orderly m.log
  state : m.circuit.state ≠ .halfOpen
  since : m.circuit.state = .opened → m.circuit.openedAt ≠ none
  flagged : ∀ call, inFlight? m.log call = some true → m.circuit.state = .opened ∧
    m.circuit.halfOpenTrialInFlight = true ∧ SinceOpening m.log call
  only : ∀ call call', inFlight? m.log call = some true → inFlight? m.log call' = some true →
    call = call'
  trials : m.circuit.state = .opened → ∀ call, inFlight? m.log call ≠ none →
    SinceOpening m.log call → inFlight? m.log call = some true

theorem consistent_initial : Consistent {} := by
  refine ⟨trivial, nofun, nofun, nofun, nofun, nofun⟩

section Steps

variable {breaker : CircuitBreaker} {m : Monitor}

theorem inFlight?_admitted (log : Log) (call other : Nat) (trial : Bool) :
    inFlight? (.admitted other trial :: log) call
      = if other = call then some trial else inFlight? log call := rfl

theorem inFlight?_finished (log : Log) (call other : Nat) (opens closes : Bool) :
    inFlight? (.finished other opens closes :: log) call
      = if other = call then none else inFlight? log call := rfl

/-- How the circuit lets a call in: it is closed, or this is the only trial. -/
theorem enter_cases {circuit circuit' : Circuit} {now : Time} (coded : circuit.state ≠ .halfOpen)
    (entered : breaker.enter circuit now = .ok circuit') :
    circuit.state = .closed ∧ breaker.state circuit now = .closed ∧ circuit' = circuit ∨
      circuit.state = .opened ∧ breaker.state circuit now = .halfOpen ∧
        circuit.halfOpenTrialInFlight = false ∧
        circuit' = { circuit with halfOpenTrialInFlight := true } := by
  have closed_of : breaker.state circuit now = .closed → circuit.state = .closed := by
    intro seen
    rw [CircuitBreaker.state] at seen
    split at seen
    next =>
      split at seen
      next => cases seen
      next => cases seen
    next => exact seen
  have opened_of : breaker.state circuit now = .halfOpen → circuit.state = .opened := by
    intro seen
    rw [CircuitBreaker.state] at seen
    split at seen
    next was _ => exact was
    next => exact absurd seen coded
  rw [CircuitBreaker.enter] at entered
  split at entered
  next => cases entered
  next seen =>
    split at entered
    next => cases entered
    next free =>
      cases entered
      exact .inr ⟨opened_of seen, seen, Bool.eq_false_of_not_eq_true free, rfl⟩
  next seen =>
    cases entered
    exact .inl ⟨closed_of seen, seen, rfl⟩

theorem Consistent.start (consistent : Consistent m) (now : Time) :
    Consistent (breaker.start m now) := by
  rw [CircuitBreaker.start]
  cases entered : breaker.enter m.circuit now with
  | error message =>
      exact ⟨consistent.orderly, consistent.state, consistent.since, consistent.flagged,
        consistent.only, consistent.trials⟩
  | ok circuit =>
      rcases enter_cases consistent.state entered with
        ⟨closed, seen, rfl⟩ | ⟨opened, seen, free, rfl⟩
      · have idle : ¬ OnTrial m.log := by
          rintro ⟨call, trial⟩
          have := (consistent.flagged call trial).1
          rw [closed] at this
          cases this
        have plain : ∀ call, inFlight? (.admitted m.started
            (decide (breaker.state m.circuit now = .halfOpen)) :: m.log) call ≠ some true := by
          intro call trial
          rw [inFlight?_admitted, seen] at trial
          split at trial
          next => cases trial
          next => exact idle ⟨call, trial⟩
        refine ⟨⟨idle, consistent.orderly⟩, consistent.state, consistent.since, ?_, ?_, ?_⟩
        · exact fun call trial => absurd trial (plain call)
        · exact fun call call' trial => absurd trial (plain call)
        · intro opened
          rw [closed] at opened
          cases opened
      · have idle : ¬ OnTrial m.log := by
          rintro ⟨call, trial⟩
          have := (consistent.flagged call trial).2.1
          rw [free] at this
          cases this
        have mine : ∀ call, inFlight? (.admitted m.started
            (decide (breaker.state m.circuit now = .halfOpen)) :: m.log) call = some true →
            m.started = call := by
          intro call trial
          by_contra other
          rw [inFlight?_admitted, if_neg other] at trial
          exact idle ⟨call, trial⟩
        refine ⟨⟨idle, consistent.orderly⟩, consistent.state, consistent.since, ?_, ?_, ?_⟩
        · exact fun call trial => ⟨opened, rfl, .inl (mine call trial)⟩
        · exact fun call call' trial trial' => (mine call trial).symm.trans (mine call' trial')
        · intro _ call flying since
          rw [inFlight?_admitted] at flying ⊢
          by_cases here : m.started = call
          · rw [if_pos here, seen]
            rfl
          · rw [if_neg here] at flying ⊢
            exact consistent.trials opened call flying (since.resolve_left here)

/-- What finishing leaves: an open circuit only where it was open before or opens. -/
theorem leave_cases (breaker : CircuitBreaker) (circuit : Circuit) (outcome : Outcome) (now : Time)
    (coded : circuit.state ≠ .halfOpen) (since : circuit.state = .opened → circuit.openedAt ≠ none) :
    (breaker.leave circuit outcome now).state ≠ .halfOpen ∧
      ((breaker.leave circuit outcome now).state = .opened →
        (breaker.leave circuit outcome now).openedAt ≠ none ∧
          (outcome = .failure ∨ outcome = .cancelled ∧ circuit.state = .opened)) ∧
      ((breaker.leave circuit outcome now).state = .closed → circuit.state = .opened →
        outcome = .success) := by
  cases outcome with
  | success =>
      have closed : (breaker.leave circuit .success now).state = .closed := rfl
      rw [closed]
      refine ⟨by simp, fun opened => ?_, fun _ _ => rfl⟩
      cases opened
  | failure =>
      rw [CircuitBreaker.leave, CircuitBreaker.onFailure]
      dsimp only
      split
      next =>
        refine ⟨by simp, fun _ => ⟨by simp, .inl rfl⟩, fun closed => ?_⟩
        cases closed
      next few =>
        refine ⟨coded, fun opened => absurd (.inr opened) few, fun _ opened => ?_⟩
        exact absurd (.inr opened) few
  | cancelled =>
      rw [CircuitBreaker.leave]
      refine ⟨coded, fun opened => ⟨since opened, .inr ⟨rfl, opened⟩⟩, fun closed opened => ?_⟩
      dsimp only at closed
      rw [opened] at closed
      cases closed

theorem Consistent.finish (consistent : Consistent m) {call : Nat} {outcome : Outcome} {now : Time}
    (flying : inFlight? m.log call ≠ none) (harmless : Harmless m (.finish call outcome now)) :
    Consistent (breaker.finish m call outcome now) := by
  obtain ⟨coded, opened_of, closed_of⟩ := leave_cases breaker m.circuit outcome now
    consistent.state consistent.since
  have last : ∀ other, inFlight? (breaker.finish m call outcome now).log other ≠ some true := by
    intro other trial
    rw [CircuitBreaker.finish] at trial
    dsimp only at trial
    rw [inFlight?_finished] at trial
    split at trial
    next => cases trial
    next different =>
      rcases harmless flying with since | ⟨idle, -⟩
      · have mine := consistent.trials (consistent.flagged other trial).1 call flying since
        exact different (consistent.only call other mine trial)
      · exact idle ⟨other, trial⟩
  refine ⟨⟨fun closes => ?_, consistent.orderly⟩, coded, fun opened => (opened_of opened).1,
    fun other trial => absurd trial (last other), fun other _ trial => absurd trial (last other), ?_⟩
  · obtain ⟨opened, closed⟩ := of_decide_eq_true closes
    rcases harmless flying with since | ⟨-, fails⟩
    · exact since
    · exact absurd opened (fails (closed_of closed opened))
  · intro opened other flying' since'
    rw [CircuitBreaker.finish] at flying' since'
    dsimp only at flying' since'
    obtain ⟨kept, since⟩ := since'
    rcases (opened_of opened).2 with failed | ⟨-, was⟩
    · exact absurd ⟨failed, opened⟩ (of_decide_eq_false kept)
    · rw [inFlight?_finished] at flying'
      split at flying'
      next => exact absurd rfl flying'
      next different =>
        have trial := consistent.trials was other flying' since
        exact absurd (by
          rw [CircuitBreaker.finish]
          dsimp only
          rw [inFlight?_finished, if_neg different, trial]) (last other)

theorem Consistent.apply (consistent : Consistent m) {event : Event} (harmless : Harmless m event) :
    Consistent (breaker.apply m event) := by
  cases event with
  | start now => exact consistent.start now
  | finish call outcome now =>
      rw [CircuitBreaker.apply]
      split
      next => exact consistent
      next flying => exact consistent.finish (by rw [flying]; nofun) harmless

theorem Consistent.run (consistent : Consistent m) {events : List Event}
    (harmless : HarmlessRun breaker m events) : Consistent (breaker.runEvents m events) := by
  induction events generalizing m with
  | nil => exact consistent
  | cons event events ih => exact ih (consistent.apply harmless.1) harmless.2

end Steps

/-! ## Harm -/

theorem Orderly.tail {entry : Entry} {log : Log} (orderly : Orderly (entry :: log)) : Orderly log := by
  cases entry with
  | admitted call trial => exact orderly.2
  | rejected call => exact orderly
  | finished call opens closes => exact orderly.2

/-- Starting a call never makes a log orderly. -/
theorem orderly_of_start {breaker : CircuitBreaker} {m : Monitor} {now : Time}
    (orderly : Orderly (breaker.start m now).log) : Orderly m.log := by
  rw [CircuitBreaker.start] at orderly
  split at orderly
  next => exact orderly.tail
  next => exact orderly.tail

/-- An open circuit without the flag lets a call in once it has recovered. -/
theorem enter_recovered (breaker : CircuitBreaker) {circuit : Circuit} {openedAt now : Time}
    (opened : circuit.state = .opened) (since : circuit.openedAt = some openedAt)
    (free : circuit.halfOpenTrialInFlight = false)
    (recovered : openedAt + breaker.recoveryTimeout ≤ now) :
    ∃ circuit', breaker.enter circuit now = .ok circuit' := by
  have seen : breaker.state circuit now = .halfOpen := by
    rw [CircuitBreaker.state, opened, since]
    exact if_pos (Int.le_sub_left_of_add_le recovered)
  exact ⟨_, by rw [CircuitBreaker.enter, seen, free]; rfl⟩

/-- A call that does harm when it finishes has done so at the latest when the next call
comes. -/
theorem Consistent.harm {breaker : CircuitBreaker} {m : Monitor} (consistent : Consistent m)
    {call : Nat} {outcome : Outcome} {now : Time}
    (harmful : ¬ Harmless m (.finish call outcome now)) :
    ∃ later, now ≤ later ∧
      ¬ Orderly (breaker.runEvents m [.finish call outcome now, .start later]).log := by
  obtain ⟨flying, harmful⟩ := Classical.not_imp.mp harmful
  obtain ⟨stale, harmful⟩ := not_or.mp harmful
  have ran : ∀ later, breaker.runEvents m [.finish call outcome now, .start later]
      = breaker.start (breaker.finish m call outcome now) later := by
    intro later
    have finished : breaker.apply m (.finish call outcome now) = breaker.finish m call outcome now := by
      rw [CircuitBreaker.apply]
      split
      next landed => exact absurd landed flying
      next => rfl
    rw [CircuitBreaker.runEvents, List.foldl_cons, finished]
    rfl
  simp only [ran]
  have closing : outcome = .success → m.circuit.state = .opened →
      ¬ Orderly (breaker.finish m call outcome now).log := by
    rintro rfl opened ⟨closes, -⟩
    exact stale (closes (decide_eq_true ⟨opened, rfl⟩))
  by_cases trial : OnTrial m.log
  · obtain ⟨other, trial⟩ := trial
    obtain ⟨opened, -, since⟩ := consistent.flagged other trial
    have different : call ≠ other := by
      rintro rfl
      exact stale since
    have reopens : ∀ openedAt, (breaker.leave m.circuit outcome now).state = .opened →
        (breaker.leave m.circuit outcome now).openedAt = some openedAt →
        ∃ later, now ≤ later ∧
          ¬ Orderly (breaker.start (breaker.finish m call outcome now) later).log := by
      intro openedAt still since'
      obtain ⟨circuit, entered⟩ := enter_recovered breaker still since' rfl
        (le_max_right now (openedAt + breaker.recoveryTimeout))
      refine ⟨_, le_max_left now (openedAt + breaker.recoveryTimeout), fun orderly => ?_⟩
      rw [CircuitBreaker.start] at orderly
      have entered' : breaker.enter (breaker.finish m call outcome now).circuit
          (max now (openedAt + breaker.recoveryTimeout)) = .ok circuit := entered
      rw [entered'] at orderly
      refine orderly.1 ⟨other, ?_⟩
      rw [CircuitBreaker.finish]
      dsimp only
      rw [inFlight?_finished, if_neg different, trial]
    cases outcome with
    | success =>
        exact ⟨now, le_rfl, fun orderly => closing rfl opened (orderly_of_start orderly)⟩
    | failure =>
        refine reopens now ?_ ?_
        · rw [CircuitBreaker.leave, CircuitBreaker.onFailure]
          dsimp only
          rw [if_pos (.inr opened)]
        · rw [CircuitBreaker.leave, CircuitBreaker.onFailure]
          dsimp only
          rw [if_pos (.inr opened)]
    | cancelled =>
        obtain ⟨openedAt, since'⟩ := Option.ne_none_iff_exists'.mp (consistent.since opened)
        exact reopens openedAt opened since'
  · have succeeds : outcome = .success ∧ m.circuit.state = .opened := by
      by_contra other
      exact harmful ⟨trial, fun success opened => other ⟨success, opened⟩⟩
    exact ⟨now, le_rfl, fun orderly =>
      closing succeeds.1 succeeds.2 (orderly_of_start orderly)⟩

/-- Runs in which finishing does no harm are orderly, and where it first does, the run is
not orderly after one more call at the latest. -/
theorem half_open_trials (breaker : CircuitBreaker) :
    (∀ events, HarmlessRun breaker {} events → Orderly (breaker.runEvents {} events).log) ∧
    ∀ events call outcome now, HarmlessRun breaker {} events →
      ¬ Harmless (breaker.runEvents {} events) (.finish call outcome now) →
        ∃ later, now ≤ later ∧ ¬ Orderly (breaker.runEvents {}
          (events ++ [.finish call outcome now, .start later])).log := by
  refine ⟨fun events harmless => (consistent_initial.run harmless).orderly, ?_⟩
  intro events call outcome now harmless harmful
  obtain ⟨later, after, disorder⟩ := (consistent_initial.run harmless).harm harmful
  refine ⟨later, after, ?_⟩
  rw [CircuitBreaker.runEvents, List.foldl_append]
  exact disorder

namespace Fixture

/-- Six calls start, and five of them fail after a second. Half a minute later a trial
starts. -/
def trialRun : List Event :=
  List.replicate 6 (.start 0) ++
    [.finish 0 .failure (seconds 1), .finish 1 .failure (seconds 1), .finish 2 .failure (seconds 1),
      .finish 3 .failure (seconds 1), .finish 4 .failure (seconds 1), .start (seconds 31)]

/-- A trial and what comes before it are orderly. -/
theorem trial_orderly : Orderly (razorpay.runEvents {} trialRun).log := by
  refine (half_open_trials razorpay).1 trialRun ?_
  simp only [trialRun, HarmlessRun, List.replicate, List.cons_append, List.nil_append, Harmless]
  refine ⟨trivial, trivial, trivial, trivial, trivial, trivial, ?_⟩
  refine ⟨fun _ => .inl (by decide), fun _ => .inl (by decide), fun _ => .inl (by decide),
    fun _ => .inl (by decide), fun _ => .inl (by decide), trivial, trivial⟩

/-- The sixth call fails while the trial is in flight, and half a minute later a second
trial is let in. -/
theorem second_trial : ¬ Orderly (razorpay.runEvents {}
    (trialRun ++ [.finish 5 .failure (seconds 32), .start (seconds 62)])).log := by
  intro orderly
  have log : (razorpay.runEvents {}
      (trialRun ++ [.finish 5 .failure (seconds 32), .start (seconds 62)])).log
        = .admitted 7 true :: (razorpay.runEvents {}
          (trialRun ++ [.finish 5 .failure (seconds 32)])).log := by decide
  rw [log] at orderly
  exact orderly.1 ⟨6, by decide⟩

end Fixture

end Actl.Breaker
