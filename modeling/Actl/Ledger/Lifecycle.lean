import Actl.Foundation.Program
import Actl.Ledger.Phases
import Actl.Fixture

/-!
# The lifecycle of a reference

What is posted for a reference over any run of the ledger: one reservation pair,
then at most one pair that captures, releases or expires it, and a reverse pair
only behind a capture (`Lifecycle`). The state that the code derives from the
reference types is read off this history, so it moves along one edge at most and
never leaves a final state, and an operation that succeeded finds on every later
repetition that there is nothing left to do.

Nothing is asked of the arguments the operations are called with. The sweeper
looks at a candidate before it locks the mandate; what it saw then is an argument
of its step here, and can be anything.
-/

set_option autoImplicit false

namespace Actl.Ledger

open Foundation (bind_eq_ok)

/-! ## Calls -/

/-- One candidate of `sweep`, with the entries that were seen before the mandate
row was locked. -/
def sweepCandidate (P : Platform) (db : Database) (scanned : List LedgerEntryRecord)
    (now : Nat → Time) (traceId refId : String) : Except Failure (Bool × Database) :=
  if stateOf scanned ≠ some .held then .ok (false, db)
  else
    match scanned.find? fun e => e.refType = .reservation ∧ e.direction = .debit with
    | none => .error .stopIteration
    | some entry =>
        let mandateId := mandateIdFromAccount entry.account
        match db.getMandate mandateId with
        | none => .ok (false, db)
        | some _ =>
            if stateOf (db.listForRefId refId) ≠ some .held then .ok (false, db)
            else
              let db := addMovements db (releaseMovements mandateId entry.amountMinor) .expire
                refId now
              .ok (true, db.appendEntry P traceId "system" "sweeper" .reservationExpired
                (.ofStrings [("mandate_id", mandateId), ("ref_id", refId)])
                (.obj [("mandate_id", .str mandateId), ("ref_id", .str refId),
                  ("amount_minor", .int entry.amountMinor)]))

/-- Looked at and locked at once, a candidate is swept as in `sweepReservation`. -/
theorem sweepReservation_eq (P : Platform) (db : Database) (now : Nat → Time)
    (traceId refId : String) :
    sweepReservation P db now traceId refId =
      sweepCandidate P db (db.listForRefId refId) now traceId refId := by
  by_cases held : stateOf (db.listForRefId refId) = some .held
  · cases reserved : (db.listForRefId refId).find? fun e =>
        e.refType = .reservation ∧ e.direction = .debit with
    | none => simp only [sweepReservation, sweepCandidate, held, reserved]
    | some entry =>
        cases found : db.getMandate (mandateIdFromAccount entry.account) with
        | none => simp only [sweepReservation, sweepCandidate, held, reserved, found]
        | some row =>
            simp only [sweepReservation, sweepCandidate, held, reserved, found, ne_eq,
              not_true_eq_false, if_false]
  · simp [sweepReservation, sweepCandidate, held]

inductive Call where
  | reserve (mandateId : String) (amountMinor maxTotalMinor : Int) (refId : String)
  | capture (mandateId : String) (amountMinor : Int) (refId : String)
  | release (mandateId : String) (amountMinor : Int) (refId : String)
  | reverseSettlement (mandateId : String) (amountMinor : Int) (refId : String)
  | sweepCandidate (scanned : List LedgerEntryRecord) (refId : String)
  | sweep (reservationTtlS : Int)

inductive Outcome where
  | reservation (reservation : Option Reservation)
  | posted (done : Bool)
  | swept (refIds : List String)
  | raised (failure : Failure)
  deriving DecidableEq

/-- The values that callers take for success. -/
def Outcome.Succeeded (outcome : Outcome) : Prop :=
  outcome = .posted true ∨ ∃ reservation, outcome = .reservation (some reservation)

/-- The operations that are called for one reference. -/
def Call.isFor (refId : String) : Call → Prop
  | .reserve _ _ _ ref | .capture _ _ ref | .release _ _ ref | .reverseSettlement _ _ ref =>
      ref = refId
  | .sweepCandidate .. | .sweep _ => False

/-- What the environment supplies to a call: clock readings and trace ids. -/
structure Supply where
  now : Nat → Nat → Time
  traceId : Nat → String

/-- A call in a transaction of its own, which commits unless the call raises. -/
def Call.perform (P : Platform) (supply : Supply) (db : Database) : Call → Outcome × Database
  | .reserve mandateId amountMinor maxTotalMinor refId =>
      let result := Ledger.reserve db (supply.now 0) mandateId amountMinor maxTotalMinor refId
      (.reservation result.1, result.2)
  | .capture mandateId amountMinor refId =>
      let result := Ledger.capture db (supply.now 0) mandateId amountMinor refId
      (.posted result.1, result.2)
  | .release mandateId amountMinor refId =>
      let result := Ledger.release db (supply.now 0) mandateId amountMinor refId
      (.posted result.1, result.2)
  | .reverseSettlement mandateId amountMinor refId =>
      let result := Ledger.reverseSettlement db (supply.now 0) mandateId amountMinor refId
      (.posted result.1, result.2)
  | .sweepCandidate scanned refId =>
      match Ledger.sweepCandidate P db scanned (supply.now 0) (supply.traceId 0) refId with
      | .ok (expired, db) => (.swept (if expired then [refId] else []), db)
      | .error failure => (.raised failure, db)
  | .sweep reservationTtlS =>
      match Ledger.sweep P supply.now supply.traceId reservationTtlS db with
      | .ok (swept, db) => (.swept swept, db)
      | .error failure => (.raised failure, db)

/-- The store after calls, one after another. -/
def runCalls (P : Platform) (db : Database) (calls : List (Call × Supply)) : Database :=
  calls.foldl (fun db (call, supply) => (call.perform P supply db).2) db

/-! ## Histories -/

/-- The pair of entries of one movement. -/
def entryPair (source target : Bucket) (mandateId : String) (amountMinor : Int) (refType : RefType)
    (refId : String) (first second : Time) : List LedgerEntryRecord :=
  [⟨account mandateId source, .credit, amountMinor, refType, refId, first⟩,
    ⟨account mandateId target, .debit, amountMinor, refType, refId, second⟩]

/-- How the entries of a reference come about, pair by pair, and the phase they
leave it in. -/
inductive Lifecycle (refId : String) : Option Phase → List LedgerEntryRecord → Prop where
  | absent : Lifecycle refId none []
  | reserve (mandateId : String) (amountMinor : Int) (first second : Time) :
      Lifecycle refId (some .held)
        (entryPair .available .reserved mandateId amountMinor .reservation refId first second)
  | capture {entries : List LedgerEntryRecord} (held : Lifecycle refId (some .held) entries)
      (mandateId : String) (amountMinor : Int) (first second : Time) :
      Lifecycle refId (some .captured)
        (entries ++ entryPair .reserved .settled mandateId amountMinor .capture refId first second)
  | release {entries : List LedgerEntryRecord} (held : Lifecycle refId (some .held) entries)
      (mandateId : String) (amountMinor : Int) (first second : Time) :
      Lifecycle refId (some .released)
        (entries ++ entryPair .reserved .available mandateId amountMinor .release refId first second)
  | expire {entries : List LedgerEntryRecord} (held : Lifecycle refId (some .held) entries)
      (mandateId : String) (amountMinor : Int) (first second : Time) :
      Lifecycle refId (some .expired)
        (entries ++ entryPair .reserved .available mandateId amountMinor .expire refId first second)
  | reverse {entries : List LedgerEntryRecord} (captured : Lifecycle refId (some .captured) entries)
      (mandateId : String) (amountMinor : Int) (first second : Time) :
      Lifecycle refId (some .reversed)
        (entries ++ entryPair .settled .available mandateId amountMinor .reverse refId first second)

/-- The reference types of each phase. -/
def typesOf : Option Phase → List RefType
  | none => []
  | some .held => [.reservation, .reservation]
  | some .captured => [.reservation, .reservation, .capture, .capture]
  | some .released => [.reservation, .reservation, .release, .release]
  | some .expired => [.reservation, .reservation, .expire, .expire]
  | some .reversed =>
      [.reservation, .reservation, .capture, .capture, .reverse, .reverse]

theorem phaseOfTypes_typesOf (phase : Option Phase) : phaseOfTypes (typesOf phase) = phase := by
  cases phase with
  | none => rfl
  | some phase => cases phase <;> rfl

/-- The types that a history has posted. -/
theorem Lifecycle.types {refId : String} {phase : Option Phase}
    {entries : List LedgerEntryRecord} (lifecycle : Lifecycle refId phase entries) :
    entries.map LedgerEntryRecord.refType = typesOf phase := by
  induction lifecycle with
  | absent => rfl
  | reserve => rfl
  | capture held _ _ _ _ ih => rw [List.map_append, ih]; rfl
  | release held _ _ _ _ ih => rw [List.map_append, ih]; rfl
  | expire held _ _ _ _ ih => rw [List.map_append, ih]; rfl
  | reverse captured _ _ _ _ ih => rw [List.map_append, ih]; rfl

/-- Every reference has a history. -/
def Living (db : Database) : Prop :=
  ∀ refId, Lifecycle refId (phaseOf db refId) (db.listForRefId refId)

theorem living_of_empty {db : Database} (empty : db.ledgerEntries = []) : Living db := by
  intro refId
  have none : db.listForRefId refId = [] := by simp [Database.listForRefId, empty]
  have phase : phaseOf db refId = Option.none := by
    rw [phaseOf, refTypes, none]
    rfl
  rw [none, phase]
  exact .absent

theorem Living.congr {db db' : Database} (living : Living db)
    (same : db'.ledgerEntries = db.ledgerEntries) : Living db' := by
  intro refId
  have entries : db'.listForRefId refId = db.listForRefId refId := by
    rw [Database.listForRefId, same]
    rfl
  rw [phaseOf_congr same, entries]
  exact living refId

theorem Living.refTypes_eq {db : Database} (living : Living db) (refId : String) :
    refTypes db refId = typesOf (phaseOf db refId) := (living refId).types

theorem Living.absent_iff {db : Database} (living : Living db) {refId : String} :
    phaseOf db refId = none ↔ db.listForRefId refId = [] := by
  constructor
  · intro absent
    have types := living.refTypes_eq refId
    rw [absent, refTypes] at types
    exact List.map_eq_nil_iff.mp types
  · intro empty
    rw [phaseOf, refTypes, empty]
    rfl

/-! ## Progress -/

/-- The edges along which a phase moves. -/
inductive Edge : Option Phase → Option Phase → Prop where
  | stay (phase : Option Phase) : Edge phase phase
  | reserve : Edge none (some .held)
  | capture : Edge (some .held) (some .captured)
  | release : Edge (some .held) (some .released)
  | expire : Edge (some .held) (some .expired)
  | reverse : Edge (some .captured) (some .reversed)

/-- Every reference keeps its history and moves along one edge at most, and no
mandate row comes or goes. -/
structure Progress (db db' : Database) : Prop where
  living : Living db'
  edge : ∀ refId, Edge (phaseOf db refId) (phaseOf db' refId)
  mandates : db'.mandates = db.mandates

theorem Progress.refl {db : Database} (living : Living db) : Progress db db :=
  ⟨living, fun _ => .stay _, rfl⟩

section Posting

variable {db : Database} {source target : Bucket} {mandateId : String} {amountMinor : Int}
variable {refType : RefType} {refId : String} {now : Nat → Time}

theorem listForRefId_addMovements (ref : String) :
    (addMovements db (movements source target mandateId amountMinor) refType refId now).listForRefId
        ref =
      db.listForRefId ref ++ if ref = refId then
        entryPair source target mandateId amountMinor refType refId (now 0) (now 1) else [] := by
  by_cases mine : ref = refId
  · simp [Database.listForRefId, addMovements, movements, entryPair, mine]
  · have other : ¬ refId = ref := fun same => mine same.symm
    simp [Database.listForRefId, addMovements, movements, mine, other]

/-- The phases after a pair that continues the history of its reference. -/
theorem phaseOf_post {phase : Option Phase}
    (continues : Lifecycle refId phase (db.listForRefId refId ++
      entryPair source target mandateId amountMinor refType refId (now 0) (now 1))) (ref : String) :
    phaseOf (addMovements db (movements source target mandateId amountMinor) refType refId now)
      ref = if ref = refId then phase else phaseOf db ref := by
  split
  next mine =>
    rw [phaseOf, refTypes, listForRefId_addMovements, if_pos mine, mine, continues.types,
      phaseOfTypes_typesOf]
  next other => exact phaseOf_addMovements_of_ne _ _ _ _ _ _ _ _ other

/-- A pair that continues the history of its reference. -/
theorem Living.post (living : Living db) {phase : Option Phase}
    (continues : Lifecycle refId phase (db.listForRefId refId ++
      entryPair source target mandateId amountMinor refType refId (now 0) (now 1)))
    (edge : Edge (phaseOf db refId) phase) :
    Progress db
      (addMovements db (movements source target mandateId amountMinor) refType refId now) := by
  refine ⟨fun ref => ?_, fun ref => ?_, rfl⟩
  · rw [listForRefId_addMovements, phaseOf_post continues]
    split
    next mine => rw [mine]; exact continues
    next other => rw [List.append_nil]; exact living ref
  · rw [phaseOf_post continues]
    split
    next mine => rw [mine]; exact edge
    next other => exact .stay _

end Posting

/-! ### The operations -/

section Operations

variable {db : Database} (living : Living db) (now : Nat → Time) (mandateId refId : String)
variable (amountMinor : Int)

include living

theorem reserve_progress (maxTotalMinor : Int) :
    Progress db (reserve db now mandateId amountMinor maxTotalMinor refId).2 := by
  rw [reserve]
  split
  next => exact .refl living
  next =>
    dsimp only
    split
    next => exact .refl living
    next fresh =>
      split
      next => exact .refl living
      next =>
        have empty : db.listForRefId refId = [] := not_not.mp fresh
        have opens : Lifecycle refId (some .held) (db.listForRefId refId ++ entryPair .available
            .reserved mandateId amountMinor .reservation refId (now 0) (now 1)) := by
          rw [empty]
          exact .reserve ..
        refine living.post opens ?_
        rw [living.absent_iff.mpr empty]
        exact .reserve

/-- The history of a reference that the code finds held. -/
theorem held_lifecycle (held : stateOfRef db refId = some .held) :
    phaseOf db refId = some .held ∧ Lifecycle refId (some .held) (db.listForRefId refId) := by
  have phase := stateOfRef_eq_held.mp held
  have history := living refId
  rw [phase] at history
  exact ⟨phase, history⟩

theorem capture_progress : Progress db (capture db now mandateId amountMinor refId).2 := by
  rw [capture]
  split
  next => exact .refl living
  next =>
    split
    next => exact .refl living
    next state =>
      obtain ⟨phase, history⟩ := held_lifecycle living refId state
      refine living.post (.capture history ..) ?_
      rw [phase]
      exact .capture
    next => exact .refl living

theorem release_progress : Progress db (release db now mandateId amountMinor refId).2 := by
  rw [release]
  split
  next => exact .refl living
  next =>
    split
    next => exact .refl living
    next state =>
      obtain ⟨phase, history⟩ := held_lifecycle living refId state
      refine living.post (.release history ..) ?_
      rw [phase]
      exact .release
    next => exact .refl living

/-- A reference with a capture pair and no reverse pair is captured. -/
theorem captured_lifecycle (captured : .capture ∈ refTypes db refId)
    (unreversed : .reverse ∉ refTypes db refId) :
    phaseOf db refId = some .captured ∧
      Lifecycle refId (some .captured) (db.listForRefId refId) := by
  have history := living refId
  rw [living.refTypes_eq] at captured unreversed
  cases phase : phaseOf db refId with
  | none => simp [phase, typesOf] at captured
  | some p =>
      rw [phase] at history captured unreversed
      cases p with
      | captured => exact ⟨rfl, history⟩
      | held => simp [typesOf] at captured
      | released => simp [typesOf] at captured
      | expired => simp [typesOf] at captured
      | reversed => simp [typesOf] at unreversed

/-- A reference with a reverse pair is reversed. -/
theorem phaseOf_of_reverse_mem (reversed : .reverse ∈ refTypes db refId) :
    phaseOf db refId = some .reversed := by
  rw [living.refTypes_eq] at reversed
  cases phase : phaseOf db refId with
  | none => simp [phase, typesOf] at reversed
  | some p =>
      rw [phase] at reversed
      cases p with
      | reversed => rfl
      | captured => simp [typesOf] at reversed
      | held => simp [typesOf] at reversed
      | released => simp [typesOf] at reversed
      | expired => simp [typesOf] at reversed

theorem reverseSettlement_progress :
    Progress db (reverseSettlement db now mandateId amountMinor refId).2 := by
  rw [reverseSettlement]
  split
  next => exact .refl living
  next =>
    dsimp only
    split
    next => exact .refl living
    next unreversed =>
      split
      next captured =>
        obtain ⟨phase, history⟩ := captured_lifecycle living refId captured unreversed
        refine living.post (.reverse history ..) ?_
        rw [phase]
        exact .reverse
      next => exact .refl living

/-- What a sweep does to one reference: it expires a hold, or nothing. -/
theorem sweepCandidate_progress {P : Platform} {scanned : List LedgerEntryRecord}
    {traceId : String} {expired : Bool} {db' : Database}
    (done : sweepCandidate P db scanned now traceId refId = .ok (expired, db')) :
    Progress db db' ∧ ∀ ref, phaseOf db' ref = phaseOf db ref ∨
      phaseOf db ref = some .held ∧ phaseOf db' ref = some .expired := by
  rw [sweepCandidate] at done
  split at done
  next =>
    cases done
    exact ⟨.refl living, fun _ => .inl rfl⟩
  next =>
    split at done
    next => cases done
    next entry _ =>
      dsimp only at done
      split at done
      next =>
        cases done
        exact ⟨.refl living, fun _ => .inl rfl⟩
      next =>
        split at done
        next =>
          cases done
          exact ⟨.refl living, fun _ => .inl rfl⟩
        next state =>
          cases done
          obtain ⟨phase, history⟩ := held_lifecycle living refId (not_not.mp state)
          have continues := history.expire (mandateIdFromAccount entry.account)
            entry.amountMinor (now 0) (now 1)
          have progress := living.post continues (by rw [phase]; exact .expire)
          refine ⟨⟨progress.living.congr rfl, progress.edge, rfl⟩, fun ref => ?_⟩
          have after := @phaseOf_post db _ _ _ _ _ refId now _ continues ref
          split at after
          next mine => exact .inr ⟨mine ▸ phase, after⟩
          next => exact .inl after

end Operations

/-- The loop of the sweeper expires holds and does nothing else. -/
theorem sweepAll_progress (P : Platform) (now : Nat → Nat → Time) (traceId : Nat → String)
    {refIds : List String} {i : Nat} {db db' : Database} {swept : List String}
    (living : Living db) (done : sweepAll P now traceId i refIds db = .ok (swept, db')) :
    Living db' ∧ db'.mandates = db.mandates ∧ ∀ ref, phaseOf db' ref = phaseOf db ref ∨
      phaseOf db ref = some .held ∧ phaseOf db' ref = some .expired := by
  induction refIds generalizing i db swept with
  | nil =>
      cases done
      exact ⟨living, rfl, fun _ => .inl rfl⟩
  | cons refId refIds ih =>
      rw [sweepAll, bind_eq_ok] at done
      obtain ⟨⟨expired, middle⟩, first, rest⟩ := done
      dsimp only at rest
      rw [bind_eq_ok] at rest
      obtain ⟨⟨later, final⟩, others, rest⟩ := rest
      cases rest
      rw [sweepReservation_eq] at first
      obtain ⟨progress, phases⟩ := sweepCandidate_progress living (now i) refId first
      obtain ⟨living', mandates, phases'⟩ := ih progress.living others
      refine ⟨living', mandates.trans progress.mandates, fun ref => ?_⟩
      rcases phases ref with same | ⟨held, gone⟩
      · rw [← same]
        exact phases' ref
      · rcases phases' ref with same' | ⟨held', _⟩
        · exact .inr ⟨held, same'.trans gone⟩
        · rw [gone] at held'
          cases held'

theorem sweep_progress {P : Platform} {now : Nat → Nat → Time} {traceId : Nat → String}
    {reservationTtlS : Int} {db db' : Database} {swept : List String} (living : Living db)
    (done : sweep P now traceId reservationTtlS db = .ok (swept, db')) : Progress db db' := by
  obtain ⟨_, _, all⟩ := bind_eq_ok.mp done
  obtain ⟨living', mandates, phases⟩ := sweepAll_progress P _ traceId living all
  refine ⟨living', fun ref => ?_, mandates⟩
  rcases phases ref with same | ⟨held, expired⟩
  · rw [same]
    exact .stay _
  · rw [held, expired]
    exact .expire

/-- Every call is progress. -/
theorem Call.progress (P : Platform) (supply : Supply) {db : Database} (living : Living db)
    (call : Call) : Progress db (call.perform P supply db).2 := by
  cases call with
  | reserve mandateId amountMinor maxTotalMinor refId =>
      exact reserve_progress living _ _ _ _ _
  | capture mandateId amountMinor refId => exact capture_progress living _ _ _ _
  | release mandateId amountMinor refId => exact release_progress living _ _ _ _
  | reverseSettlement mandateId amountMinor refId =>
      exact reverseSettlement_progress living _ _ _ _
  | sweepCandidate scanned refId =>
      rw [Call.perform]
      split
      next expired db' done => exact (sweepCandidate_progress living _ refId done).1
      next => exact .refl living
  | sweep reservationTtlS =>
      rw [Call.perform]
      split
      next swept db' done => exact sweep_progress living done
      next => exact .refl living

/-! ## Runs -/

section Runs

variable {P : Platform} {db : Database}

theorem runCalls_cons (call : Call) (supply : Supply) (calls : List (Call × Supply)) :
    runCalls P db ((call, supply) :: calls) =
      runCalls P (call.perform P supply db).2 calls := rfl

theorem runCalls_living (living : Living db) (calls : List (Call × Supply)) :
    Living (runCalls P db calls) ∧ (runCalls P db calls).mandates = db.mandates := by
  induction calls generalizing db with
  | nil => exact ⟨living, rfl⟩
  | cons turn calls ih =>
      obtain ⟨call, supply⟩ := turn
      have progress := call.progress P supply living
      obtain ⟨living', mandates⟩ := ih progress.living
      exact ⟨living', mandates.trans progress.mandates⟩

/-- What every edge keeps of a phase holds after every run. -/
theorem runCalls_kept (kept : Option Phase → Prop)
    (keeps : ∀ {phase phase'}, Edge phase phase' → kept phase → kept phase') (living : Living db)
    (calls : List (Call × Supply)) {refId : String} (holds : kept (phaseOf db refId)) :
    kept (phaseOf (runCalls P db calls) refId) := by
  induction calls generalizing db with
  | nil => exact holds
  | cons turn calls ih =>
      obtain ⟨call, supply⟩ := turn
      have progress := call.progress P supply living
      exact ih progress.living (keeps (progress.edge refId) holds)

/-- A final state is kept by every edge. -/
theorem Edge.state_kept {phase phase' : Option Phase} {state : ReservationState}
    (edge : Edge phase phase') (final : state ≠ .held) (here : phase.map Phase.state = some state) :
    phase'.map Phase.state = some state := by
  cases edge with
  | stay => exact here
  | reserve => cases here
  | capture => exact absurd (Option.some.inj here).symm final
  | release => exact absurd (Option.some.inj here).symm final
  | expire => exact absurd (Option.some.inj here).symm final
  | reverse => exact here

theorem Edge.present_kept {phase phase' : Option Phase} (edge : Edge phase phase')
    (present : phase ≠ none) : phase' ≠ none := by
  cases edge with
  | stay => exact present
  | reserve => exact absurd rfl present
  | capture => simp
  | release => simp
  | expire => simp
  | reverse => simp

theorem Edge.reversed_kept {phase phase' : Option Phase} (edge : Edge phase phase')
    (reversed : phase = some .reversed) : phase' = some .reversed := by
  cases edge with
  | stay => exact reversed
  | reserve => cases reversed
  | capture => cases reversed
  | release => cases reversed
  | expire => cases reversed
  | reverse => rfl

theorem state_of_runCalls (living : Living db) (calls : List (Call × Supply)) {refId : String}
    {state : ReservationState} (here : stateOfRef db refId = some state) (final : state ≠ .held) :
    stateOfRef (runCalls P db calls) refId = some state := by
  rw [stateOfRef_eq_map_phaseOf] at here ⊢
  exact runCalls_kept (fun phase => phase.map Phase.state = some state)
    (fun edge here => edge.state_kept final here) living calls here

/-! ### Repetition -/

/-- What a call for a reference has established when it succeeded. -/
def Call.Done (db : Database) : Call → Prop
  | .reserve mandateId _ _ refId =>
      (db.getMandate mandateId).isSome ∧ phaseOf db refId ≠ none
  | .capture mandateId _ refId =>
      (db.getMandate mandateId).isSome ∧ stateOfRef db refId = some .captured
  | .release mandateId _ refId =>
      (db.getMandate mandateId).isSome ∧ stateOfRef db refId = some .released
  | .reverseSettlement mandateId _ refId =>
      (db.getMandate mandateId).isSome ∧ phaseOf db refId = some .reversed
  | .sweepCandidate .. | .sweep _ => False

/-- The value a call for a reference succeeds with. -/
def Call.success : Call → Outcome
  | .reserve mandateId amountMinor _ refId => .reservation (some ⟨refId, mandateId, amountMinor⟩)
  | _ => .posted true

theorem getMandate_congr {db' : Database} (same : db'.mandates = db.mandates)
    (mandateId : String) : db'.getMandate mandateId = db.getMandate mandateId := by
  rw [Database.getMandate, same]
  rfl

theorem stateOfRef_post {source target : Bucket} {mandateId : String} {amountMinor : Int}
    {refType : RefType} {refId : String} {now : Nat → Time} {phase : Phase}
    (continues : Lifecycle refId (some phase) (db.listForRefId refId ++
      entryPair source target mandateId amountMinor refType refId (now 0) (now 1))) :
    stateOfRef (addMovements db (movements source target mandateId amountMinor) refType refId now)
      refId = some phase.state := by
  rw [stateOfRef_eq_map_phaseOf, phaseOf_post continues, if_pos rfl]
  rfl

section Success

variable {now : Nat → Time} {mandateId refId : String} {amountMinor : Int}

theorem reserve_success (living : Living db) {maxTotalMinor : Int} {made : Reservation}
    (succeeded : (reserve db now mandateId amountMinor maxTotalMinor refId).1 = some made) :
    made = ⟨refId, mandateId, amountMinor⟩ ∧ (db.getMandate mandateId).isSome ∧
      phaseOf (reserve db now mandateId amountMinor maxTotalMinor refId).2 refId ≠ none := by
  have living' := (reserve_progress living now mandateId refId amountMinor maxTotalMinor).living
  cases found : db.getMandate mandateId with
  | none => simp [reserve, found] at succeeded
  | some row =>
      rw [ne_eq, living'.absent_iff]
      simp only [reserve, found] at succeeded ⊢
      split at succeeded
      next present => exact ⟨(Option.some.inj succeeded).symm, rfl, by rw [if_pos present]; exact present⟩
      next fresh =>
        split at succeeded
        next => cases succeeded
        next within =>
          refine ⟨(Option.some.inj succeeded).symm, rfl, ?_⟩
          rw [if_neg fresh, if_neg within]
          dsimp only
          rw [reserveMovements, listForRefId_addMovements, if_pos rfl]
          simp [entryPair]

/-- The two operations that settle a held reference one way. -/
theorem settles_success (living : Living db) {source target : Bucket} {refType : RefType}
    {state : ReservationState} {phase : Phase} (reaches : phase.state = state)
    (continues : ∀ {entries}, Lifecycle refId (some .held) entries →
      Lifecycle refId (some phase) (entries ++
        entryPair source target mandateId amountMinor refType refId (now 0) (now 1)))
    {result : Bool × Database}
    (computed : result = match db.getMandate mandateId with
      | none => (false, db)
      | some _ =>
          if stateOfRef db refId = some state then (true, db)
          else if stateOfRef db refId = some .held then
            (true, addMovements db (movements source target mandateId amountMinor) refType refId now)
          else (false, db))
    (succeeded : result.1 = true) :
    (db.getMandate mandateId).isSome ∧ stateOfRef result.2 refId = some state := by
  subst computed
  cases found : db.getMandate mandateId with
  | none => simp [found] at succeeded
  | some row =>
      refine ⟨rfl, ?_⟩
      simp only [found] at succeeded ⊢
      split at succeeded
      next settled => rw [if_pos settled]; exact settled
      next unsettled =>
        split at succeeded
        next held =>
          rw [if_neg unsettled, if_pos held]
          dsimp only
          rw [stateOfRef_post (continues (held_lifecycle living refId held).2), reaches]
        next => cases succeeded

/-- `capture` and `release` in the form of `settles_success`. -/
theorem capture_eq (db : Database) (now : Nat → Time) (mandateId : String) (amountMinor : Int)
    (refId : String) :
    capture db now mandateId amountMinor refId = match db.getMandate mandateId with
      | none => (false, db)
      | some _ =>
          if stateOfRef db refId = some .captured then (true, db)
          else if stateOfRef db refId = some .held then
            (true, addMovements db (captureMovements mandateId amountMinor) .capture refId now)
          else (false, db) := by
  rw [capture]
  cases db.getMandate mandateId with
  | none => rfl
  | some row =>
      cases state : stateOfRef db refId with
      | none => simp
      | some s => cases s <;> simp

theorem release_eq (db : Database) (now : Nat → Time) (mandateId : String) (amountMinor : Int)
    (refId : String) :
    release db now mandateId amountMinor refId = match db.getMandate mandateId with
      | none => (false, db)
      | some _ =>
          if stateOfRef db refId = some .released then (true, db)
          else if stateOfRef db refId = some .held then
            (true, addMovements db (releaseMovements mandateId amountMinor) .release refId now)
          else (false, db) := by
  rw [release]
  cases db.getMandate mandateId with
  | none => rfl
  | some row =>
      cases state : stateOfRef db refId with
      | none => simp
      | some s => cases s <;> simp

theorem reverseSettlement_success (living : Living db)
    (succeeded : (reverseSettlement db now mandateId amountMinor refId).1 = true) :
    (db.getMandate mandateId).isSome ∧
      phaseOf (reverseSettlement db now mandateId amountMinor refId).2 refId = some .reversed := by
  cases found : db.getMandate mandateId with
  | none => simp [reverseSettlement, found] at succeeded
  | some row =>
      refine ⟨rfl, ?_⟩
      simp only [reverseSettlement, found] at succeeded ⊢
      split at succeeded
      next reversed =>
        rw [if_pos reversed]
        exact phaseOf_of_reverse_mem living refId reversed
      next unreversed =>
        split at succeeded
        next captured =>
          rw [if_neg unreversed, if_pos captured]
          have history := (captured_lifecycle living refId captured unreversed).2
          dsimp only
          rw [reverseMovements, phaseOf_post (history.reverse ..), if_pos rfl]
        next => cases succeeded

end Success

/-- A call for a reference that succeeded has established its part. -/
theorem Call.done_of_succeeded (living : Living db) {call : Call} {refId : String}
    (mine : call.isFor refId) {supply : Supply}
    (succeeded : (call.perform P supply db).1.Succeeded) :
    (call.perform P supply db).1 = call.success ∧ call.Done (call.perform P supply db).2 := by
  have mandates := (call.progress P supply living).mandates
  cases call with
  | reserve mandateId amountMinor maxTotalMinor ref =>
      cases made : (Ledger.reserve db (supply.now 0) mandateId amountMinor maxTotalMinor ref).1 with
      | none => simp [Call.perform, made, Outcome.Succeeded] at succeeded
      | some reservation =>
          obtain ⟨same, found, present⟩ := reserve_success living made
          refine ⟨?_, by rw [getMandate_congr mandates]; exact found, present⟩
          rw [Call.perform, made, same]
          rfl
  | capture mandateId amountMinor ref =>
      cases posted : (Ledger.capture db (supply.now 0) mandateId amountMinor ref).1 with
      | false => simp [Call.perform, posted, Outcome.Succeeded] at succeeded
      | true =>
          obtain ⟨found, state⟩ := settles_success living rfl (fun held => held.capture ..)
            (capture_eq ..) posted
          refine ⟨?_, by rw [getMandate_congr mandates]; exact found, state⟩
          rw [Call.perform, posted]
          rfl
  | release mandateId amountMinor ref =>
      cases posted : (Ledger.release db (supply.now 0) mandateId amountMinor ref).1 with
      | false => simp [Call.perform, posted, Outcome.Succeeded] at succeeded
      | true =>
          obtain ⟨found, state⟩ := settles_success living rfl (fun held => held.release ..)
            (release_eq ..) posted
          refine ⟨?_, by rw [getMandate_congr mandates]; exact found, state⟩
          rw [Call.perform, posted]
          rfl
  | reverseSettlement mandateId amountMinor ref =>
      cases posted : (Ledger.reverseSettlement db (supply.now 0) mandateId amountMinor ref).1 with
      | false => simp [Call.perform, posted, Outcome.Succeeded] at succeeded
      | true =>
          obtain ⟨found, phase⟩ := reverseSettlement_success living posted
          refine ⟨?_, by rw [getMandate_congr mandates]; exact found, phase⟩
          rw [Call.perform, posted]
          rfl
  | sweepCandidate scanned ref => exact absurd mine id
  | sweep reservationTtlS => exact absurd mine id

/-- A call that has nothing left to do succeeds and changes nothing. -/
theorem Call.perform_of_done (living : Living db) {call : Call} (done : call.Done db)
    (supply : Supply) : call.perform P supply db = (call.success, db) := by
  cases call with
  | reserve mandateId amountMinor maxTotalMinor ref =>
      obtain ⟨row, found⟩ := Option.isSome_iff_exists.mp done.1
      have present : db.listForRefId ref ≠ [] := mt living.absent_iff.mpr done.2
      simp [Call.perform, Ledger.reserve, found, present, Call.success]
  | capture mandateId amountMinor ref =>
      obtain ⟨row, found⟩ := Option.isSome_iff_exists.mp done.1
      simp [Call.perform, Ledger.capture, found, done.2, Call.success]
  | release mandateId amountMinor ref =>
      obtain ⟨row, found⟩ := Option.isSome_iff_exists.mp done.1
      simp [Call.perform, Ledger.release, found, done.2, Call.success]
  | reverseSettlement mandateId amountMinor ref =>
      obtain ⟨row, found⟩ := Option.isSome_iff_exists.mp done.1
      have reversed : .reverse ∈ (db.listForRefId ref).map LedgerEntryRecord.refType := by
        rw [(living ref).types, done.2]
        simp [typesOf]
      simp [Call.perform, Ledger.reverseSettlement, found, reversed, Call.success]
  | sweepCandidate scanned ref => exact absurd done id
  | sweep reservationTtlS => exact absurd done id

/-- What was done stays done. -/
theorem Call.done_of_runCalls (living : Living db) {call : Call} (done : call.Done db)
    (calls : List (Call × Supply)) : call.Done (runCalls P db calls) := by
  have mandates := (runCalls_living (P := P) living calls).2
  cases call with
  | reserve mandateId amountMinor maxTotalMinor ref =>
      refine ⟨by rw [getMandate_congr mandates]; exact done.1, ?_⟩
      exact runCalls_kept (· ≠ none) Edge.present_kept living calls done.2
  | capture mandateId amountMinor ref =>
      refine ⟨by rw [getMandate_congr mandates]; exact done.1, ?_⟩
      exact state_of_runCalls living calls done.2 (by simp)
  | release mandateId amountMinor ref =>
      refine ⟨by rw [getMandate_congr mandates]; exact done.1, ?_⟩
      exact state_of_runCalls living calls done.2 (by simp)
  | reverseSettlement mandateId amountMinor ref =>
      refine ⟨by rw [getMandate_congr mandates]; exact done.1, ?_⟩
      exact runCalls_kept (· = some .reversed) Edge.reversed_kept living calls done.2
  | sweepCandidate scanned ref => exact absurd done id
  | sweep reservationTtlS => exact absurd done id

end Runs

/-! ## The derived state -/

/-- How the state that `_state_of` derives moves. -/
inductive StateEdge : Option ReservationState → Option ReservationState → Prop where
  | stay (state : Option ReservationState) : StateEdge state state
  | hold : StateEdge none (some .held)
  | settle (state : ReservationState) (final : state ≠ .held) :
      StateEdge (some .held) (some state)

theorem Edge.state {phase phase' : Option Phase} (edge : Edge phase phase') :
    StateEdge (phase.map Phase.state) (phase'.map Phase.state) := by
  cases edge with
  | stay => exact .stay _
  | reserve => exact .hold
  | capture => exact .settle _ (by simp [Phase.state])
  | release => exact .settle _ (by simp [Phase.state])
  | expire => exact .settle _ (by simp [Phase.state])
  | reverse => exact .stay _

/-- In every store that a run of the ledger reaches, each reference has a history,
whose phase is the state derived for it; every further call moves that state along
one edge at most and no calls move it once it is final; and a call for a
reference that succeeded does, however many calls later and with whatever clock,
nothing but succeed with the same value. -/
theorem ledger_reference_lifecycle (P : Platform) (db : Database) (empty : db.ledgerEntries = [])
    (calls : List (Call × Supply)) :
    let reached := runCalls P db calls
    (∀ refId, ∃ phase, Lifecycle refId phase (reached.listForRefId refId) ∧
        stateOfRef reached refId = phase.map Phase.state) ∧
      (∀ (call : Call) (supply : Supply) refId,
        StateEdge (stateOfRef reached refId)
          (stateOfRef (call.perform P supply reached).2 refId)) ∧
      (∀ refId state (more : List (Call × Supply)), stateOfRef reached refId = some state →
        state ≠ .held → stateOfRef (runCalls P reached more) refId = some state) ∧
      ∀ (call : Call) (supply again : Supply) refId (more : List (Call × Supply)),
        call.isFor refId → (call.perform P supply reached).1.Succeeded →
          let later := runCalls P (call.perform P supply reached).2 more
          call.perform P again later = ((call.perform P supply reached).1, later) := by
  intro reached
  have living : Living reached := (runCalls_living (living_of_empty empty) calls).1
  refine ⟨fun refId => ?_, fun call supply refId => ?_, fun refId state more here final => ?_,
    fun call supply again refId more mine succeeded => ?_⟩
  · exact ⟨phaseOf reached refId, living refId, stateOfRef_eq_map_phaseOf ..⟩
  · rw [stateOfRef_eq_map_phaseOf, stateOfRef_eq_map_phaseOf]
    exact ((call.progress P supply living).edge refId).state
  · exact state_of_runCalls living more here final
  · intro later
    obtain ⟨value, done⟩ := Call.done_of_succeeded living mine succeeded
    have living' := (call.progress P supply living).living
    rw [value]
    exact Call.perform_of_done (runCalls_living living' more).1
      (Call.done_of_runCalls living' done more) again

/-- Clock readings and a trace id that do not change during a call. -/
def Supply.at (time : Time) : Supply := ⟨fun _ _ => time, fun _ => "trc_1"⟩

/-- A purchase that is captured while the sweeper still sees its hold, and then
reversed. -/
def fixtureCalls : List (Call × Supply) :=
  [(.reserve "mdt_1" 420000 900000 "ik_1", .at 0),
    (.capture "mdt_1" 420000 "ik_1", .at 1000000),
    (.sweepCandidate (entryPair .available .reserved "mdt_1" 420000 .reservation "ik_1" 0 0) "ik_1",
      .at 301000000),
    (.reverseSettlement "mdt_1" 420000 "ik_1", .at 302000000)]

theorem capture_repeats_after_reversal :
    let reached := runCalls Fixture.platform Fixture.database fixtureCalls
    Fixture.database.ledgerEntries = [] ∧ reached.ledgerEntries.length = 6 ∧
      Call.perform Fixture.platform (.at 303000000) reached (.capture "mdt_1" 420000 "ik_1") =
        (.posted true, reached) := by
  intro reached
  refine ⟨rfl, by decide +kernel, ?_⟩
  obtain ⟨_, _, _, repeats⟩ := ledger_reference_lifecycle Fixture.platform Fixture.database rfl
    (fixtureCalls.take 1)
  exact repeats (.capture "mdt_1" 420000 "ik_1") (.at 1000000) (.at 303000000) "ik_1"
    (fixtureCalls.drop 2) rfl (.inl (by decide +kernel))

end Actl.Ledger
