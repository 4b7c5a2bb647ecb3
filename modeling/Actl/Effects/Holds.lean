import Actl.Effects.Actions
import Actl.Ledger.BudgetCap

/-!
# What the actions do to the reservations

One inversion for the phase of a reservation: which actions move it, and from
where to where. One for its terms, the account and the amount it was made with,
which are fixed when it is made. And one for the book behind the entries: an
action that carries the terms of the reservations it touches keeps every mandate
within its cap.
-/

set_option autoImplicit false

namespace Actl

open Foundation (Table bind_eq_ok)
open Payments (OrderArgs)
open Gate (MoneyActionRequest Compensation)
open Ledger (Phase RefType Bucket Orderly Moves phaseOf stateOfRef account Carries Budgeted)

/-! ## Terms -/

namespace Ledger

/-- The accounts and amounts reserved under a reference. -/
def terms (db : Database) (refId : String) : List (String × Int) :=
  ((db.listForRefId refId).filter fun e => e.refType = .reservation ∧ e.direction = .debit).map
    fun e => (e.account, e.amountMinor)

theorem carries_iff_terms {db : Database} {refId mandateId : String} {amountMinor : Int} :
    Carries db refId mandateId amountMinor ↔
      ∀ t ∈ terms db refId, t = (account mandateId .reserved, amountMinor) := by
  simp only [Carries, terms, List.mem_map, List.mem_filter, Bool.decide_and, Bool.and_eq_true,
    decide_eq_true_eq, forall_exists_index, and_imp]
  refine ⟨?_, fun holds e member type direction => Prod.mk.inj (holds _ e member type direction rfl)⟩
  rintro holds t e member type direction rfl
  obtain ⟨acct, amount⟩ := holds e member type direction
  rw [acct, amount]

theorem terms_congr {db db' : Database} (same : db'.ledgerEntries = db.ledgerEntries)
    (refId : String) : terms db' refId = terms db refId := by
  simp only [terms, Database.listForRefId, same]

theorem carries_congr {db db' : Database} {refId mandateId : String} {amountMinor : Int}
    (same : terms db' refId = terms db refId) :
    Carries db' refId mandateId amountMinor ↔ Carries db refId mandateId amountMinor := by
  rw [carries_iff_terms, carries_iff_terms, same]

/-- Nothing is reserved under a reference without entries. -/
theorem terms_eq_nil {db : Database} {refId : String} (absent : db.listForRefId refId = []) :
    terms db refId = [] := by
  simp [terms, absent]

section Posting

variable (db : Database) (mandateId refId : String) (amountMinor : Int) (now : Nat → Time)

theorem terms_addMovements (source target : Bucket) (refType : RefType) (ref : String) :
    terms (addMovements db (movements source target mandateId amountMinor) refType refId now) ref
      = terms db ref ++ if ref = refId ∧ refType = .reservation
          then [(account mandateId target, amountMinor)] else [] := by
  by_cases mine : ref = refId
  · subst mine
    by_cases opens : refType = .reservation
    · simp [terms, Database.listForRefId, addMovements, movements, opens]
    · simp [terms, Database.listForRefId, addMovements, movements, opens]
  · have other : ¬ refId = ref := fun same => mine same.symm
    simp [terms, Database.listForRefId, addMovements, movements, mine, other]

theorem terms_reserve (maxTotalMinor : Int) :
    (reserve db now mandateId amountMinor maxTotalMinor refId).2 = db ∨
      (db.listForRefId refId = [] ∧ ∀ ref,
        terms (reserve db now mandateId amountMinor maxTotalMinor refId).2 ref
          = if ref = refId then [(account mandateId .reserved, amountMinor)] else terms db ref) := by
  unfold reserve
  split
  · exact .inl rfl
  · dsimp only
    split
    · exact .inl rfl
    · rename_i fresh
      split
      · exact .inl rfl
      · have absent := not_not.mp fresh
        refine .inr ⟨absent, fun ref => ?_⟩
        rw [reserveMovements, terms_addMovements]
        by_cases mine : ref = refId
        · simp [mine, terms_eq_nil absent]
        · simp [mine]

theorem terms_capture (ref : String) :
    terms (capture db now mandateId amountMinor refId).2 ref = terms db ref := by
  unfold capture
  repeat' split
  all_goals first | rfl | simp [captureMovements, terms_addMovements]

theorem terms_release (ref : String) :
    terms (release db now mandateId amountMinor refId).2 ref = terms db ref := by
  unfold release
  repeat' split
  all_goals first | rfl | simp [releaseMovements, terms_addMovements]

theorem terms_reverseSettlement (ref : String) :
    terms (reverseSettlement db now mandateId amountMinor refId).2 ref = terms db ref := by
  unfold reverseSettlement
  dsimp only
  repeat' split
  all_goals first | rfl | simp [reverseMovements, terms_addMovements]

end Posting

theorem terms_sweepReservation {P : Platform} {db db' : Database} {now : Nat → Time}
    {traceId refId : String} {expired : Bool}
    (done : sweepReservation P db now traceId refId = .ok (expired, db')) (ref : String) :
    terms db' ref = terms db ref := by
  unfold sweepReservation at done
  dsimp only at done
  split at done
  · cases done
    rfl
  · split at done
    · cases done
    · rename_i entry _
      split at done
      · cases done
        rfl
      · cases done
        have posted : terms (addMovements db (releaseMovements (mandateIdFromAccount entry.account)
            entry.amountMinor) .expire refId now) ref = terms db ref := by
          simp [releaseMovements, terms_addMovements]
        exact posted

theorem terms_sweepAll {P : Platform} {now : Nat → Nat → Time} {traceId : Nat → String}
    {candidates : List String} {i : Nat} {db db' : Database} {swept : List String}
    (done : sweepAll P now traceId i candidates db = .ok (swept, db')) (ref : String) :
    terms db' ref = terms db ref := by
  induction candidates generalizing i db swept with
  | nil =>
      cases done
      rfl
  | cons refId candidates ih =>
      obtain ⟨⟨expired, db₁⟩, first, rest⟩ := bind_eq_ok.mp done
      obtain ⟨⟨swept', db₂⟩, second, last⟩ := bind_eq_ok.mp rest
      cases last
      exact (ih second).trans (terms_sweepReservation first ref)

end Ledger

/-! ## Phases -/

/-- The reservations a sweep at these clock readings looks at. -/
def sweepCandidates (P : Platform) (input : Input) (db : Database) : List String :=
  db.listReservationsOlderThan (input.now 0 0 - seconds P.settings.reservationTtlS)

/-- The phase of the reservation of a reference before and after an action. -/
inductive HoldBecomes (P : Platform) (action : Action) (input : Input) (db : Database)
    (refId : String) : Option Phase → Option Phase → Prop where
  | same (phase : Option Phase) : HoldBecomes P action input db refId phase phase
  | opened (req : MoneyActionRequest) (issued : action = .attemptG1ThroughG5 req refId) :
      HoldBecomes P action input db refId none (some .held)
  | captured (saga : SagaRecord) (orderId paymentId actorId traceId : String)
      (issued : action = .settle saga orderId paymentId actorId traceId) (ref : saga.id = refId) :
      HoldBecomes P action input db refId (some .held) (some .captured)
  | released (c : Compensation)
      (issued : action = .releaseReservation c ∨ ∃ orderId, action = .voidOrder c orderId)
      (ref : c.refId = refId) :
      HoldBecomes P action input db refId (some .held) (some .released)
  | expired (issued : action = .sweep) (old : refId ∈ sweepCandidates P input db) :
      HoldBecomes P action input db refId (some .held) (some .expired)
  | reversed (c : Compensation) (orderId : String)
      (issued : action = .reverseSettlement c orderId) (ref : c.refId = refId) :
      HoldBecomes P action input db refId (some .captured) (some .reversed)

/-- The reservations before and after an action. -/
structure HoldsAfter (P : Platform) (action : Action) (input : Input) (db db' : Database) :
    Prop where
  phases : ∀ refId, HoldBecomes P action input db refId (phaseOf db refId) (phaseOf db' refId)
  orderly : Orderly db'

section Phases

variable {P : Platform} {action : Action} {input : Input} {db db' : Database}

theorem holdsAfter_of_eq (orderly : Orderly db) (same : db'.ledgerEntries = db.ledgerEntries) :
    HoldsAfter P action input db db' := by
  refine ⟨fun refId => ?_, orderly.congr same⟩
  rw [Ledger.phaseOf_congr same]
  exact .same _

/-- A ledger operation that does nothing or moves one reservation, on a store with
the same entries. -/
theorem holdsAfter_of_operation {refId : String} {source target : Option Phase}
    {middle moved : Database} (orderly : Orderly db)
    (entries : middle.ledgerEntries = db.ledgerEntries)
    (operation : Orderly middle → moved = middle ∨ Moves middle moved refId source target)
    (same : db'.ledgerEntries = moved.ledgerEntries)
    (becomes : HoldBecomes P action input db refId source target) :
    HoldsAfter P action input db db' := by
  rcases operation (orderly.congr entries) with rfl | moves
  · exact holdsAfter_of_eq orderly (same.trans entries)
  · refine ⟨fun ref => ?_, moves.orderly.congr same⟩
    rw [Ledger.phaseOf_congr same, ← Ledger.phaseOf_congr entries]
    by_cases mine : ref = refId
    · subst mine
      rw [moves.before, moves.after]
      exact becomes
    · rw [moves.others ref mine]
      exact .same _

theorem holdsAfter_of_transaction {α : Type} {w : World} {dbError : Bool}
    {body : Database → Except Failure (α × Database)} (orderly : Orderly w.db)
    (after : ∀ value db, body w.db = .ok (value, db) → HoldsAfter P action input w.db db) :
    HoldsAfter P action input w.db (w.transaction dbError body).2.db := by
  rcases w.transaction_cases dbError body with ⟨failure, done, -⟩ | ⟨value, db, -, ran, done⟩
  · rw [done]
    exact holdsAfter_of_eq orderly rfl
  · rw [done]
    exact after value db ran

theorem holdsAfter_of_command {w : World} {dbError : Bool}
    {body : Database → Except Failure Database} (orderly : Orderly w.db)
    (after : ∀ db, body w.db = .ok db → HoldsAfter P action input w.db db) :
    HoldsAfter P action input w.db (w.command dbError body).2.db := by
  rcases w.command_cases dbError body with ⟨failure, done, -⟩ | ⟨db, -, ran, done⟩
  · rw [done]
    exact holdsAfter_of_eq orderly rfl
  · rw [done]
    exact after db ran

end Phases

theorem sweep_command {P : Platform} {input : Input} {db db' : Database}
    (done : (Ledger.sweep P input.now input.ids P.settings.reservationTtlS db).map Prod.snd
      = .ok db') :
    ∃ swept, Ledger.sweep P input.now input.ids P.settings.reservationTtlS db
      = .ok (swept, db') := by
  cases swept : Ledger.sweep P input.now input.ids P.settings.reservationTtlS db with
  | error failure =>
      rw [swept] at done
      cases done
  | ok pair =>
      rw [swept] at done
      cases done
      exact ⟨pair.1, rfl⟩

/-- What an action does to the reservations. -/
theorem execute_holds (P : Platform) (action : Action) (input : Input) (w : World)
    (orderly : Orderly w.db) :
    HoldsAfter P action input w.db (execute P action input w).2.db := by
  by_cases written : Part.ledger ∈ action.writes
  swap
  · exact holdsAfter_of_eq orderly
      ((execute_frame P action input w).ledger (Action.mem_spares.mpr written))
  cases action with
  | attemptG1ThroughG5 req key =>
      refine holdsAfter_of_transaction orderly fun value db ran => ?_
      rcases attemptG1ThroughG5_ok ran with ⟨code, -, rfl⟩ | ⟨-, passed⟩
      · exact holdsAfter_of_eq orderly rfl
      · obtain ⟨row, -, -, -, -, ledger⟩ := passed.mandate
        exact holdsAfter_of_operation orderly rfl
          (fun orderly => Ledger.reserve_moves _ _ _ _ orderly _) ledger (.opened req rfl)
  | releaseReservation c =>
      refine holdsAfter_of_command orderly fun db ran => ?_
      obtain ⟨db', released, ledger, -⟩ := releaseReservation_ok P c (input.now 0) w.db
      rw [ran] at released
      cases released
      exact holdsAfter_of_operation orderly rfl
        (fun orderly => Ledger.release_moves _ _ _ _ orderly) ledger (.released c (.inl rfl) rfl)
  | settle saga orderId paymentId actorId traceId =>
      refine holdsAfter_of_transaction orderly fun value db ran => ?_
      have operation := fun orderly : Orderly w.db =>
        Ledger.capture_moves (input.now 0) saga.mandateId saga.id saga.amountMinor orderly
      have becomes : HoldBecomes P (.settle saga orderId paymentId actorId traceId) input w.db
          saga.id (some .held) (some .captured) :=
        .captured saga orderId paymentId actorId traceId rfl rfl
      rcases settle_ok ran with ⟨-, -, same⟩ | ⟨-, -, ledger, -⟩
      · exact holdsAfter_of_operation orderly rfl operation (by rw [same]) becomes
      · exact holdsAfter_of_operation orderly rfl operation ledger becomes
  | reverseSettlement c orderId =>
      refine holdsAfter_of_command orderly fun db ran => ?_
      obtain ⟨middle, entries, -, ledger⟩ := (reverseSettlementAfterRefund_ok ran).ledger
      exact holdsAfter_of_operation orderly entries
        (fun orderly => Ledger.reverseSettlement_moves _ _ _ _ orderly) ledger
        (.reversed c orderId rfl rfl)
  | voidOrder c orderId =>
      refine holdsAfter_of_command orderly fun db ran => ?_
      obtain ⟨middle, entries, -, ledger⟩ := (voidOrder_ok ran).ledger
      exact holdsAfter_of_operation orderly entries
        (fun orderly => Ledger.release_moves _ _ _ _ orderly) ledger
        (.released c (.inr ⟨orderId, rfl⟩) rfl)
  | sweep =>
      refine holdsAfter_of_command orderly fun db ran => ?_
      obtain ⟨swept, done⟩ := sweep_command ran
      have sweeps := sweep_ok orderly done
      refine ⟨fun refId => ?_, sweeps.orderly⟩
      rcases sweeps.phases refId with same | ⟨old, held, expired⟩
      · rw [same]
        exact .same _
      · rw [held, expired]
        exact .expired rfl old
  | _ => simp [Action.writes] at written

/-- What the gate does to the terms of reservations: nothing, or it makes one under
its key. -/
theorem attempt_terms (P : Platform) (req : MoneyActionRequest) (key : String) (input : Input)
    (w : World) :
    (execute P (.attemptG1ThroughG5 req key) input w).2.db.ledgerEntries = w.db.ledgerEntries ∨
      (w.db.listForRefId key = [] ∧ ∀ refId,
        Ledger.terms (execute P (.attemptG1ThroughG5 req key) input w).2.db refId
          = if refId = key then [(account req.mandateId .reserved, req.amountMinor)]
            else Ledger.terms w.db refId) := by
  simp only [execute]
  rcases w.transaction_cases input.dbError (Gate.attemptG1ThroughG5 P req key (input.now 0))
    with ⟨failure, done, -⟩ | ⟨value, db, -, ran, done⟩
  · rw [done]
    exact .inl rfl
  · rw [done]
    rcases attemptG1ThroughG5_ok ran with ⟨code, -, rfl⟩ | ⟨-, passed⟩
    · exact .inl rfl
    · obtain ⟨row, -, -, -, -, ledger⟩ := passed.mandate
      rcases Ledger.terms_reserve w.db req.mandateId key req.amountMinor
        (fun i => input.now 0 (i + 2)) row.mandate.bounds.maxTotalMinor with same | ⟨absent, terms⟩
      · exact .inl (ledger.trans (congrArg Database.ledgerEntries same))
      · exact .inr ⟨absent, fun refId => (Ledger.terms_congr ledger refId).trans (terms refId)⟩

/-- The state of a reservation that counts: held or captured. -/
def Live (state : Option Ledger.ReservationState) : Prop :=
  state = some .held ∨ state = some .captured

/-- A reservation that still takes up budget. -/
def LiveHold (db : Database) (refId : String) : Prop :=
  phaseOf db refId = some .held ∨ phaseOf db refId = some .captured

/-- The reservations an action frees. -/
def Action.Frees (P : Platform) (action : Action) (input : Input) (db : Database)
    (refId : String) : Prop :=
  match action with
  | .releaseReservation c | .voidOrder c _ => c.refId = refId ∧ phaseOf db refId = some .held
  | .sweep => refId ∈ sweepCandidates P input db ∧ phaseOf db refId = some .held
  | .reverseSettlement c _ => c.refId = refId ∧ phaseOf db refId = some .captured
  | _ => False

theorem LiveHold.live {db : Database} {refId : String} (live : LiveHold db refId) :
    Live (stateOfRef db refId) := by
  rw [Ledger.stateOfRef_eq_map_phaseOf]
  rcases live with held | captured
  · rw [held]
    exact .inl rfl
  · rw [captured]
    exact .inr rfl

/-- A reservation that takes up budget does so until it is freed. -/
theorem liveHold_kept {P : Platform} {action : Action} {input : Input} {w : World}
    {refId : String} (orderly : Orderly w.db) (live : LiveHold w.db refId)
    (unfreed : ¬ action.Frees P input w.db refId) :
    LiveHold (execute P action input w).2.db refId := by
  have becomes := (execute_holds P action input w orderly).phases refId
  generalize before : phaseOf w.db refId = source at becomes
  generalize after : phaseOf (execute P action input w).2.db refId = target at becomes
  cases becomes with
  | same =>
      rw [LiveHold, before] at live
      rw [LiveHold, after]
      exact live
  | opened req issued => exact .inl after
  | captured saga orderId paymentId actorId traceId issued ref => exact .inr after
  | released c issued ref =>
      rcases issued with rfl | ⟨orderId, rfl⟩
      · exact absurd ⟨ref, before⟩ unfreed
      · exact absurd ⟨ref, before⟩ unfreed
  | expired issued old =>
      subst issued
      exact absurd ⟨old, before⟩ unfreed
  | reversed c orderId issued ref =>
      subst issued
      exact absurd ⟨ref, before⟩ unfreed

/-- What an action does to the terms of a reservation: they are fixed when it is
made. -/
theorem execute_terms (P : Platform) (action : Action) (input : Input) (w : World)
    (refId : String) :
    Ledger.terms (execute P action input w).2.db refId = Ledger.terms w.db refId ∨
      ∃ req, action = .attemptG1ThroughG5 req refId ∧ w.db.listForRefId refId = [] ∧
        Ledger.terms (execute P action input w).2.db refId
          = [(account req.mandateId .reserved, req.amountMinor)] := by
  by_cases written : Part.ledger ∈ action.writes
  swap
  · exact .inl (Ledger.terms_congr
      ((execute_frame P action input w).ledger (Action.mem_spares.mpr written)) refId)
  cases action with
  | attemptG1ThroughG5 req key =>
      rcases attempt_terms P req key input w with same | ⟨absent, terms⟩
      · exact .inl (Ledger.terms_congr same refId)
      · by_cases mine : refId = key
        · subst mine
          exact .inr ⟨req, rfl, absent, (terms refId).trans (if_pos rfl)⟩
        · exact .inl ((terms refId).trans (if_neg mine))
  | releaseReservation c =>
      left
      simp only [execute]
      rcases w.command_cases input.dbError
        (Gate.releaseReservationAndMarkCompensated P c (input.now 0)) with
        ⟨failure, done, -⟩ | ⟨db, -, ran, done⟩
      · rw [done]
      · obtain ⟨db', released, ledger, -⟩ := releaseReservation_ok P c (input.now 0) w.db
        rw [ran] at released
        cases released
        rw [done]
        exact (Ledger.terms_congr ledger refId).trans (Ledger.terms_release ..)
  | settle saga orderId paymentId actorId traceId =>
      left
      simp only [execute]
      rcases w.transaction_cases input.dbError
        (Saga.settle P saga orderId paymentId actorId traceId (input.now 0)) with
        ⟨failure, done, -⟩ | ⟨value, db, -, ran, done⟩
      · rw [done]
      · rw [done]
        rcases settle_ok ran with ⟨-, -, same⟩ | ⟨-, -, ledger, -⟩
        · exact (congrArg (Ledger.terms · refId) same).trans (Ledger.terms_capture ..)
        · exact (Ledger.terms_congr ledger refId).trans (Ledger.terms_capture ..)
  | reverseSettlement c orderId =>
      left
      simp only [execute]
      rcases w.command_cases input.dbError
        (Gate.reverseSettlementAfterRefund P c orderId (input.now 0)) with
        ⟨failure, done, -⟩ | ⟨db, -, ran, done⟩
      · rw [done]
      · obtain ⟨middle, entries, -, ledger⟩ := (reverseSettlementAfterRefund_ok ran).ledger
        rw [done]
        exact (Ledger.terms_congr ledger refId).trans
          ((Ledger.terms_reverseSettlement ..).trans (Ledger.terms_congr entries refId))
  | voidOrder c orderId =>
      left
      simp only [execute]
      rcases w.command_cases input.dbError
        (Gate.voidOrderAndReleaseReservation P c orderId (input.now 0)) with
        ⟨failure, done, -⟩ | ⟨db, -, ran, done⟩
      · rw [done]
      · obtain ⟨middle, entries, -, ledger⟩ := (voidOrder_ok ran).ledger
        rw [done]
        exact (Ledger.terms_congr ledger refId).trans
          ((Ledger.terms_release ..).trans (Ledger.terms_congr entries refId))
  | sweep =>
      left
      simp only [execute]
      rcases w.command_cases input.dbError (fun db =>
        (Ledger.sweep P input.now input.ids P.settings.reservationTtlS db).map Prod.snd) with
        ⟨failure, done, -⟩ | ⟨db, -, ran, done⟩
      · rw [done]
      · obtain ⟨swept, swept'⟩ := sweep_command ran
        obtain ⟨_, -, rest⟩ := bind_eq_ok.mp swept'
        rw [done]
        exact Ledger.terms_sweepAll rest refId
  | _ => simp [Action.writes] at written

/-- Terms that are known stay. -/
theorem terms_kept (P : Platform) (action : Action) (input : Input) {w : World} {refId : String}
    {t : String × Int} (known : Ledger.terms w.db refId = [t]) :
    Ledger.terms (execute P action input w).2.db refId = [t] := by
  rcases execute_terms P action input w refId with same | ⟨req, -, absent, -⟩
  · exact same.trans known
  · rw [Ledger.terms_eq_nil absent] at known
    cases known

/-- A reservation that is made has the terms of the request it is made for. -/
theorem terms_of_opened {P : Platform} {action : Action} {input : Input} {w : World}
    {refId : String} (orderly : Orderly w.db) (fresh : phaseOf w.db refId = none)
    (known : phaseOf (execute P action input w).2.db refId ≠ none) :
    ∃ req, action = .attemptG1ThroughG5 req refId ∧
      Ledger.terms (execute P action input w).2.db refId
        = [(account req.mandateId .reserved, req.amountMinor)] := by
  have becomes := (execute_holds P action input w orderly).phases refId
  rw [fresh] at becomes
  generalize reached : phaseOf (execute P action input w).2.db refId = phase at becomes known
  cases becomes with
  | same => exact absurd rfl known
  | opened req issued =>
      subst issued
      refine ⟨req, rfl, ?_⟩
      rcases attempt_terms P req refId input w with same | ⟨-, terms⟩
      · rw [Ledger.phaseOf_congr same, fresh] at reached
        cases reached
      · exact (terms refId).trans (if_pos rfl)

/-! ## The gate -/

/-- A reservation that was answered is known from then on. -/
theorem Ledger.reserve_known {db : Database} {now : Nat → Time} {mandateId refId : String}
    {amountMinor maxTotalMinor : Int}
    (answered : (Ledger.reserve db now mandateId amountMinor maxTotalMinor refId).1.isSome = true) :
    (Ledger.reserve db now mandateId amountMinor maxTotalMinor refId).2.listForRefId refId ≠ [] := by
  unfold Ledger.reserve at answered ⊢
  split
  · rename_i missing
    simp [missing] at answered
  · rename_i found
    simp only [found] at answered
    split
    · assumption
    · rename_i fresh
      simp only [fresh, if_false] at answered
      dsimp only
      split
      · rename_i exceeded
        simp [exceeded] at answered
      · simp [Database.listForRefId, Ledger.addMovements, Ledger.reserveMovements,
          Ledger.movements]

/-- A passed gate leaves a reservation under its key, its own when there was none
before. -/
theorem passed_known {P : Platform} {req : MoneyActionRequest} {key : String} {input : Input}
    {w : World} (orderly : Orderly w.db)
    (answered : (execute P (.attemptG1ThroughG5 req key) input w).1 = .ok none) :
    phaseOf (execute P (.attemptG1ThroughG5 req key) input w).2.db key ≠ none := by
  have after := (execute_holds P (.attemptG1ThroughG5 req key) input w orderly).orderly
  intro absent
  have empty := after.phaseOf_eq_none.mp absent
  simp only [execute] at answered empty
  rcases w.transaction_cases input.dbError (Gate.attemptG1ThroughG5 P req key (input.now 0)) with
    ⟨failure, done, -⟩ | ⟨value, db, -, ran, done⟩
  · rw [done] at answered
    cases answered
  · rw [done] at answered empty
    cases answered
    rcases attemptG1ThroughG5_ok ran with ⟨code, denied, -⟩ | ⟨-, passed⟩
    · cases denied
    · obtain ⟨row, -, -, -, reserved, ledger⟩ := passed.mandate
      refine Ledger.reserve_known reserved ?_
      rw [Database.listForRefId, ← ledger]
      exact empty

/-! ## The book -/

/-- The action is called with the mandate and the amount of the reservation it is
for. -/
def Action.CarriesTerms (db : Database) : Action → Prop
  | .attemptG1ThroughG5 req key => Carries db key req.mandateId req.amountMinor
  | .releaseReservation c | .voidOrder c _ | .reverseSettlement c _ =>
      Carries db c.refId c.mandateId c.amountMinor
  | .settle saga _ _ _ _ => Carries db saga.id saga.mandateId saga.amountMinor
  | _ => True

theorem Ledger.Keeps.phaseOf_eq {db : Database} {book : Ledger.Book} (kept : Ledger.Keeps db book)
    (refId : String) : phaseOf db refId = (book.find? refId).map Ledger.Hold.phase := by
  unfold phaseOf Ledger.phaseOfTypes Ledger.refTypes
  simp only [kept.refType_mem]
  cases book.find? refId with
  | none => simp
  | some h => cases phase : h.phase <;> simp [phase, Phase.legs]

/-- Only the entries and the locked mandates matter. -/
theorem Ledger.Budgeted.congr {db db' : Database} (budgeted : Budgeted db)
    (entries : db'.ledgerEntries = db.ledgerEntries)
    (mandates : db'.lockedMandates = db.lockedMandates) : Budgeted db' := by
  obtain ⟨book, kept, within⟩ := budgeted
  refine ⟨book, kept.congr entries fun row member => ?_, fun row member => ?_⟩
  · have listed : row.mandate ∈ db'.lockedMandates :=
      mandates ▸ List.mem_map_of_mem (Table.mem_def.mp member)
    obtain ⟨row', present, same⟩ := List.mem_map.mp listed
    exact ⟨row', present, congrArg Mandates.Mandate.mandateId same⟩
  · have listed : row.mandate ∈ db.lockedMandates :=
      mandates ▸ List.mem_map_of_mem (Table.mem_def.mp member)
    obtain ⟨row', present, same⟩ := List.mem_map.mp listed
    have cap := within row' present
    rw [MandateRow.id, same] at cap
    exact cap

/-- A ledger operation on a store with the same entries and mandates. -/
theorem budgeted_of_operation {db middle moved db' : Database} (budgeted : Budgeted db)
    (entries : middle.ledgerEntries = db.ledgerEntries)
    (mandates : middle.lockedMandates = db.lockedMandates)
    (operation : Budgeted middle → Budgeted moved) (kept : moved.mandates = middle.mandates)
    (ledger : db'.ledgerEntries = moved.ledgerEntries)
    (same : db'.lockedMandates = db.lockedMandates) : Budgeted db' := by
  have locked : moved.lockedMandates = middle.lockedMandates := by
    simp only [Database.lockedMandates, kept]
  exact (operation (budgeted.congr entries mandates)).congr ledger
    (same.trans (mandates.symm.trans locked.symm))

theorem carries_of_entries {db db' : Database} {refId mandateId : String} {amountMinor : Int}
    (entries : db'.ledgerEntries = db.ledgerEntries)
    (carries : Carries db refId mandateId amountMinor) :
    Carries db' refId mandateId amountMinor :=
  (Ledger.carries_congr (Ledger.terms_congr entries refId)).mpr carries

/-- An action that carries the terms of its reservation, for a positive amount,
keeps every mandate within its cap. -/
theorem execute_budgeted (P : Platform) (action : Action) (input : Input) (w : World)
    (budgeted : Budgeted w.db) (carries : action.CarriesTerms w.db)
    (positive : ∀ req key, action = .attemptG1ThroughG5 req key → 0 < req.amountMinor) :
    Budgeted (execute P action input w).2.db := by
  have locked := (execute_frame P action input w).mandates
  by_cases written : Part.ledger ∈ action.writes
  swap
  · exact budgeted.congr
      ((execute_frame P action input w).ledger (Action.mem_spares.mpr written)) locked
  cases action with
  | attemptG1ThroughG5 req key =>
      simp only [execute] at locked ⊢
      rcases w.transaction_cases input.dbError (Gate.attemptG1ThroughG5 P req key (input.now 0))
        with ⟨failure, done, -⟩ | ⟨value, db, -, ran, done⟩
      · rw [done]
        exact budgeted
      · rw [done] at locked ⊢
        rcases attemptG1ThroughG5_ok ran with ⟨code, -, rfl⟩ | ⟨-, passed⟩
        · exact budgeted
        · obtain ⟨row, found, -, -, -, ledger⟩ := passed.mandate
          exact budgeted_of_operation budgeted rfl rfl
            (fun budgeted => budgeted.reserve found (positive req key rfl) _)
            (Ledger.mandates_reserve ..) ledger locked
  | releaseReservation c =>
      simp only [execute] at locked ⊢
      rcases w.command_cases input.dbError
        (Gate.releaseReservationAndMarkCompensated P c (input.now 0)) with
        ⟨failure, done, -⟩ | ⟨db, -, ran, done⟩
      · rw [done]
        exact budgeted
      · obtain ⟨db', released, ledger, -⟩ := releaseReservation_ok P c (input.now 0) w.db
        rw [ran] at released
        cases released
        rw [done] at locked ⊢
        exact budgeted_of_operation budgeted rfl rfl
          (fun budgeted => budgeted.release carries _) (Ledger.mandates_release ..) ledger locked
  | settle saga orderId paymentId actorId traceId =>
      simp only [execute] at locked ⊢
      rcases w.transaction_cases input.dbError
        (Saga.settle P saga orderId paymentId actorId traceId (input.now 0)) with
        ⟨failure, done, -⟩ | ⟨value, db, -, ran, done⟩
      · rw [done]
        exact budgeted
      · rw [done] at locked ⊢
        rcases settle_ok ran with ⟨-, -, same⟩ | ⟨-, -, ledger, -⟩
        · exact budgeted_of_operation budgeted rfl rfl
            (fun budgeted => budgeted.capture carries (input.now 0)) (Ledger.mandates_capture ..)
            (congrArg Database.ledgerEntries same) locked
        · exact budgeted_of_operation budgeted rfl rfl
            (fun budgeted => budgeted.capture carries (input.now 0)) (Ledger.mandates_capture ..)
            ledger locked
  | reverseSettlement c orderId =>
      simp only [execute] at locked ⊢
      rcases w.command_cases input.dbError
        (Gate.reverseSettlementAfterRefund P c orderId (input.now 0)) with
        ⟨failure, done, -⟩ | ⟨db, -, ran, done⟩
      · rw [done]
        exact budgeted
      · obtain ⟨middle, entries, mandates, ledger⟩ := (reverseSettlementAfterRefund_ok ran).ledger
        rw [done] at locked ⊢
        exact budgeted_of_operation budgeted entries mandates
          (fun budgeted => budgeted.reverseSettlement (carries_of_entries entries carries) _)
          (Ledger.mandates_reverseSettlement ..) ledger locked
  | voidOrder c orderId =>
      simp only [execute] at locked ⊢
      rcases w.command_cases input.dbError
        (Gate.voidOrderAndReleaseReservation P c orderId (input.now 0)) with
        ⟨failure, done, -⟩ | ⟨db, -, ran, done⟩
      · rw [done]
        exact budgeted
      · obtain ⟨middle, entries, mandates, ledger⟩ := (voidOrder_ok ran).ledger
        rw [done] at locked ⊢
        exact budgeted_of_operation budgeted entries mandates
          (fun budgeted => budgeted.release (carries_of_entries entries carries) _)
          (Ledger.mandates_release ..) ledger locked
  | sweep =>
      simp only [execute]
      rcases w.command_cases input.dbError (fun db =>
        (Ledger.sweep P input.now input.ids P.settings.reservationTtlS db).map Prod.snd) with
        ⟨failure, done, -⟩ | ⟨db, -, ran, done⟩
      · rw [done]
        exact budgeted
      · obtain ⟨swept, swept'⟩ := sweep_command ran
        rw [done]
        exact (budgeted.sweep swept').1
  | _ => simp [Action.writes] at written

end Actl
