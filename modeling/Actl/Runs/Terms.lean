import Actl.Effects.Holds
import Actl.Runs.Idempotency

/-!
# What is reserved for what

A reservation has the terms of the request that made it. In runs in which every
gate finds under its key nothing or a reservation with its own terms, and orders
are created by gate calls only, every passed gate and every order is for exactly
what is reserved under its key.
-/

set_option autoImplicit false

namespace Actl

open Foundation (Step)
open Gate (MoneyActionRequest)
open Ledger (Orderly phaseOf account Carries terms)

/-- The latest step of a call that has just passed the gate, or an earlier one. -/
theorem passedGate_cons {P : Platform} {s : Step Action Input World} {past : Past}
    {req : MoneyActionRequest} (passed : PassedGate P (s :: past) req) :
    Answered P s (.attemptG1ThroughG5 req (req.key P)) none ∨ PassedGate P past req := by
  obtain ⟨s', member, answered⟩ := passed
  rcases List.mem_cons.mp member with rfl | earlier
  · exact .inl answered
  · exact .inr ⟨s', earlier, answered⟩

/-- A gate finds its own terms under its key, and an order is created by a gate
call. -/
def KeepsTerms (db : Database) (call : Call) : Action → Prop
  | .attemptG1ThroughG5 req key => Carries db key req.mandateId req.amountMinor
  | .claimOrder args => call ≠ .createProviderOrder args
  | _ => True

/-- Every passed gate and every order is for what is reserved under its key. -/
structure Termed (P : Platform) (w : World) (journal : Journal) : Prop where
  orderly : Orderly w.db
  single : ∀ key, phaseOf w.db key ≠ none → ∃ t, terms w.db key = [t]
  fixed : ∀ entry ∈ journal, ∀ req, PassedGate P entry.2 req →
    terms w.db (req.key P) = [(account req.mandateId .reserved, req.amountMinor)]
  placed : ∀ o ∈ w.db.orders,
    terms w.db o.idempotencyKey = [(account o.mandateId .reserved, o.amountMinor)]

namespace Termed

variable {P : Platform} {w : World} {journal : Journal} {index : Nat} {call : Call} {past : Past}
variable {action : Action} {input : Input}

theorem initial (noOrders : ∀ o, o ∉ w.db.orders) (noEntries : w.db.ledgerEntries = []) :
    Termed P w [] := by
  have orderly := Ledger.orderly_of_empty noEntries
  refine ⟨orderly, fun key known => ?_, fun entry member => ?_,
    fun o member => absurd member (noOrders o)⟩
  · refine absurd (orderly.phaseOf_eq_none.mpr ?_) known
    simp [Database.listForRefId, noEntries]
  · cases member

theorem started (termed : Termed P w journal) (call : Call) :
    Termed P w (journal ++ [(call, [])]) := by
  refine ⟨termed.orderly, termed.single, fun entry member req passed => ?_, termed.placed⟩
  rcases List.mem_append.mp member with old | new
  · exact termed.fixed entry old req passed
  · rw [List.mem_singleton.mp new] at passed
    obtain ⟨s, step, -⟩ := passed
    cases step

theorem single_step (termed : Termed P w journal) (key : String)
    (known : phaseOf (execute P action input w).2.db key ≠ none) :
    ∃ t, terms (execute P action input w).2.db key = [t] := by
  by_cases fresh : phaseOf w.db key = none
  · obtain ⟨req, -, opened⟩ := terms_of_opened termed.orderly fresh known
    exact ⟨_, opened⟩
  · obtain ⟨t, before⟩ := termed.single key fresh
    exact ⟨t, terms_kept P action input before⟩

/-- A gate that passes fixes the terms under its key, or finds its own. -/
theorem passed_terms (termed : Termed P w journal) {req : MoneyActionRequest} {key : String}
    (carries : Carries w.db key req.mandateId req.amountMinor)
    (answered : (execute P (.attemptG1ThroughG5 req key) input w).1 = .ok none) :
    terms (execute P (.attemptG1ThroughG5 req key) input w).2.db key
      = [(account req.mandateId .reserved, req.amountMinor)] := by
  by_cases fresh : phaseOf w.db key = none
  · obtain ⟨req', issued, opened⟩ :=
      terms_of_opened termed.orderly fresh (passed_known termed.orderly answered)
    cases issued
    exact opened
  · obtain ⟨t, before⟩ := termed.single key fresh
    have own : t = (account req.mandateId .reserved, req.amountMinor) :=
      Ledger.carries_iff_terms.mp carries t (by simp [before])
    exact terms_kept P _ input (own ▸ before)

theorem stepped (termed : Termed P w journal) (found : journal[index]? = some (call, past))
    (permitted : May P call past action) (guarded : KeepsTerms w.db call action) :
    Termed P (execute P action input w).2
      (journal.set index (call, ⟨action, input, w⟩ :: past)) := by
  have own := termed.fixed (call, past) (List.mem_of_getElem? found)
  refine ⟨(execute_holds P action input w termed.orderly).orderly, termed.single_step,
    fun entry member req passed => ?_, fun o member => ?_⟩
  · rcases List.mem_or_eq_of_mem_set member with other | rfl
    · exact terms_kept P action input (termed.fixed entry other req passed)
    · rcases passedGate_cons passed with ⟨rfl, answered⟩ | earlier
      · exact termed.passed_terms guarded answered
      · exact terms_kept P action input (own req earlier)
  · rcases (execute_orders P action input w).backward o member with
      ⟨o', present, becomes⟩ | ⟨args, born⟩
    · rw [becomes.same.idempotencyKey, becomes.same.mandateId, becomes.same.amountMinor]
      exact terms_kept P action input (termed.placed o' present)
    · have claimed := born.action
      subst claimed
      rcases permitted with direct | ⟨req, orderId, -, -, rfl, passed⟩
      · exact absurd direct guarded
      · rw [born.idempotencyKey, born.mandateId, born.amountMinor]
        exact terms_kept P _ input (own req passed)

end Termed

/-! ## Sagas -/

/-- A request under the key of a saga is for what the saga is for. -/
def KeepsSagaTerms (db : Database) : Action → Prop
  | .attemptG1ThroughG5 req key => ∀ s ∈ db.sagas, s.id = key →
      s.mandateId = req.mandateId ∧ s.amountMinor = req.amountMinor
  | .openSaga req key => Carries db key req.mandateId req.amountMinor
  | _ => True

/-- Every saga is for what is reserved under its id, and a saga that was read is
still there. -/
structure SagaTermed (P : Platform) (w : World) (journal : Journal) : Prop where
  sagas : ∀ s ∈ w.db.sagas, Carries w.db s.id s.mandateId s.amountMinor
  read : ∀ entry ∈ journal, ∀ sagaId saga, Did P entry.2 (.getSaga sagaId) (some saga) →
    saga.id = sagaId ∧ ∃ s ∈ w.db.sagas, saga.SamePurchase s

namespace SagaTermed

variable {P : Platform} {w : World} {journal : Journal} {index : Nat} {call : Call} {past : Past}
variable {action : Action} {input : Input}

theorem initial (noSagas : ∀ s, s ∉ w.db.sagas) : SagaTermed P w [] :=
  ⟨fun s member => absurd member (noSagas s), fun entry member => by cases member⟩

theorem started (termed : SagaTermed P w journal) (call : Call) :
    SagaTermed P w (journal ++ [(call, [])]) := by
  refine ⟨termed.sagas, fun entry member sagaId saga did => ?_⟩
  rcases List.mem_append.mp member with old | new
  · exact termed.read entry old sagaId saga did
  · rw [List.mem_singleton.mp new] at did
    obtain ⟨s, step, -⟩ := did
    cases step

/-- What a saga is for stays reserved under its id. -/
theorem carries_kept {refId mandateId : String} {amountMinor : Int}
    (carries : Carries w.db refId mandateId amountMinor)
    (own : ∀ req, action = .attemptG1ThroughG5 req refId →
      mandateId = req.mandateId ∧ amountMinor = req.amountMinor) :
    Carries (execute P action input w).2.db refId mandateId amountMinor := by
  rcases execute_terms P action input w refId with same | ⟨req, issued, -, opened⟩
  · exact (Ledger.carries_congr same).mpr carries
  · obtain ⟨rfl, rfl⟩ := own req issued
    rw [Ledger.carries_iff_terms, opened]
    simp

theorem getSaga_answer {s : Step Action Input World} {sagaId : String} {saga : SagaRecord}
    (answered : Answered P s (.getSaga sagaId) (some saga)) :
    saga ∈ s.before.db.sagas ∧ saga.id = sagaId := by
  have done := answered.2
  simp only [execute] at done
  rcases s.before.query_cases s.input.dbError (fun db => .ok (db.getSaga sagaId)) with
    ⟨failed, -⟩ | ⟨ran, -⟩
  · rw [failed] at done
    cases done
  · rw [ran] at done
    exact Database.getSaga_eq_some.mp (Except.ok.inj done)

theorem stepped (termed : SagaTermed P w journal) (found : journal[index]? = some (call, past))
    (guarded : KeepsSagaTerms w.db action) :
    SagaTermed P (execute P action input w).2
      (journal.set index (call, ⟨action, input, w⟩ :: past)) := by
  have rows := execute_sagas P action input w
  have kept : ∀ saga : SagaRecord, (∃ s ∈ w.db.sagas, saga.SamePurchase s) →
      ∃ s ∈ (execute P action input w).2.db.sagas, saga.SamePurchase s := by
    rintro saga ⟨s, member, same⟩
    obtain ⟨s', present, becomes⟩ := rows.forward s member
    exact ⟨s', present, becomes.same.id.trans same.id,
      becomes.same.mandateId.trans same.mandateId, becomes.same.amountMinor.trans same.amountMinor⟩
  refine ⟨fun s' member => ?_, fun entry member sagaId saga did => ?_⟩
  · rcases rows.backward s' member with ⟨s, present, becomes⟩ | ⟨req, born⟩
    · rw [becomes.same.id, becomes.same.mandateId, becomes.same.amountMinor]
      refine carries_kept (termed.sagas s present) fun req issued => ?_
      subst issued
      exact guarded s present rfl
    · have opened := born.action
      subst opened
      rw [born.mandateId, born.amountMinor]
      exact carries_kept guarded fun req issued => by cases issued
  · rcases List.mem_or_eq_of_mem_set member with old | rfl
    · obtain ⟨id, row⟩ := termed.read entry old sagaId saga did
      exact ⟨id, kept saga row⟩
    · obtain ⟨s, step, answered⟩ := did
      rcases List.mem_cons.mp step with rfl | earlier
      · obtain ⟨present, id⟩ := getSaga_answer answered
        exact ⟨id, kept saga ⟨saga, present, rfl, rfl, rfl⟩⟩
      · obtain ⟨id, row⟩ := termed.read _ (List.mem_of_getElem? found) sagaId saga
          ⟨s, earlier, answered⟩
        exact ⟨id, kept saga row⟩

/-- The saga a call completes is for what is reserved under its id. -/
theorem carries (termed : SagaTermed P w journal) (found : journal[index]? = some (call, past))
    {args : CompleteArgs} {saga : SagaRecord} {orderId : String}
    (completes : Completes P call past args saga orderId) :
    saga.id = args.sagaId ∧ Carries w.db args.sagaId saga.mandateId saga.amountMinor := by
  obtain ⟨id, s, present, same⟩ :=
    termed.read _ (List.mem_of_getElem? found) args.sagaId saga completes.read
  have row := termed.sagas s present
  rw [same.id, same.mandateId, same.amountMinor, id] at row
  exact ⟨id, row⟩

end SagaTermed

/-- The calls carry the terms of the reservations they touch. -/
theorem carriesTerms_of_termed {P : Platform} {w : World} {journal : Journal} {index : Nat}
    {call : Call} {past : Past} {action : Action} (termed : Termed P w journal)
    (sagas : SagaTermed P w journal) (found : journal[index]? = some (call, past))
    (permitted : May P call past action) (guarded : KeepsTerms w.db call action) :
    action.CarriesTerms w.db := by
  cases action with
  | attemptG1ThroughG5 req key => exact guarded
  | releaseReservation c =>
      obtain ⟨req, reason, -, passed, rfl⟩ := permitted
      have fixed := termed.fixed _ (List.mem_of_getElem? found) req passed
      refine Ledger.carries_iff_terms.mpr fun t member => ?_
      have reserved : t ∈ terms w.db (req.key P) := member
      rw [fixed] at reserved
      exact List.mem_singleton.mp reserved
  | voidOrder c orderId =>
      obtain ⟨args, saga, reason, completes, rfl⟩ := permitted
      exact (sagas.carries found completes).2
  | reverseSettlement c orderId =>
      obtain ⟨args, saga, reason, -, -, -, -, completes, rfl, -⟩ := permitted
      exact (sagas.carries found completes).2
  | settle saga orderId paymentId actorId traceId =>
      obtain ⟨args, -, -, -, completes, -⟩ := permitted
      obtain ⟨id, carries⟩ := sagas.carries found completes
      rw [← id] at carries
      exact carries
  | _ => trivial

end Actl
