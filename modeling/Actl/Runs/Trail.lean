import Actl.Effects.Trail
import Actl.Runs.Settlements

/-!
# The audit trail

The audit log of every run explains itself: before each entry there is the entry it
follows from, about the same purchase (`audit_trail_grounded`).

An entry is appended by a call that has done what comes before it, or it is about a row of
the store that was logged when it was added.
-/

set_option autoImplicit false

namespace Actl

open Foundation (Step Table Grounded Recalls grounded_nil recalls_nil)
open Foundation.System (Config Lawful initial run_journal_invariant admissible_of_forall)
open Audit (AuditEntry Caused Field Shown)
open Gate (MoneyActionRequest)
open Ledger (phaseOf)

/-! ## What the steps leave in the log -/

/-- What a step has left in the log. -/
structure Logs (P : Platform) (w : World) (s : Step Action Input World) : Prop where
  reserved : ∀ req key, Answered P s (.attemptG1ThroughG5 req key) none →
    Shown w.db.auditLog.entries .budgetReserved (reservedTexts req.mandateId key)
  captured : ∀ orderId paymentId signature actorId traceId,
    Answered P s (.recordPaymentCaptured orderId paymentId signature actorId traceId) () →
    Shown w.db.auditLog.entries .paymentResult (capturedTexts orderId paymentId)

section Logs

variable {P : Platform} {w : World}

theorem Logs.kept {s : Step Action Input World} (logs : Logs P w s) (action : Action)
    (input : Input) : Logs P (execute P action input w).2 s := by
  have more := (execute_grows P action input w).audit.subset
  refine ⟨fun req key answered => ?_,
    fun orderId paymentId signature actorId traceId answered => ?_⟩
  · exact (logs.reserved req key answered).mono more (List.Subset.refl _)
  · exact (logs.captured _ _ _ _ _ answered).mono more (List.Subset.refl _)

theorem logs_step (P : Platform) (action : Action) (input : Input) (w : World) :
    Logs P (execute P action input w).2 ⟨action, input, w⟩ := by
  refine ⟨fun req key answered => ?_,
    fun orderId paymentId signature actorId traceId answered => ?_⟩
  · obtain ⟨rfl, passed⟩ := answered
    exact passed_shown passed
  · obtain ⟨rfl, recorded⟩ := answered
    exact captured_shown recorded

end Logs

/-! ## The invariant -/

/-- Mandates that are sealed with the same hash are the same mandate. -/
def SealedApart (db : Database) : Prop :=
  ∀ m ∈ db.lockedMandates, ∀ m' ∈ db.lockedMandates, m.specHash = m'.specHash →
    m.mandateId = m'.mandateId

/-- The store has the decision, and it allows the mandate a purchase. -/
def DecisionAllows (db : Database) (decisionId mandateId : String) : Prop :=
  ∃ decision ∈ db.decisions, decision.decisionId = decisionId ∧ decision.mandateId = mandateId ∧
    decision.verdict = .allow

/-- The log explains itself, and it has the entries of the store and of the steps. -/
structure Trail (P : Platform) (w : World) (journal : Journal) : Prop where
  grounded : Grounded Caused w.db.auditLog.entries
  evidenced : Evidenced w.db
  recalls : Recalls (Logs P w) journal

/-- A world in which nothing was offered yet. -/
structure Unsold (w : World) : Prop extends Blank w where
  noQuotes : ∀ quote, quote ∉ w.db.quotes
  noDecisions : ∀ decision, decision ∉ w.db.decisions
  noOrders : ∀ o, o ∉ w.db.orders
  noLog : w.db.auditLog.entries = []

namespace Trail

variable {P : Platform} {w : World} {journal : Journal} {index : Nat} {call : Call} {past : Past}
variable {action : Action} {input : Input}

theorem initial (P : Platform) (unsold : Unsold w) : Trail P w [] where
  grounded := by
    rw [unsold.noLog]
    exact grounded_nil _
  evidenced :=
    { quotes := fun quote member => absurd member (unsold.noQuotes quote)
      decisions := fun decision member => absurd member (unsold.noDecisions decision)
      holds := fun refId reserved => by
        refine absurd ((Ledger.orderly_of_empty unsold.noEntries).phaseOf_eq_none.mpr ?_) reserved
        simp [Database.listForRefId, unsold.noEntries]
      orders := fun o member => absurd member (unsold.noOrders o) }
  recalls := recalls_nil _

/-- A passed gate is logged. -/
theorem passed (trail : Trail P w journal) (found : journal[index]? = some (call, past))
    {req : MoneyActionRequest} (passed : PassedGate P past req) :
    Shown w.db.auditLog.entries .budgetReserved (reservedTexts req.mandateId (req.key P)) := by
  obtain ⟨s, taken, answered⟩ := passed
  exact (trail.recalls _ (List.mem_of_getElem? found) s taken).reserved req _ answered

/-- The reservation that a call compensates for is logged. -/
theorem compensated (trail : Trail P w journal) (settling : Settling P w journal)
    (found : journal[index]? = some (call, past)) (permitted : May P call past action)
    {c : Gate.Compensation} (issued : action.Compensates c) :
    Shown w.db.auditLog.entries .budgetReserved [(.subject "ref_id", c.refId)] := by
  have ofSaga : ∀ {args saga orderId}, Completes P call past args saga orderId →
      c.refId = args.sagaId →
      Shown w.db.auditLog.entries .budgetReserved [(.subject "ref_id", c.refId)] := by
    intro args saga orderId completes ref
    obtain ⟨id, -, reserved, -⟩ := settling.saga_known found completes
    rw [ref, ← id]
    exact trail.evidenced.holds saga.id reserved
  cases action with
  | releaseReservation c' =>
      obtain rfl : c' = c := issued
      obtain ⟨req, reason, -, passed, rfl⟩ := permitted
      exact (trail.passed found passed).mono (List.Subset.refl _) (by simp [reservedTexts,
        gateCompensation])
  | reverseSettlement c' orderId =>
      obtain rfl : c' = c := issued
      obtain ⟨args, saga, reason, actorId, traceId, amountMinor, key, completes, rfl, -⟩ :=
        permitted
      exact ofSaga completes rfl
  | voidOrder c' orderId =>
      obtain rfl : c' = c := issued
      obtain ⟨args, saga, reason, completes, rfl⟩ := permitted
      exact ofSaga completes rfl
  | _ => exact issued.elim

/-- The decision a passed gate has found allows the mandate of the request. -/
theorem decided (trail : Trail P w journal) (apart : SealedApart w.db) {req : MoneyActionRequest}
    {key : String} {now : Nat → Time} {db' : Database}
    (passed : GatePassed P req key now w.db db') :
    DecisionAllows w.db req.decisionId req.mandateId := by
  obtain ⟨row, found, -, ⟨decision, decided, -, specHash, verdict⟩, -⟩ := passed.mandate
  obtain ⟨stored, mine⟩ := Table.get?_mem found
  obtain ⟨inStore, named⟩ := Table.get?_mem decided
  obtain ⟨⟨m, member, owner, sealedWith⟩, -⟩ := trail.evidenced.decisions decision inStore verdict
  have same := apart m member row.mandate (List.mem_map_of_mem (Table.mem_def.mp stored))
    (sealedWith.trans specHash)
  exact ⟨decision, inStore, named, owner.symm.trans (same.trans mine), verdict⟩

/-- The mandate of a reservation had a proposal that was allowed. -/
theorem allowed (trail : Trail P w journal) (apart : SealedApart w.db) {req : MoneyActionRequest}
    {key : String} {now : Nat → Time} {db' : Database}
    (passed : GatePassed P req key now w.db db') :
    Shown w.db.auditLog.entries .orderProposed
      [(.subject "mandate_id", req.mandateId), (.payload "verdict", "ALLOW")] := by
  obtain ⟨decision, stored, -, owner, verdict⟩ := trail.decided apart passed
  have shown := (trail.evidenced.decisions decision stored verdict).2
  rwa [owner] at shown

/-- What an action appends follows from what the log has. -/
theorem caused (trail : Trail P w journal) (settling : Settling P w journal)
    (apart : SealedApart w.db) (found : journal[index]? = some (call, past)) (gated : call.Gated)
    (permitted : May P call past action) {entry : AuditEntry}
    (writes : Writes P action w.db entry) :
    Caused w.db.auditLog.entries entry := by
  intro c needed
  cases writes with
  | catalog kind =>
      rcases kind with kind | kind
      · rw [kind] at needed
        cases needed
      · rw [kind] at needed
        cases needed
  | proposed quote stored shows =>
      rw [shows.action] at needed
      cases needed
      exact (trail.evidenced.quotes quote stored).follows (by simp)
        (List.forall_mem_singleton.mpr ⟨quote.id, by simp, shows.text (by simp)⟩)
  | reserved req key now db' passed shows =>
      rw [shows.action] at needed
      cases needed
      exact (trail.allowed apart passed).follows (by simp)
        (List.forall_mem_singleton.mpr
          ⟨req.mandateId, by simp, shows.text (by simp [reservedTexts])⟩)
  | intended args issued shows =>
      rw [shows.action] at needed
      cases needed
      subst issued
      rcases permitted with direct | ⟨req, orderId, -, -, rfl, passed⟩
      · exact absurd direct (gated args)
      · refine (trail.passed found passed).follows (by simp) (List.forall_mem_cons.mpr
          ⟨⟨req.mandateId, by simp [reservedTexts], shows.text ?_⟩, List.forall_mem_singleton.mpr
            ⟨req.key P, by simp [reservedTexts], shows.text ?_⟩⟩)
        · exact List.mem_cons_of_mem _ List.mem_cons_self
        · exact List.mem_cons_of_mem _ (List.mem_cons_of_mem _ List.mem_cons_self)
  | resulted result =>
      obtain ⟨o, stored, shows⟩ := result
      rw [shows.action] at needed
      cases needed
      exact (trail.evidenced.orders o stored).follows (by simp)
        (List.forall_mem_singleton.mpr ⟨o.id, by simp [orderTexts], shows.text (by simp)⟩)
  | closed saga orderId paymentId actorId traceId issued shows =>
      rw [shows.action] at needed
      cases needed
      subst issued
      obtain ⟨args, signature, actorId', traceId', -, rfl, -, s, earlier, rfl, recorded⟩ :=
        permitted
      have shown := (trail.recalls _ (List.mem_of_getElem? found) s
        List.mem_cons_self).captured _ _ _ _ _ recorded
      exact shown.follows (by simp [capturedTexts]) (List.forall_mem_cons.mpr
        ⟨⟨orderId, by simp [capturedTexts], shows.text (by simp [closedTexts])⟩,
          List.forall_mem_singleton.mpr ⟨args.providerPaymentId, by simp [capturedTexts],
            shows.text (by simp [closedTexts])⟩⟩)
  | compensated c issued about =>
      rw [about.action] at needed
      cases needed
      exact (trail.compensated settling found permitted issued).follows (by simp)
        (List.forall_mem_singleton.mpr ⟨c.refId, by simp, about.text (by simp)⟩)
  | expired about =>
      obtain ⟨refId, reserved, shows⟩ := about
      rw [shows.action] at needed
      cases needed
      exact (trail.evidenced.holds refId reserved).follows (by simp)
        (List.forall_mem_singleton.mpr ⟨refId, by simp, shows.text (by simp)⟩)

theorem stepped (trail : Trail P w journal) (settling : Settling P w journal)
    (apart : SealedApart w.db) (found : journal[index]? = some (call, past)) (gated : call.Gated)
    (permitted : May P call past action) :
    Trail P (execute P action input w).2
      (journal.set index (call, ⟨action, input, w⟩ :: past)) where
  grounded := by
    obtain ⟨added, entries, writes⟩ := execute_log P action input w settling.orderly
    rw [entries]
    refine trail.grounded.append (fun past more item caused => ?_) fun e member => ?_
    · exact caused.mono (List.subset_append_left _ _)
    · exact trail.caused settling apart found gated permitted (writes e member)
  evidenced := trail.evidenced.kept settling.orderly P action input
  recalls := trail.recalls.stepped found (fun _ logs => logs.kept action input)
    (logs_step P action input w)

end Trail

/-! ## Runs -/

/-- Every call of the run goes through the gate. -/
def AllGated {P : Platform} (events : List (application P).Event) : Prop :=
  ∀ call ∈ events.flatMap Foundation.System.Event.started, call.Gated

section Gated

variable {P : Platform} {w : World} {holds : World → Journal → Prop}

/-- What each step of a gated call keeps while the log explains itself holds after every
gated run. -/
theorem run_gated (unsold : Unsold w) (apart : SealedApart w.db)
    (initially : holds w [])
    (started : ∀ w' journal call, holds w' journal → holds w' (journal ++ [(call, [])]))
    (stepped : ∀ w' journal index call past action input, holds w' journal →
      Trail P w' journal → Settling P w' journal → SealedApart w'.db →
      journal[index]? = some (call, past) → call.Gated → May P call past action →
      holds (execute P action input w').2 (journal.set index (call, ⟨action, input, w'⟩ :: past)))
    (events : List (application P).Event) (gated : AllGated events) :
    Trail P (afterRun P w events).state (afterRun P w events).journal ∧
      holds (afterRun P w events).state (afterRun P w events).journal := by
  have kept : (afterRun P w events).state.db.lockedMandates = w.db.lockedMandates ∧
      Settling P (afterRun P w events).state (afterRun P w events).journal ∧
      ((∀ call ∈ (afterRun P w events).journal.map Prod.fst, call.Gated) →
        Trail P (afterRun P w events).state (afterRun P w events).journal ∧
          holds (afterRun P w events).state (afterRun P w events).journal) := by
    refine run_journal_invariant (S := application P) (code_obeys P) (fun _ _ _ _ _ => True)
      (fun w' journal => w'.db.lockedMandates = w.db.lockedMandates ∧ Settling P w' journal ∧
        ((∀ call ∈ journal.map Prod.fst, call.Gated) → Trail P w' journal ∧ holds w' journal))
      (fun w' journal call keeps => ?_)
      (fun c index r action input disciplined keeps found permitted _ => ?_)
      ⟨rfl, Settling.initial P unsold.toBlank, fun _ => ⟨Trail.initial P unsold, initially⟩⟩
      (admissible_of_forall (fun c e => ?_) _ events)
    · obtain ⟨same, settling, both⟩ := keeps
      refine ⟨same, settling.started call, fun gated => ?_⟩
      rw [List.map_append] at gated
      obtain ⟨trail, before⟩ := both fun call' member => gated call' (List.mem_append_left _ member)
      exact ⟨⟨trail.grounded, trail.evidenced, trail.recalls.started call⟩,
        started _ _ call before⟩
    · obtain ⟨same, settling, both⟩ := keeps
      refine ⟨(execute_frame P action input c.state).mandates.trans same, settling.stepped found
        (disciplined.lawful (List.mem_of_getElem? found)) permitted, fun gated => ?_⟩
      rw [Foundation.calls_stepped found] at gated
      obtain ⟨trail, before⟩ := both gated
      have apart' : SealedApart c.state.db := by
        rw [SealedApart, same]
        exact apart
      have mine := gated _ (List.mem_map_of_mem (List.mem_of_getElem? found))
      exact ⟨trail.stepped settling apart' found mine permitted,
        stepped _ _ index _ _ action input before trail settling apart' found mine permitted⟩
    · cases e <;> simp [Foundation.System.Guarded]
  refine kept.2.2 fun call member => gated call ?_
  have calls := Config.run_calls (initial w : (application P).Config) events
  rw [Config.journal, List.map_map] at member
  rw [show (initial w : (application P).Config).calls = [] from rfl, List.map_nil,
    List.nil_append] at calls
  rw [← calls]
  exact member

end Gated

theorem run_trail (P : Platform) (w : World) (unsold : Unsold w) (apart : SealedApart w.db)
    (events : List (application P).Event) (gated : AllGated events) :
    Trail P (afterRun P w events).state (afterRun P w events).journal :=
  (@run_gated P w (fun _ _ => True) unsold apart trivial (fun _ _ _ _ => trivial)
    (fun _ _ _ _ _ _ _ _ _ _ _ _ _ _ => trivial) events gated).1

namespace Fixture

/-- The world before the first quote. -/
def unsold : World := world { database with quotes := .empty }

def quoting : Catalog.QuoteArgs where
  mandateId := "mdt_1"
  sku := seaView.sku
  nights := 3
  actorId := "agt_test"
  traceId := "trc_1"

/-- The proposal of the quote. -/
def ordering : Saga.ProposeArgs where
  quoteId := "id_1"
  quoteHash := (Catalog.draftQuote platform quoting seaView 1 "id_1" start).quoteHash
  mandateId := "mdt_1"
  mandateSpecHash := "sha256:6fb4cfd33dbf10d6f97a302b98e0953eb5ac41ce5767f8f799df11ea35b0b557"
  intentHash := seaViewHash
  traceId := "trc_1"
  actorId := "agt_test"

/-- A quote is asked for, proposed and paid. -/
def sold : List Event :=
  [.start (.createQuote quoting), .step 0 input] ++
    .start (.handleOrderPropose ordering "ord_1") :: List.replicate 9 (.step 1 input) ++
    .start (.completePurchase completion) :: List.replicate 6 (.step 2 input)

theorem unsold_unsold : Unsold unsold where
  noSagas := Table.not_mem_empty
  noEntries := rfl
  noPayments := ⟨rfl, rfl⟩
  noQuotes := Table.not_mem_empty
  noDecisions := Table.not_mem_empty
  noOrders := Table.not_mem_empty
  noLog := rfl

theorem unsold_apart : SealedApart unsold.db := by
  intro m member m' member' _
  rw [List.mem_singleton.mp member, List.mem_singleton.mp member']

theorem sold_gated : AllGated sold := by
  have calls : sold.flatMap Foundation.System.Event.started =
      [.createQuote quoting, .handleOrderPropose ordering "ord_1", .completePurchase completion] :=
    rfl
  rw [AllGated, calls]
  rintro call member args rfl
  rcases List.mem_cons.mp member with quoted | rest
  · cases quoted
  · rcases List.mem_cons.mp rest with proposed | completed
    · cases proposed
    · cases List.mem_singleton.mp completed

end Fixture

end Actl
