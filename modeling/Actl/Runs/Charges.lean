import Actl.Runs.Terms
import Actl.Runs.Fixture

/-!
# Charges stay inside the mandate

Four writers mark an order CAPTURED and only one of them moves the ledger, and
the sweeper frees a hold by its age alone. Where an order is marked CAPTURED only
while its reservation takes up budget, a reservation is freed only while its
order is not CAPTURED, and requests under one key are for one mandate and amount,
the captured orders of a mandate are all covered by its reservations, and so
within its cap.
-/

set_option autoImplicit false

namespace Actl

open Foundation (Step Table)
open Foundation.System (Admissible Guarded initial run_journal_invariant)
open Gate (MoneyActionRequest)
open Ledger (Phase Orderly phaseOf stateOfRef account Carries terms Budgeted)

/-! ## The condition -/

/-- An action that frees the reservation of a captured order also fails it. -/
def Action.FailsOrder (action : Action) (o : OrderRecord) : Prop :=
  ∃ c, action = .reverseSettlement c o.id

/-- Orders are marked CAPTURED only while their reservation takes up budget,
reservations are freed only while their order is not CAPTURED, and requests carry
the terms of what is reserved under their key. -/
structure ChargeStep (P : Platform) (db : Database) (call : Call) (action : Action)
    (input : Input) : Prop where
  terms : KeepsTerms db call action
  sagas : KeepsSagaTerms db action
  charged : ∀ o ∈ db.orders, action.Changes P input db o .captured → LiveHold db o.idempotencyKey
  freed : ∀ o ∈ db.orders, o.status = .captured → action.Frees P input db o.idempotencyKey →
    action.FailsOrder o

def KeepsCharges {P : Platform} (c : (application P).Config) (_ : Nat)
    (r : (application P).Running) (action : Action) (input : Input) : Prop :=
  ChargeStep P c.state.db r.call action input

/-! ## The invariant -/

/-- Captured orders are covered by reservations, and the reservations are within
the caps. -/
structure Covered (P : Platform) (w : World) (journal : Journal) : Prop where
  termed : Termed P w journal
  sagas : SagaTermed P w journal
  budgeted : Budgeted w.db
  covered : ∀ o ∈ w.db.orders, o.status = .captured → LiveHold w.db o.idempotencyKey

namespace Covered

variable {P : Platform} {w : World} {journal : Journal} {index : Nat} {call : Call} {past : Past}
variable {action : Action} {input : Input}

theorem started (covered : Covered P w journal) (call : Call) :
    Covered P w (journal ++ [(call, [])]) :=
  ⟨covered.termed.started call, covered.sagas.started call, covered.budgeted, covered.covered⟩

/-- A reversal leaves its order failed. -/
theorem not_captured_of_reversed {c : Gate.Compensation} {orderId : String}
    (changed : (execute P (.reverseSettlement c orderId) input w).2.db.ledgerEntries
      ≠ w.db.ledgerEntries) {o : OrderRecord}
    (member : o ∈ (execute P (.reverseSettlement c orderId) input w).2.db.orders)
    (mine : o.id = orderId) : o.status ≠ .captured := by
  simp only [execute] at changed member
  rcases w.command_cases input.dbError (Gate.reverseSettlementAfterRefund P c orderId (input.now 0))
    with ⟨failure, done, -⟩ | ⟨db, -, ran, done⟩
  · rw [done] at changed
    exact absurd rfl changed
  · rw [done] at member
    have closed := (reverseSettlementAfterRefund_ok ran).closed o member mine
    have failed : o.status = .failed := closed.elim of_decide_eq_true id
    rw [failed]
    decide

theorem covered_step (covered : Covered P w journal)
    (guarded : ChargeStep P w.db call action input) (o' : OrderRecord)
    (member : o' ∈ (execute P action input w).2.db.orders) (charged : o'.status = .captured) :
    LiveHold (execute P action input w).2.db o'.idempotencyKey := by
  rcases (execute_orders P action input w).backward o' member with
    ⟨o, present, becomes⟩ | ⟨args, born⟩
  · have live : LiveHold w.db o.idempotencyKey := by
      rcases becomes.status with same | changes
      · exact covered.covered o present (same.symm.trans charged)
      · exact guarded.charged o present (charged ▸ changes)
    rw [becomes.same.idempotencyKey]
    by_cases freed : action.Frees P input w.db o.idempotencyKey
    · by_cases before : o.status = .captured
      · obtain ⟨c, rfl⟩ := guarded.freed o present before freed
        -- Either the reversal did not go through, or it has failed the order.
        by_cases same : (execute P (.reverseSettlement c o.id) input w).2.db.ledgerEntries
            = w.db.ledgerEntries
        · rw [LiveHold, Ledger.phaseOf_congr same]
          exact live
        · exact absurd charged (not_captured_of_reversed same member becomes.same.id)
      · -- An action that frees reservations captures no order.
        rcases becomes.status with same | changes
        · exact absurd (same.symm.trans charged) before
        · rw [charged] at changes
          cases action with
          | releaseReservation c => exact changes.elim
          | voidOrder c orderId => exact absurd changes.2.2 (by decide)
          | reverseSettlement c orderId => exact absurd changes.2.2 (by decide)
          | sweep => exact changes.elim
          | _ => exact freed.elim
    · exact liveHold_kept covered.termed.orderly live freed
  · rw [born.status] at charged
    cases charged

theorem stepped (covered : Covered P w journal) (found : journal[index]? = some (call, past))
    (permitted : May P call past action) (guarded : ChargeStep P w.db call action input) :
    Covered P (execute P action input w).2
      (journal.set index (call, ⟨action, input, w⟩ :: past)) where
  termed := covered.termed.stepped found permitted guarded.terms
  sagas := covered.sagas.stepped found guarded.sagas
  budgeted := by
    refine execute_budgeted P action input w covered.budgeted
      (carriesTerms_of_termed covered.termed covered.sagas found permitted guarded.terms) ?_
    rintro req key rfl
    have wellFormed := permitted.2.2.1
    simp only [MoneyActionRequest.isMalformed, decide_eq_false_iff_not, not_or, not_le] at wellFormed
    exact wellFormed.1
  covered := covered.covered_step guarded

/-- The captured orders of a mandate add up to at most its cap. -/
theorem sum_le (covered : Covered P w journal) {row : MandateRow} (member : row ∈ w.db.mandates) :
    ((w.db.orders.rows.filter fun o => o.status = .captured ∧ o.mandateId = row.id).map
      OrderRecord.amountMinor).sum ≤ row.mandate.bounds.maxTotalMinor := by
  obtain ⟨book, kept, within⟩ := covered.budgeted
  have keys := w.db.orders.unique OrderRecord.idempotencyKey (by simp)
  refine le_trans (Ledger.Book.sum_le_committed kept.positive row.id
    (keys.sublist (List.filter_sublist.map _)) fun o listed => ?_) (within row member)
  simp only [List.mem_filter, Bool.decide_and, Bool.and_eq_true, decide_eq_true_eq] at listed
  obtain ⟨present, charged, own⟩ := listed
  have live := covered.covered o present charged
  have reserved := covered.termed.placed o present
  rw [LiveHold, kept.phaseOf_eq] at live
  obtain ⟨h, held⟩ : ∃ h, book.find? o.idempotencyKey = some h := by
    cases found : book.find? o.idempotencyKey with
    | some h => exact ⟨h, rfl⟩
    | none => simp [found] at live
  obtain ⟨inBook, ref⟩ := Ledger.Book.find?_eq_some.mp held
  have carries : Carries w.db o.idempotencyKey o.mandateId o.amountMinor :=
    Ledger.carries_iff_terms.mpr (by simp [reserved])
  obtain ⟨mandate, amount⟩ := kept.terms_of_carries carries h inBook ref
  refine ⟨h, inBook, ref, mandate.trans own, amount, ?_⟩
  simp only [held, Option.map_some, Option.some.injEq] at live
  rcases live with phase | phase <;> simp [phase, Phase.isLive]

end Covered

namespace Fixture

/-- A check that is enough for a gate call and a reconciliation after it. -/
def checkCharges (c : (application platform).Config) : Event → Bool
  | .step index _ =>
      match c.next? index with
      | some (.attemptG1ThroughG5 _ _) =>
          c.state.db.ledgerEntries.isEmpty && c.state.db.sagas.rows.isEmpty
      | some (.claimOrder _) => c.calls.all fun r =>
          match r.call with
          | .createProviderOrder _ => false
          | _ => true
      | some .reconcileNonTerminalOrders => c.state.db.orders.rows.all fun o =>
          phaseOf c.state.db o.idempotencyKey = some .held
      | some .getHaltState | some (.lookupIdempotencyKey _) | some (.createOrder _)
      | some (.recordProviderOrder _ _) => true
      | _ => false
  | _ => true

theorem keepsCharges_of_check (c : (application platform).Config) (e : Event)
    (checked : checkCharges c e = true) : Guarded KeepsCharges c e := by
  cases e with
  | start call => trivial
  | crash index => trivial
  | step index input =>
      intro r action next issues
      simp only [checkCharges, issues.next?] at checked
      cases action with
      | attemptG1ThroughG5 req key =>
          rw [Bool.and_eq_true, List.isEmpty_iff, List.isEmpty_iff] at checked
          refine ⟨fun e member => ?_, fun s member => ?_, fun _ _ changes => changes.elim,
            fun _ _ _ frees => frees.elim⟩
          · simp [Database.listForRefId, checked.1] at member
          · rw [Table.mem_def, checked.2] at member
            cases member
      | claimOrder args =>
          have fine := List.all_eq_true.mp checked r issues.mem
          refine ⟨fun direct => ?_, trivial, fun _ _ changes => changes.elim,
            fun _ _ _ frees => frees.elim⟩
          simp [direct] at fine
      | reconcileNonTerminalOrders =>
          refine ⟨trivial, trivial, fun o member _ => ?_, fun _ _ _ frees => frees.elim⟩
          exact .inl (of_decide_eq_true (List.all_eq_true.mp checked o member))
      | getHaltState => exact ⟨trivial, trivial, fun _ _ c => c.elim, fun _ _ _ f => f.elim⟩
      | lookupIdempotencyKey key =>
          exact ⟨trivial, trivial, fun _ _ c => c.elim, fun _ _ _ f => f.elim⟩
      | createOrder args => exact ⟨trivial, trivial, fun _ _ c => c.elim, fun _ _ _ f => f.elim⟩
      | recordProviderOrder args number =>
          exact ⟨trivial, trivial, fun _ _ c => c.elim, fun _ _ _ f => f.elim⟩
      | _ => cases checked

/-- A gate call that makes an order. -/
def ordered : List Event :=
  .start (.executeMoneyAction request "ord_1") :: List.replicate 6 (.step 0 input)

/-- What the provider reports five minutes later: the order was paid. -/
def paidLater : Input :=
  { input with
    now := fun _ _ => start + 301000000
    polls := fun _ => .ok [⟨"pay_1", .captured, none⟩] }

/-- The reconciler finds the order paid. -/
def reconciled : List Event :=
  ordered ++ [.start .reconcileNonTerminalOrders, .step 1 paidLater]

/-- The hold expires before the reconciler finds the order paid. -/
def sweptThenPaid : List Event :=
  ordered ++ [.start .sweep, .step 1 paidLater, .start .reconcileNonTerminalOrders,
    .step 2 paidLater]

end Fixture

end Actl
