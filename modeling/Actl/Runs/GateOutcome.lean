import Actl.Obedience
import Actl.Runs.Fixture

/-!
# How the gate ends

A call of `execute_money_action` ends with its last step. It raises exactly when
that step is its own compensation and the database fails it. It denies with a
hold left under its key exactly when the hold was there before a last step that
compensates nothing: the halt check, the gates, or a read of the key that finds
no order.
-/

set_option autoImplicit false

namespace Actl

open Foundation.System (Admissible Guarded initial run_journal_invariant run_disciplined
  getElem?_set_cases getElem?_append_cases admissible_of_forall)
open Gate (MoneyActionRequest MoneyActionResult)
open Ledger (stateOfRef)

/-! ## Mandates stay -/

/-- No step of a run has seen other mandates than there are now. -/
def SameMandates (w : World) (journal : List (Call × Past)) : Prop :=
  ∀ entry ∈ journal, ∀ s ∈ entry.2, w.db.lockedMandates = s.before.db.lockedMandates

theorem run_sameMandates (P : Platform) (w : World) (events : List (application P).Event) :
    SameMandates ((initial w : (application P).Config).run events).state
      ((initial w : (application P).Config).run events).journal := by
  refine run_journal_invariant (S := application P) (code_obeys P) (fun _ _ _ _ _ => True)
    SameMandates ?_ ?_ ?_ (admissible_of_forall (fun c e => ?_) _ events)
  · intro w journal call same entry member s step
    rcases List.mem_append.mp member with old | new
    · exact same entry old s step
    · rw [List.mem_singleton.mp new] at step
      cases step
  · intro c index r action input _ same found _ _ entry member s step
    have kept := (execute_frame P action input c.state).mandates
    rcases List.mem_or_eq_of_mem_set member with old | rfl
    · exact kept.trans (same entry old s step)
    · rcases List.mem_cons.mp step with rfl | earlier
      · exact kept
      · exact kept.trans (same _ (List.mem_of_getElem? found) s earlier)
  · intro entry member
    cases member
  · cases e <;> simp [Guarded]

/-- The mandate a call has passed the gate with is still there. -/
theorem SameMandates.getMandate {P : Platform} {w : World} {journal : List (Call × Past)}
    (same : SameMandates w journal) {call : Call} {past : Past}
    (member : (call, past) ∈ journal) {req : MoneyActionRequest} (passed : PassedGate P past req) :
    ∃ row, w.db.getMandate req.mandateId = some row := by
  obtain ⟨s, step, -, answered⟩ := passed
  simp only [execute] at answered
  rcases s.before.transaction_cases s.input.dbError
    (Gate.attemptG1ThroughG5 P req (req.key P) (s.input.now 0)) with
    ⟨failure, done, -⟩ | ⟨value, db, -, ran, done⟩
  · rw [done] at answered
    cases answered
  · rw [done] at answered
    cases answered
    rcases attemptG1ThroughG5_ok ran with ⟨code, denied, -⟩ | ⟨-, gate⟩
    · cases denied
    · obtain ⟨row, found, -⟩ := gate.mandate
      obtain ⟨row', found', -⟩ := getMandate_of_locked (same _ member s step) found
      exact ⟨row', found'⟩

/-! ## The last step -/

/-- The call is an attempt under the key. -/
def Attempts (P : Platform) (key : String) (call : Call) (past : Past) : Prop :=
  (∃ args, call = .createProviderOrder args ∧ args.key P = key) ∨
    ∃ req, Requests P past req call ∧ req.key P = key

/-- No other attempt under the key is running. -/
def Alone {P : Platform} (c : (application P).Config) (index : Nat) (key : String) : Prop :=
  ∀ (j : Nat) r, j ≠ index → c.calls[j]? = some r → r.InProgress →
    ¬ Attempts P key r.call r.history

/-- What the gate owes at its return: a result, and after a denial no hold under
the key, unless another attempt is running. -/
def Delivers {P : Platform} (c : (application P).Config) (index : Nat) (key : String)
    (result : Except Failure Outcome) : Prop :=
  ∃ money, result = .ok (.money money) ∧
    (money.verdict = .deny → Alone c index key → stateOfRef c.state.db key ≠ some .held)

/-- The step is one that compensates nothing and does not find an order under the
key. -/
def EndsBare (P : Platform) (req : MoneyActionRequest) (db : Database) : Action → Prop
  | .getHaltState => True
  | .attemptG1ThroughG5 _ _ => True
  | .lookupIdempotencyKey key =>
      key = req.key P ∧ ∀ order, Payments.lookupIdempotencyKey db key ≠ .ok (.completed order)
  | .pollIdempotencyKey key =>
      key = req.key P ∧ ∀ order, Payments.pollIdempotencyKey db key ≠ .ok (some order)
  | _ => False

section LastStep

variable {P : Platform} {req : MoneyActionRequest} {action : Action} {input : Input} {w : World}

/-- A step that compensates nothing changes no hold. -/
theorem EndsBare.ledger (bare : EndsBare P req w.db action)
    (denied : ∀ key, action = .attemptG1ThroughG5 req key →
      ¬ Answered P ⟨action, input, w⟩ (.attemptG1ThroughG5 req key) none)
    (own : ∀ req' key, action = .attemptG1ThroughG5 req' key → req' = req) :
    (execute P action input w).2.db.ledgerEntries = w.db.ledgerEntries := by
  cases action with
  | attemptG1ThroughG5 req' key =>
      obtain rfl := own req' key rfl
      have refused := denied key rfl
      simp only [Answered, execute, true_and] at refused
      simp only [execute]
      rcases w.transaction_cases input.dbError (Gate.attemptG1ThroughG5 P req' key (input.now 0))
        with ⟨failure, done, -⟩ | ⟨value, db, -, ran, done⟩
      · rw [done]
      · rw [done] at refused ⊢
        rcases attemptG1ThroughG5_ok ran with ⟨code, -, same⟩ | ⟨passed, -⟩
        · rw [same]
        · exact absurd (by rw [passed]) refused
  | getHaltState => simp only [execute, World.query_world]
  | lookupIdempotencyKey key => simp only [execute, World.query_world]
  | pollIdempotencyKey key => simp only [execute, World.query_world]
  | _ => exact bare.elim

/-- Waiting for another attempt is a bare end. -/
theorem Waits.endsBare (waits : Waits P ⟨action, input, w⟩ (req.key P)) :
    EndsBare P req w.db action := by
  rcases waits with ⟨rfl, raised⟩ | ⟨rfl, raised⟩ | ⟨rfl, answered⟩
  · refine ⟨rfl, fun order found => ?_⟩
    simp only [execute] at raised
    rcases w.query_cases input.dbError (Payments.lookupIdempotencyKey · (req.key P)) with
      ⟨done, -⟩ | ⟨done, -⟩
    · rw [done] at raised
      cases raised
    · rw [done, found] at raised
      cases raised
  · refine ⟨rfl, fun order found => ?_⟩
    simp only [execute] at raised
    rcases w.query_cases input.dbError (Payments.pollIdempotencyKey · (req.key P)) with
      ⟨done, -⟩ | ⟨done, -⟩
    · rw [done] at raised
      cases raised
    · rw [done, found] at raised
      cases raised
  · refine ⟨rfl, fun order found => ?_⟩
    simp only [execute] at answered
    rcases w.query_cases input.dbError (Payments.pollIdempotencyKey · (req.key P)) with
      ⟨done, -⟩ | ⟨done, -⟩
    · rw [done] at answered
      cases answered
    · rw [done, found] at answered
      cases answered

/-- A report of an order is no bare end. -/
theorem Reports.not_endsBare {key : String} {order : OrderRecord}
    (reports : Reports P ⟨action, input, w⟩ key order) : ¬ EndsBare P req w.db action := by
  rcases reports with ⟨rfl, looked⟩ | ⟨rfl, polled⟩ | ⟨args, providerOrderId, -, rfl, -⟩
  · rintro ⟨-, missing⟩
    simp only [execute] at looked
    rcases w.query_cases input.dbError (Payments.lookupIdempotencyKey · key) with
      ⟨done, -⟩ | ⟨done, -⟩
    · rw [done] at looked
      cases looked
    · rw [done] at looked
      exact missing order looked
  · rintro ⟨-, missing⟩
    simp only [execute] at polled
    rcases w.query_cases input.dbError (Payments.pollIdempotencyKey · key) with
      ⟨done, -⟩ | ⟨done, -⟩
    · rw [done] at polled
      cases polled
    · rw [done] at polled
      exact missing order polled
  · exact fun bare => bare

/-- The compensation raises exactly when the database fails it. -/
theorem releaseReservation_answer (P : Platform) (c : Gate.Compensation) (input : Input)
    (w : World) :
    (input.dbError = true ∧ (execute P (.releaseReservation c) input w).1 = .error .dbapiError) ∨
      (input.dbError = false ∧ (execute P (.releaseReservation c) input w).1 = .ok () ∧
        (execute P (.releaseReservation c) input w).2.db.ledgerEntries
          = (Ledger.release w.db (input.now 0) c.mandateId c.amountMinor c.refId).2.ledgerEntries) := by
  obtain ⟨db', released, ledger, -⟩ := releaseReservation_ok P c (input.now 0) w.db
  simp only [execute]
  rcases w.command_cases input.dbError
    (Gate.releaseReservationAndMarkCompensated P c (input.now 0)) with
    ⟨failure, done, why⟩ | ⟨db, clean, ran, done⟩
  · rw [done]
    rcases why with ⟨failed, rfl⟩ | raised
    · exact .inl ⟨failed, rfl⟩
    · rw [released] at raised
      cases raised
  · rw [done]
    rw [released] at ran
    cases ran
    exact .inr ⟨clean, rfl, ledger⟩

end LastStep

/-! ## The outcome -/

section Outcome

variable {P : Platform} {req : MoneyActionRequest} {action : Action} {input : Input} {w : World}
variable {past : Past} {orderId : String} {result : Except Failure Outcome}

/-- How the last step decides the outcome. -/
inductive Ending (P : Platform) (req : MoneyActionRequest) (action : Action) (input : Input)
    (w : World) : Except Failure Outcome → Prop where
  | allows (money : MoneyActionResult) (order : OrderRecord) (allowed : money.verdict = .allow)
      (reports : Reports P ⟨action, input, w⟩ (req.key P) order) :
      Ending P req action input w (.ok (.money money))
  | denies (money : MoneyActionResult) (denied : money.verdict = .deny)
      (bare : EndsBare P req w.db action)
      (ledger : (execute P action input w).2.db.ledgerEntries = w.db.ledgerEntries) :
      Ending P req action input w (.ok (.money money))
  | compensates (money : MoneyActionResult) (reason : String) (denied : money.verdict = .deny)
      (answered : Answered P ⟨action, input, w⟩
        (.releaseReservation (gateCompensation P req reason)) ()) :
      Ending P req action input w (.ok (.money money))
  | raises (failure failure' : Failure) (reason : String)
      (raised : Raised P ⟨action, input, w⟩
        (.releaseReservation (gateCompensation P req reason)) failure') :
      Ending P req action input w (.error failure)

theorem ending_of_ends (permitted : May P (.executeMoneyAction req orderId) past action)
    (ends : Ends P (.executeMoneyAction req orderId) result (⟨action, input, w⟩ :: past)) :
    Ending P req action input w result := by
  have own : ∀ req' key, action = .attemptG1ThroughG5 req' key → req' = req := by
    rintro req' key rfl
    exact permitted.2.1
  cases result with
  | error failure =>
      obtain ⟨-, s, earlier, same, reason, failure', raised⟩ := ends
      cases same
      exact .raises failure failure' reason raised
  | ok outcome =>
      cases outcome with
      | money money =>
          rcases ends with ⟨allowed, -, order, ⟨s, earlier, same, reports⟩, -⟩ |
            ⟨denied, s, earlier, same, halt | ⟨attempt, refused⟩ | waits | ⟨reason, answered, -⟩⟩
          · cases same
            exact .allows money order allowed reports
          · cases same
            cases halt
            have bare : EndsBare P req w.db .getHaltState := trivial
            exact .denies money denied bare (bare.ledger (fun key other => by cases other) own)
          · cases same
            cases attempt
            have bare : EndsBare P req w.db (.attemptG1ThroughG5 req (req.key P)) := trivial
            exact .denies money denied bare (bare.ledger
              (fun key same' => by cases same'; exact refused) own)
          · cases same
            refine .denies money denied waits.endsBare
              (EndsBare.ledger waits.endsBare (fun key other => ?_) own)
            rcases waits with ⟨issued, -⟩ | ⟨issued, -⟩ | ⟨issued, -⟩ <;>
            · rw [other] at issued
              cases issued
          · cases same
            exact .compensates money reason denied answered
      | _ => exact ends.elim

end Outcome

namespace Fixture

/-- The provider refuses the order, and the database fails the compensation. -/
def failedCompensation : List Event :=
  [.start (.executeMoneyAction request "ord_1"), .step 0 input, .step 0 input, .step 0 input,
    .step 0 input, .step 0 { input with answer := .error (.terminal "BAD_REQUEST_ERROR") },
    .step 0 input, .step 0 { input with dbError := true }]

/-- The provider creates the order, the database fails to record it, and the
retried attempt waits for itself. -/
def lostOrder : List Event :=
  [.start (.executeMoneyAction request "ord_1"), .step 0 input, .step 0 input, .step 0 input,
    .step 0 input, .step 0 input, .step 0 { input with dbError := true }, .step 0 input]
    ++ List.replicate 40 (.step 0 input)

end Fixture

end Actl
