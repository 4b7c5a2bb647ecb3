import Actl.Effects.Growth
import Actl.Runs.Fixture
import Actl.Runs.Idempotency

/-!
# The provider is asked after the records are written

A call of the gate asks the provider for an order only after it has passed the
gates, which left the reservation, and has won the claim of the key, which left the
key, the order and the audit entry of the intent. Nothing of it is ever taken back.
So wherever a run stops, what the provider may know of is in the store.
-/

set_option autoImplicit false

namespace Actl

open Foundation (Table)
open Foundation.System (Admissible Guarded initial run_disciplined run_journal_invariant
  admissible_of_forall)
open Payments (OrderArgs)
open Gate (MoneyActionRequest)

/-- What is committed before the provider is asked for the order. -/
structure Recorded (P : Platform) (args : OrderArgs) (db : Database) : Prop where
  reservation : Reserves db.ledgerEntries (args.key P)
  order : ∃ o ∈ db.orders, o.id = args.orderId ∧ o.idempotencyKey = args.key P
  key : ∃ k ∈ db.idempotencyKeys, k.key = args.key P
  intent : ∃ entry ∈ db.auditLog.entries, WrittenAhead P args entry

section Steps

variable {P : Platform} {action : Action} {input : Input} {w : World}

/-- No action takes the records back. -/
theorem Recorded.kept {args : OrderArgs} (recorded : Recorded P args w.db) (action : Action)
    (input : Input) : Recorded P args (execute P action input w).2.db := by
  have grows := execute_grows P action input w
  obtain ⟨o, present, id, named⟩ := recorded.order
  obtain ⟨o', present', becomes⟩ := (execute_orders P action input w).forward o present
  obtain ⟨k, listed, key⟩ := recorded.key
  obtain ⟨k', listed', key', -⟩ := (execute_keys P action input w).forward k listed
  obtain ⟨entry, logged, ahead⟩ := recorded.intent
  exact ⟨recorded.reservation.mono grows.subset,
    ⟨o', present', becomes.same.id.trans id, becomes.same.idempotencyKey.trans named⟩,
    ⟨k', listed', key'.trans key⟩, ⟨entry, grows.audit.subset logged, ahead⟩⟩

/-- A passed gate leaves the reservation. -/
theorem passed_reserves {req : MoneyActionRequest} {key : String} (paired : Paired w.db)
    (passed : (execute P (.attemptG1ThroughG5 req key) input w).1 = .ok none) :
    Reserves (execute P (.attemptG1ThroughG5 req key) input w).2.db.ledgerEntries key := by
  simp only [execute] at passed ⊢
  rcases w.transaction_cases input.dbError (Gate.attemptG1ThroughG5 P req key (input.now 0)) with
    ⟨failure, done, -⟩ | ⟨value, db, -, ran, done⟩
  · rw [done] at passed
    cases passed
  · rw [done] at passed ⊢
    exact (grows_attemptG1ThroughG5 ran).2 paired (Except.ok.inj passed)

/-- A won claim leaves the rest. -/
theorem claimed_records {args : OrderArgs}
    (won : (execute P (.claimOrder args) input w).1 = .ok true)
    (reserved : Reserves w.db.ledgerEntries (args.key P)) :
    Recorded P args (execute P (.claimOrder args) input w).2.db := by
  have grows := execute_grows P (.claimOrder args) input w
  simp only [execute] at won grows ⊢
  rcases w.transaction_cases input.dbError (Payments.claimOrder P args (input.now 0)) with
    ⟨failure, done, -⟩ | ⟨value, db, -, ran, done⟩
  · rw [done] at won
    cases won
  · rw [done] at won grows ⊢
    cases won
    rcases claimOrder_ok ran with ⟨lost, -⟩ | ⟨-, -, ⟨k, named, -, inserted⟩,
      ⟨o, id, -, -, -, -, idempotencyKey, -, -, placed⟩, -⟩
    · cases lost
    · exact ⟨reserved.mono grows.subset,
        ⟨o, (Table.mem_of_insert? placed).mpr (.inr rfl), id, idempotencyKey⟩,
        ⟨k, (Table.mem_of_insert? inserted).mpr (.inr rfl), named⟩,
        (grows_claimOrder ran).2 rfl⟩

end Steps

/-! ## The invariant -/

/-- The call goes through the gate. -/
def Call.Gated (call : Call) : Prop := ∀ args, call ≠ .createProviderOrder args

/-- What a call has committed with its latest steps, and what was committed when it
asked the provider. -/
structure Ahead (P : Platform) (w : World) (past : Past) : Prop where
  passed : ∀ req, PassedGate P past req → Reserves w.db.ledgerEntries (req.key P)
  claimed : ∀ s ∈ past, ∀ args, Answered P s (.claimOrder args) true → Recorded P args w.db
  asked : ∀ s ∈ past, ∀ args, s.action = .createOrder args → Recorded P args s.before.db

namespace Ahead

variable {P : Platform} {w : World} {past : Past}

theorem initial (P : Platform) (w : World) : Ahead P w [] where
  passed _ passed := by
    obtain ⟨_, member, _⟩ := passed
    cases member
  claimed _ member := nomatch member
  asked _ member := nomatch member

/-- A step of another call. -/
theorem kept (ahead : Ahead P w past) (action : Action) (input : Input) :
    Ahead P (execute P action input w).2 past :=
  ⟨fun req passed => (ahead.passed req passed).mono (execute_grows P action input w).subset,
    fun s member args won => (ahead.claimed s member args won).kept action input, ahead.asked⟩

/-- The order that a gated call claims or creates is the one its gate has reserved
for. -/
theorem reserved (ahead : Ahead P w past) {call : Call} (gated : call.Gated) {args : OrderArgs}
    (orders : Orders P past args call) : Reserves w.db.ledgerEntries (args.key P) := by
  rcases orders with direct | ⟨req, orderId, -, -, rfl, passed⟩
  · exact absurd direct (gated args)
  · exact ahead.passed req passed

/-- A step of the call itself. -/
theorem stepped (ahead : Ahead P w past) (paired : Paired w.db) {call : Call}
    (gated : call.Gated) {action : Action} (input : Input) (permitted : May P call past action) :
    Ahead P (execute P action input w).2 (⟨action, input, w⟩ :: past) := by
  have before := ahead.kept action input
  refine ⟨fun req passed => ?_, fun s member args won => ?_, fun s member args asked => ?_⟩
  · obtain ⟨s, member, answered⟩ := passed
    rcases List.mem_cons.mp member with rfl | earlier
    · obtain ⟨rfl, passed⟩ := answered
      exact passed_reserves paired passed
    · exact before.passed req ⟨s, earlier, answered⟩
  · rcases List.mem_cons.mp member with rfl | earlier
    · obtain ⟨rfl, claimed⟩ := won
      exact claimed_records claimed (ahead.reserved gated permitted)
    · exact before.claimed s earlier args won
  · rcases List.mem_cons.mp member with rfl | earlier
    · -- The provider is asked by the call that owns the key.
      obtain rfl : action = .createOrder args := asked
      obtain ⟨s, member, won⟩ := Owns.won permitted.1
      exact ahead.claimed s member args won
    · exact ahead.asked s earlier args asked

end Ahead

/-! ## Runs -/

/-- The invariant of a run: the ledger is paired, and every gated call is ahead. -/
theorem run_ahead (P : Platform) (w : World) (paired : Paired w.db)
    (events : List (application P).Event) :
    let c := (initial w : (application P).Config).run events
    Paired c.state.db ∧ ∀ (i : Nat) call past, c.journal[i]? = some (call, past) → call.Gated →
      Ahead P c.state past := by
  refine run_journal_invariant (S := application P) (code_obeys P) (fun _ _ _ _ _ => True)
    (fun w journal => Paired w.db ∧ ∀ (i : Nat) call past, journal[i]? = some (call, past) →
      call.Gated → Ahead P w past)
    (fun w journal call keeps => ⟨keeps.1, fun i call' past found gated => ?_⟩)
    (fun c index r action input _ keeps found permitted _ => ⟨?_, fun i call past found' gated => ?_⟩)
    ⟨paired, fun i call past found => by simp at found⟩
    (admissible_of_forall (fun c e => by cases e <;> simp [Guarded]) _ events)
  · rcases Foundation.System.getElem?_append_cases found with old | same
    · exact keeps.2 i call' past old gated
    · cases same
      exact Ahead.initial P w
  · exact keeps.1.grows (execute_grows P action input c.state)
  · rcases Foundation.System.getElem?_set_cases found' with ⟨-, same⟩ | ⟨-, old⟩
    · cases same
      exact (keeps.2 index _ _ found gated).stepped keeps.1 gated input permitted
    · exact (keeps.2 i call past old gated).kept action input

/-- In every run of any number of calls, crashes included: when a call that goes
through the gate asks the provider for an order, the store holds the two entries of
the reservation, the order and the key row under the idempotency key, and the audit
entry with the key, the order, the amount and the currency; and it holds them ever
after. -/
theorem provider_call_written_ahead (P : Platform) (w : World) (paired : Paired w.db)
    (events : List (application P).Event) (r : (application P).Running)
    (made : r ∈ ((initial w : (application P).Config).run events).calls) (gated : r.call.Gated)
    (s : Foundation.Step Action Input World) (taken : s ∈ r.history) (args : OrderArgs)
    (asked : s.action = .createOrder args) :
    Recorded P args s.before.db ∧
      Recorded P args ((initial w : (application P).Config).run events).state.db := by
  obtain ⟨-, ahead⟩ := run_ahead P w paired events
  obtain ⟨i, found⟩ := List.getElem?_of_mem made
  have mine := ahead i r.call r.history (Foundation.System.Config.getElem?_journal found) gated
  refine ⟨mine.asked s taken args asked, ?_⟩
  have disciplined := run_disciplined (code_obeys P) w events
  obtain ⟨later, earlier, split⟩ := List.append_of_mem taken
  have lawful := (disciplined r made).lawful
  rw [split] at lawful
  have permitted := Lawful.of_append lawful
  rw [asked] at permitted
  obtain ⟨s', member, won⟩ := permitted.1.won
  exact mine.claimed s' (by rw [split]; simp [member]) args won

namespace Fixture

/-- A gate call up to its call of the provider. -/
def gateCallAtProvider : List Event :=
  .start (.executeMoneyAction request "ord_1") :: List.replicate 5 (.step 0 input)

/-- After the call of the provider everything is in the store, whatever becomes of the
call. -/
theorem gate_call_written_ahead :
    Recorded platform (request.orderArgs "ord_1")
      (reached decided (gateCallAtProvider ++ [.crash 0])).state.db := by
  have run : (reached decided (gateCallAtProvider ++ [.crash 0])).calls.map (fun r =>
      r.history.any fun s => match s.action with
        | .createOrder args => args = request.orderArgs "ord_1"
        | _ => false) = [true] := by
    decide +kernel
  cases found : (reached decided (gateCallAtProvider ++ [.crash 0])).calls with
  | nil =>
      rw [found] at run
      cases run
  | cons r calls =>
      rw [found] at run
      obtain ⟨s, taken, asked⟩ := List.any_eq_true.mp (List.cons.inj run).1
      have call : r.call = .executeMoneyAction request "ord_1" := by
        have first := reached_call decided (gateCallAtProvider ++ [.crash 0]) 0
        rw [found] at first
        exact Option.some.inj first
      have created : s.action = .createOrder (request.orderArgs "ord_1") := by
        split at asked
        · rename_i args same
          rw [same, of_decide_eq_true asked]
        · cases asked
      have paired : Paired (world decided).db := by
        have empty : (world decided).db.ledgerEntries = [] := rfl
        intro e member
        rw [empty] at member
        cases member
      rw [reached] at found ⊢
      exact (provider_call_written_ahead platform (world decided) paired _ r
        (by rw [found]; exact List.mem_cons_self)
        (fun args direct => by rw [call] at direct; cases direct) s taken _ created).2

end Fixture

end Actl
