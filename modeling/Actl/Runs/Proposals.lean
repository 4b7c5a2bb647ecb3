import Actl.Effects.Proposals
import Actl.Runs.GateOutcome
import Actl.Runs.Idempotency

/-!
# Proposals and the orders they lead to

A call of `handle_order_propose` proposes with its first step and with no other,
and the order it claims is for what that proposal has asked for. The orders of the
store and the claims of the calls correspond, in every run.
-/

set_option autoImplicit false

namespace Actl

open Foundation.System (Guarded Lawful initial run_journal_invariant admissible_of_forall
  getElem?_set_cases)
open Payments (OrderArgs)
open Gate (MoneyActionRequest)
open Saga (ProposeArgs)

/-! ## The proposal of a call -/

section Call

variable {P : Platform} {call : Call} {past : Past} {args : ProposeArgs}
variable {s : Foundation.Step Action Input World}

/-- A proposal is the first step of its call. -/
theorem proposal_first (lawful : Lawful (S := application P) (May P) call past)
    (member : s ∈ past) (issued : s.action = .proposeOrder args) :
    past.getLast? = some s ∧ ∃ orderId, call = .handleOrderPropose args orderId := by
  obtain ⟨later, earlier, rfl⟩ := List.append_of_mem member
  have permitted := Lawful.of_append lawful
  rw [issued] at permitted
  obtain ⟨rfl, orderId, same⟩ := permitted
  exact ⟨by simp, orderId, same⟩

/-- A call makes one proposal. -/
theorem proposal_unique (lawful : Lawful (S := application P) (May P) call past)
    {args' : ProposeArgs} {s' : Foundation.Step Action Input World} (member : s ∈ past)
    (member' : s' ∈ past) (issued : s.action = .proposeOrder args)
    (issued' : s'.action = .proposeOrder args') : s = s' := by
  have first := (proposal_first lawful member issued).1
  rw [(proposal_first lawful member' issued').1] at first
  exact (Option.some.inj first).symm

/-- What an allowed proposal has found. -/
theorem allowed_of_answered {req : MoneyActionRequest}
    (answered : Answered P s (.proposeOrder args) (.allowed req)) :
    ∃ row quote item, AllowedProposal P args (s.input.ids 0) (s.input.now 0) s.before.db row quote
      item ∧ req = requestFor args (s.input.ids 0) row quote := by
  have done := answered.2
  simp only [execute] at done
  rcases s.before.transaction_cases s.input.dbError
    (Saga.proposeOrder P args (s.input.ids 0) (s.input.now 0)) with
    ⟨failure, failed, -⟩ | ⟨proposal, db, -, ran, committed⟩
  · rw [failed] at done
    cases done
  · rw [committed] at done
    cases done
    exact proposeOrder_allowed ran

/-- The order a proposing call claims is for what its proposal asks for, and the
gate has been passed. -/
theorem claim_of_proposal {orderId : String} (proposes : call = .handleOrderPropose args orderId)
    (lawful : Lawful (S := application P) (May P) call past) (member : s ∈ past)
    {claimed : OrderArgs} (issued : s.action = .claimOrder claimed) :
    ∃ req, Did P past (.proposeOrder args) (.allowed req) ∧ claimed = req.orderArgs orderId ∧
      PassedGate P past req := by
  subst proposes
  obtain ⟨later, earlier, rfl⟩ := List.append_of_mem member
  have permitted := Lawful.of_append lawful
  rw [issued] at permitted
  have longer : earlier <:+ later ++ s :: earlier :=
    ((List.suffix_cons s earlier).trans (List.suffix_append later _))
  rcases permitted with direct | ⟨req, orderId', requests, drawn, same, passed⟩
  · cases direct
  · cases drawn
    exact ⟨req, Did.mono requests longer, same, Did.mono passed longer⟩

end Call

/-! ## Claims and orders -/

/-- The order was made with these arguments. -/
structure MadeWith (P : Platform) (args : OrderArgs) (o : OrderRecord) : Prop where
  id : o.id = args.orderId
  mandateId : o.mandateId = args.mandateId
  amountMinor : o.amountMinor = args.amountMinor
  currency : o.currency = args.currency
  quoteId : o.quoteId = args.quoteId
  idempotencyKey : o.idempotencyKey = args.key P

theorem MadeWith.kept {P : Platform} {args : OrderArgs} {o o' : OrderRecord}
    (made : MadeWith P args o) (same : o.SamePurchase o') : MadeWith P args o' :=
  ⟨same.id.trans made.id, same.mandateId.trans made.mandateId,
    same.amountMinor.trans made.amountMinor, same.currency.trans made.currency,
    same.quoteId.trans made.quoteId, same.idempotencyKey.trans made.idempotencyKey⟩

/-- Every won claim has its order. -/
def ClaimsPlaced (P : Platform) (w : World) (journal : Journal) : Prop :=
  ∀ entry ∈ journal, ∀ args, Did P entry.2 (.claimOrder args) true →
    ∃ o ∈ w.db.orders, MadeWith P args o

/-- Every order has its won claim. -/
def OrdersClaimed (P : Platform) (w : World) (journal : Journal) : Prop :=
  ∀ o ∈ w.db.orders, ∃ entry ∈ journal, ∃ args, Did P entry.2 (.claimOrder args) true ∧
    MadeWith P args o

section Steps

variable {P : Platform} {w : World} {journal : Journal} {index : Nat} {call : Call} {past : Past}
variable {action : Action} {input : Input}

/-- A won claim leaves its order. -/
theorem claim_places {args : OrderArgs} (won : (execute P (.claimOrder args) input w).1 = .ok true) :
    ∃ o ∈ (execute P (.claimOrder args) input w).2.db.orders, MadeWith P args o := by
  simp only [execute] at won ⊢
  rcases w.transaction_cases input.dbError (Payments.claimOrder P args (input.now 0)) with
    ⟨failure, done, -⟩ | ⟨value, db, -, ran, done⟩
  · rw [done] at won
    cases won
  · rw [done] at won ⊢
    cases won
    rcases claimOrder_ok ran with ⟨lost, -⟩ | ⟨-, -, -, ⟨o, id, mandateId, amountMinor, currency,
      quoteId, idempotencyKey, -, -, placed⟩, -⟩
    · cases lost
    · exact ⟨o, (Foundation.Table.mem_of_insert? placed).mpr (.inr rfl),
        ⟨id, mandateId, amountMinor, currency, quoteId, idempotencyKey⟩⟩

theorem ClaimsPlaced.stepped (placed : ClaimsPlaced P w journal)
    (found : journal[index]? = some (call, past)) :
    ClaimsPlaced P (execute P action input w).2
      (journal.set index (call, ⟨action, input, w⟩ :: past)) := by
  have kept : ∀ args, (∃ o ∈ w.db.orders, MadeWith P args o) →
      ∃ o ∈ (execute P action input w).2.db.orders, MadeWith P args o := by
    rintro args ⟨o, present, made⟩
    obtain ⟨o', present', becomes⟩ := (execute_orders P action input w).forward o present
    exact ⟨o', present', made.kept becomes.same⟩
  intro entry member args did
  rcases List.mem_or_eq_of_mem_set member with old | rfl
  · exact kept args (placed entry old args did)
  · obtain ⟨s, taken, answered⟩ := did
    rcases List.mem_cons.mp taken with rfl | earlier
    · obtain ⟨rfl, won⟩ := answered
      exact claim_places won
    · exact kept args (placed _ (List.mem_of_getElem? found) args ⟨s, earlier, answered⟩)

/-- What a call has done it has done in the longer journal as well. -/
theorem exists_did_set {args : OrderArgs} (found : journal[index]? = some (call, past))
    {step : Foundation.Step Action Input World}
    (did : ∃ entry ∈ journal, Did P entry.2 (.claimOrder args) true) :
    ∃ entry ∈ journal.set index (call, step :: past), Did P entry.2 (.claimOrder args) true := by
  obtain ⟨entry, member, s, taken, answered⟩ := did
  obtain ⟨i, listed⟩ := List.getElem?_of_mem member
  by_cases here : i = index
  · subst here
    rw [found] at listed
    cases listed
    refine ⟨(call, step :: past), List.mem_of_getElem? (i := i) ?_, s,
      List.mem_cons_of_mem _ taken, answered⟩
    rw [List.getElem?_set_self' , found]
    rfl
  · refine ⟨entry, List.mem_of_getElem? (i := i) ?_, s, taken, answered⟩
    rw [List.getElem?_set_ne (Ne.symm here)]
    exact listed

theorem OrdersClaimed.stepped (claimed : OrdersClaimed P w journal)
    (found : journal[index]? = some (call, past)) :
    OrdersClaimed P (execute P action input w).2
      (journal.set index (call, ⟨action, input, w⟩ :: past)) := by
  intro o' member
  rcases (execute_orders P action input w).backward o' member with
    ⟨o, present, becomes⟩ | ⟨args, born⟩
  · obtain ⟨entry, listed, args, did, made⟩ := claimed o present
    obtain ⟨entry', listed', did'⟩ := exists_did_set found ⟨entry, listed, did⟩
    exact ⟨entry', listed', args, did', made.kept becomes.same⟩
  · have issued := born.action
    subst issued
    have inside : index < journal.length := (List.getElem?_eq_some_iff.mp found).1
    refine ⟨_, List.mem_set inside _, args,
      did_cons (s := ⟨.claimOrder args, input, w⟩) ⟨rfl, born.won⟩, ⟨born.id, born.mandateId, born.amountMinor, born.currency, born.quoteId,
        born.idempotencyKey⟩⟩

end Steps

/-- In every run the won claims have their orders. -/
theorem run_claimsPlaced (P : Platform) (w : World) (events : List (application P).Event) :
    ClaimsPlaced P ((initial w : (application P).Config).run events).state
      ((initial w : (application P).Config).run events).journal := by
  refine run_journal_invariant (S := application P) (code_obeys P) (fun _ _ _ _ _ => True)
    (ClaimsPlaced P) ?_ (fun c index r action input _ placed found _ _ => placed.stepped found)
    (fun entry member => by cases member)
    (admissible_of_forall (fun c e => by cases e <;> simp [Guarded]) _ events)
  intro w journal call placed entry member args did
  rcases List.mem_append.mp member with old | new
  · exact placed entry old args did
  · rw [List.mem_singleton.mp new] at did
    obtain ⟨s, taken, -⟩ := did
    cases taken

/-- In every run from a store without orders the orders have their claims. -/
theorem run_ordersClaimed (P : Platform) (w : World) (noOrders : ∀ o, o ∉ w.db.orders)
    (events : List (application P).Event) :
    OrdersClaimed P ((initial w : (application P).Config).run events).state
      ((initial w : (application P).Config).run events).journal := by
  refine run_journal_invariant (S := application P) (code_obeys P) (fun _ _ _ _ _ => True)
    (OrdersClaimed P) ?_ (fun c index r action input _ claimed found _ _ => claimed.stepped found)
    (fun o member => absurd member (noOrders o))
    (admissible_of_forall (fun c e => by cases e <;> simp [Guarded]) _ events)
  intro w journal call claimed o member
  obtain ⟨entry, listed, args, did, made⟩ := claimed o member
  exact ⟨entry, List.mem_append_left _ listed, args, did, made⟩

end Actl
