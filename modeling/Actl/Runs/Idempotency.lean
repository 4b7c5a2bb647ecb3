import Actl.Effects.Rows
import Actl.Obedience

/-!
# One provider order per idempotency key

Any number of calls may be creating an order under one key at once, directly,
through the gate or through a saga, and any of them may crash. The key's row is
inserted at most once, so at most one call ever wins it; from then on only that
call writes the key or the number of its order, and it does so once. What every
call reads after that is the same.

The invariant (`Exclusive`) is about the store and about what the calls have
done. It needs nothing of the store a run starts from.
-/

set_option autoImplicit false

namespace Actl

open Foundation (Table)
open Foundation.System (Admissible Guarded Lawful initial run_journal_invariant run_disciplined
  getElem?_set_cases getElem?_append_cases admissible_of_forall)
open Payments (OrderArgs)

/-- The calls made so far with what they have done. -/
abbrev Journal : Type := List (Call × Past)

/-- The step won the claim of the key. -/
def Wins (P : Platform) (key : String) (s : Foundation.Step Action Input World) : Prop :=
  ∃ args, args.key P = key ∧ Answered P s (.claimOrder args) true

section Claims

variable {P : Platform}

theorem Owns.won {args : OrderArgs} {past : Past} (owns : Owns P args past) :
    ∃ s ∈ past, Answered P s (.claimOrder args) true := by
  induction past with
  | nil => exact owns.elim
  | cons s past ih =>
      rcases owns with here | ⟨earlier, -⟩
      · exact ⟨s, List.mem_cons_self, here⟩
      · obtain ⟨s', member, won⟩ := ih earlier
        exact ⟨s', List.mem_cons_of_mem s member, won⟩

/-- What a won claim has seen and what it leaves behind. -/
theorem claim_won {args : OrderArgs} {input : Input} {w : World}
    (won : (execute P (.claimOrder args) input w).1 = .ok true) :
    (∀ k ∈ w.db.idempotencyKeys, k.key ≠ args.key P) ∧
      (∃ k ∈ (execute P (.claimOrder args) input w).2.db.idempotencyKeys,
        k.key = args.key P ∧ k.state = .inFlight) ∧
      ∃ o ∈ (execute P (.claimOrder args) input w).2.db.orders,
        o.id = args.orderId ∧ o.idempotencyKey = args.key P := by
  simp only [execute] at won ⊢
  rcases w.transaction_cases input.dbError (Payments.claimOrder P args (input.now 0)) with
    ⟨failure, done, -⟩ | ⟨value, db, -, ran, done⟩
  · rw [done] at won
    cases won
  · rw [done] at won
    cases won
    rw [done]
    rcases claimOrder_ok ran with ⟨lost, -⟩ | ⟨-, fresh, ⟨k, named, state, inserted⟩,
      ⟨o, id, -, -, -, -, idempotencyKey, -, -, placed⟩, -⟩
    · cases lost
    · exact ⟨fresh, ⟨k, (Table.mem_of_insert? inserted).mpr (.inr rfl), named, state⟩,
        ⟨o, (Table.mem_of_insert? placed).mpr (.inr rfl), id, idempotencyKey⟩⟩

/-- What a recorded provider order leaves behind. -/
theorem providerOrder_recorded {args : OrderArgs} {providerOrderId : String} {order : OrderRecord}
    {input : Input} {w : World}
    (answered : (execute P (.recordProviderOrder args providerOrderId) input w).1 = .ok order) :
    order ∈ (execute P (.recordProviderOrder args providerOrderId) input w).2.db.orders ∧
      order.id = args.orderId ∧
      ∀ k ∈ w.db.idempotencyKeys, k.key = args.key P →
        ∃ k' ∈ (execute P (.recordProviderOrder args providerOrderId) input w).2.db.idempotencyKeys,
          k'.key = args.key P ∧ k'.state = .completed := by
  simp only [execute] at answered ⊢
  rcases w.transaction_cases input.dbError (Payments.recordProviderOrder P args providerOrderId)
    with ⟨failure, done, -⟩ | ⟨value, db, -, ran, done⟩
  · rw [done] at answered
    cases answered
  · rw [done] at answered
    cases answered
    rw [done]
    obtain ⟨-, keys, found, -⟩ := recordProviderOrder_ok ran
    obtain ⟨member, id⟩ := Database.getOrder_eq_some.mp found
    refine ⟨member, id, fun k present named => ⟨_, (keys _).mpr ⟨k, present, rfl⟩, ?_⟩⟩
    rw [if_pos named]
    exact ⟨named, rfl⟩

/-- What the reads of a completed key have seen. -/
theorem completed_read {key : String} {order : OrderRecord} {input : Input} {w : World}
    (read : (execute P (.lookupIdempotencyKey key) input w).1 = .ok (.completed order) ∨
      (execute P (.pollIdempotencyKey key) input w).1 = .ok (some order)) :
    (∃ k ∈ w.db.idempotencyKeys, k.key = key ∧ k.state = .completed) ∧
      order ∈ w.db.orders ∧ order.idempotencyKey = key := by
  have found : ∀ record, w.db.getIdempotencyKey key = some record →
      record ∈ w.db.idempotencyKeys ∧ record.key = key := fun record known =>
    (Table.get?_eq_some_iff (by simp)).mp known
  rcases read with looked | polled
  · simp only [execute] at looked
    rcases w.query_cases input.dbError (Payments.lookupIdempotencyKey · key) with
      ⟨done, -⟩ | ⟨done, -⟩
    · rw [done] at looked
      cases looked
    · rw [done] at looked
      unfold Payments.lookupIdempotencyKey at looked
      split at looked
      · cases looked
      · rename_i record known
        split at looked
        · rename_i state
          split at looked
          · rename_i order' stored
            cases looked
            obtain ⟨member, named⟩ := found record known
            exact ⟨⟨record, member, named, state⟩,
              Database.getOrderByIdempotencyKey_eq_some.mp stored⟩
          · cases looked
        · cases looked
        · cases looked
  · simp only [execute] at polled
    rcases w.query_cases input.dbError (Payments.pollIdempotencyKey · key) with
      ⟨done, -⟩ | ⟨done, -⟩
    · rw [done] at polled
      cases polled
    · rw [done] at polled
      unfold Payments.pollIdempotencyKey at polled
      split at polled
      · cases polled
      · rename_i record known
        split at polled
        · rename_i state
          obtain ⟨member, named⟩ := found record known
          exact ⟨⟨record, member, named, state⟩,
            Database.getOrderByIdempotencyKey_eq_some.mp (Except.ok.inj polled)⟩
        · cases polled
        · cases polled

end Claims

/-! ## The invariant -/

/-- One call at most has won a key, the key is in flight while that call owns
it, and a key whose order was reported is completed for good. -/
structure Exclusive (P : Platform) (w : World) (journal : Journal) : Prop where
  claimed : ∀ (i : Nat) call past, journal[i]? = some (call, past) → ∀ s ∈ past, ∀ key,
    Wins P key s → ∃ k ∈ w.db.idempotencyKeys, k.key = key
  single : ∀ (i j : Nat) call call' past past', journal[i]? = some (call, past) →
    journal[j]? = some (call', past') → ∀ s ∈ past, ∀ s' ∈ past', ∀ key, Wins P key s →
    Wins P key s' → i = j
  once : ∀ (i : Nat) call past, journal[i]? = some (call, past) →
    past.Pairwise fun s s' => ∀ key, Wins P key s → ¬ Wins P key s'
  owned : ∀ (i : Nat) call past, journal[i]? = some (call, past) → ∀ args, Owns P args past →
    (∃ k ∈ w.db.idempotencyKeys, k.key = args.key P ∧ k.state = .inFlight) ∧
      ∃ o ∈ w.db.orders, o.id = args.orderId ∧ o.idempotencyKey = args.key P
  reported : ∀ (i : Nat) call past, journal[i]? = some (call, past) → ∀ s ∈ past, ∀ key order,
    Reports P s key order →
    (∃ k ∈ w.db.idempotencyKeys, k.key = key ∧ k.state = .completed) ∧
      ∃ o ∈ w.db.orders, o.idempotencyKey = key ∧ o.id = order.id ∧
        o.providerOrderId = order.providerOrderId

theorem Database.key_unique {db : Database} {k k' : IdempotencyKeyRecord}
    (member : k ∈ db.idempotencyKeys) (member' : k' ∈ db.idempotencyKeys)
    (same : k.key = k'.key) : k = k' :=
  Table.eq_of_col_eq IdempotencyKeyRecord.key (by simp) member member' same

namespace Exclusive

variable {P : Platform} {w : World} {journal : Journal}

theorem initial (P : Platform) (w : World) : Exclusive P w [] where
  claimed _ _ _ found := by simp at found
  single _ _ _ _ _ _ found := by simp at found
  once _ _ _ found := by simp at found
  owned _ _ _ found := by simp at found
  reported _ _ _ found := by simp at found

theorem started (exclusive : Exclusive P w journal) (call : Call) :
    Exclusive P w (journal ++ [(call, [])]) := by
  have entries : ∀ {i : Nat} {call' : Call} {past : Past},
      (journal ++ [(call, [])])[i]? = some (call', past) →
      journal[i]? = some (call', past) ∨ past = [] := fun found =>
    (getElem?_append_cases found).imp_right fun same => (Prod.mk.inj same).2
  refine ⟨fun i call' past found => ?_, fun i j _ _ past past' found found' => ?_,
    fun i call' past found => ?_, fun i call' past found => ?_, fun i call' past found => ?_⟩
  · rcases entries found with old | rfl
    · exact exclusive.claimed i call' past old
    · simp
  · rcases entries found with old | rfl
    · rcases entries found' with old' | rfl
      · exact exclusive.single i j _ _ past past' old old'
      · simp
    · simp
  · rcases entries found with old | rfl
    · exact exclusive.once i call' past old
    · exact .nil
  · rcases entries found with old | rfl
    · exact exclusive.owned i call' past old
    · exact fun args owns => owns.elim
  · rcases entries found with old | rfl
    · exact exclusive.reported i call' past old
    · simp

/-- Within one history a key has been won with one set of arguments. -/
theorem owns_unique (exclusive : Exclusive P w journal) {i : Nat} {call : Call} {past : Past}
    (found : journal[i]? = some (call, past)) {args args' : OrderArgs} (owns : Owns P args past)
    (owns' : Owns P args' past) (same : args.key P = args'.key P) : args = args' := by
  obtain ⟨s, member, won⟩ := owns.won
  obtain ⟨s', member', won'⟩ := owns'.won
  have distinct := exclusive.once i call past found
  by_cases here : s = s'
  · subst here
    cases won.1.symm.trans won'.1
    rfl
  · exfalso
    rcases List.pairwise_iff_getElem.mp distinct with pairs
    obtain ⟨m, hm, rfl⟩ := List.getElem_of_mem member
    obtain ⟨n, hn, rfl⟩ := List.getElem_of_mem member'
    rcases Nat.lt_trichotomy m n with less | equal | more
    · exact pairs m n hm hn less _ ⟨args, rfl, won⟩ ⟨args', same.symm, won'⟩
    · subst equal
      exact here rfl
    · exact pairs n m hn hm more _ ⟨args', rfl, won'⟩ ⟨args, same, won⟩

/-! ### One step -/

section Step

variable {index : Nat} {call : Call} {past : Past} {action : Action} {input : Input}

/-- The call that completes a key owns it. -/
theorem completes_owns (input : Input) (w : World) (permitted : May P call past action) {key : String} {state : KeyState}
    (completes : action.Completes P key state) :
    ∃ args, Owns P args past ∧ args.key P = key ∧
      ∀ value, (execute P action input w).1 = .ok value →
        Finishes P args ⟨action, input, w⟩ := by
  cases action with
  | recordOrderCreationFailed args message =>
      exact ⟨args, permitted, completes.1, fun value answered => .inl ⟨message, rfl, answered⟩⟩
  | recordProviderOrder args providerOrderId =>
      exact ⟨args, permitted.1, completes.1,
        fun value answered => .inr ⟨providerOrderId, value, rfl, answered⟩⟩
  | _ => exact completes.elim

/-- Only the owner of a key completes it. -/
theorem key_kept (input : Input) (permitted : May P call past action) {k : IdempotencyKeyRecord}
    (member : k ∈ w.db.idempotencyKeys)
    (unowned : ∀ args, Owns P args past → args.key P = k.key →
      ¬ Finishes P args ⟨action, input, w⟩) :
    ∃ k' ∈ (execute P action input w).2.db.idempotencyKeys, k'.key = k.key ∧
      k'.state = k.state := by
  obtain ⟨k', present, named, same | ⟨completes, value, answered⟩⟩ :=
    (execute_keys P action input w).forward k member
  · exact ⟨k', present, named, same⟩
  · obtain ⟨args, owns, key, finishes⟩ := completes_owns input w permitted completes
    exact absurd (finishes value answered) (unowned args owns key)

/-- A call that finishes an attempt owns no key that is completed. -/
theorem completed_unowned (exclusive : Exclusive P w journal)
    (found : journal[index]? = some (call, past)) {k : IdempotencyKeyRecord}
    (member : k ∈ w.db.idempotencyKeys) (completed : k.state = .completed) (args : OrderArgs)
    (owns : Owns P args past) : args.key P ≠ k.key := by
  intro same
  obtain ⟨⟨k', present, named, state⟩, -⟩ := exclusive.owned index call past found args owns
  rw [Database.key_unique present member (named.trans same)] at state
  rw [completed] at state
  cases state

/-- Nothing in the journal has won a key that is won now. -/
theorem not_won_before (exclusive : Exclusive P w journal) {key : String}
    (wins : Wins P key ⟨action, input, w⟩) {i : Nat} {call' : Call} {past' : Past}
    (found : journal[i]? = some (call', past')) : ∀ s ∈ past', ¬ Wins P key s := by
  intro s member won
  obtain ⟨args, rfl, rfl, answered⟩ := wins
  obtain ⟨k, present, named⟩ := exclusive.claimed i call' past' found s member _ won
  exact (claim_won answered).1 k present named

theorem step_claimed (exclusive : Exclusive P w journal)
    (found : journal[index]? = some (call, past)) :
    ∀ (i : Nat) call' past', (journal.set index (call, ⟨action, input, w⟩ :: past))[i]?
        = some (call', past') → ∀ s ∈ past', ∀ key, Wins P key s →
      ∃ k ∈ (execute P action input w).2.db.idempotencyKeys, k.key = key := by
  have lasts : ∀ key, (∃ k ∈ w.db.idempotencyKeys, k.key = key) →
      ∃ k ∈ (execute P action input w).2.db.idempotencyKeys, k.key = key := by
    rintro key ⟨k, member, rfl⟩
    obtain ⟨k', present, named, -⟩ := (execute_keys P action input w).forward k member
    exact ⟨k', present, named⟩
  intro i call' past' found' s member key wins
  rcases getElem?_set_cases found' with ⟨-, same⟩ | ⟨-, old⟩
  · cases same
    rcases List.mem_cons.mp member with rfl | earlier
    · obtain ⟨args, rfl, rfl, answered⟩ := wins
      obtain ⟨-, ⟨k, present, named, -⟩, -⟩ := claim_won answered
      exact ⟨k, present, named⟩
    · exact lasts key (exclusive.claimed index call past found s earlier key wins)
  · exact lasts key (exclusive.claimed i call' past' old s member key wins)

theorem step_single (exclusive : Exclusive P w journal)
    (found : journal[index]? = some (call, past)) :
    ∀ (i j : Nat) call₁ call₂ past₁ past₂,
      (journal.set index (call, ⟨action, input, w⟩ :: past))[i]? = some (call₁, past₁) →
      (journal.set index (call, ⟨action, input, w⟩ :: past))[j]? = some (call₂, past₂) →
      ∀ s ∈ past₁, ∀ s' ∈ past₂, ∀ key, Wins P key s → Wins P key s' → i = j := by
  intro i j call₁ call₂ past₁ past₂ found₁ found₂ s member s' member' key wins wins'
  rcases getElem?_set_cases found₁ with ⟨rfl, same⟩ | ⟨other, old⟩
  · rcases getElem?_set_cases found₂ with ⟨rfl, -⟩ | ⟨-, old'⟩
    · rfl
    · cases same
      rcases List.mem_cons.mp member with rfl | earlier
      · exact absurd wins' (exclusive.not_won_before wins old' s' member')
      · exact exclusive.single _ j _ _ _ _ found old' s earlier s' member' key wins wins'
  · rcases getElem?_set_cases found₂ with ⟨rfl, same'⟩ | ⟨-, old'⟩
    · cases same'
      rcases List.mem_cons.mp member' with rfl | earlier'
      · exact absurd wins (exclusive.not_won_before wins' old s member)
      · exact exclusive.single i _ _ _ _ _ old found s member s' earlier' key wins wins'
    · exact exclusive.single i j _ _ _ _ old old' s member s' member' key wins wins'

theorem step_once (exclusive : Exclusive P w journal)
    (found : journal[index]? = some (call, past)) :
    ∀ (i : Nat) call' past', (journal.set index (call, ⟨action, input, w⟩ :: past))[i]?
        = some (call', past') →
      past'.Pairwise fun s s' => ∀ key, Wins P key s → ¬ Wins P key s' := by
  intro i call' past' found'
  rcases getElem?_set_cases found' with ⟨-, same⟩ | ⟨-, old⟩
  · cases same
    refine List.pairwise_cons.mpr ⟨fun s member key wins => ?_, exclusive.once index call past found⟩
    exact exclusive.not_won_before wins found s member
  · exact exclusive.once i call' past' old

/-- The order of an owned key keeps its id and its key. -/
theorem order_kept (action : Action) (input : Input) {args : OrderArgs}
    (placed : ∃ o ∈ w.db.orders, o.id = args.orderId ∧ o.idempotencyKey = args.key P) :
    ∃ o ∈ (execute P action input w).2.db.orders,
      o.id = args.orderId ∧ o.idempotencyKey = args.key P := by
  obtain ⟨o, member, id, key⟩ := placed
  obtain ⟨o', present, becomes⟩ := (execute_orders P action input w).forward o member
  exact ⟨o', present, becomes.same.id.trans id, becomes.same.idempotencyKey.trans key⟩

theorem step_owned (exclusive : Exclusive P w journal)
    (found : journal[index]? = some (call, past)) (permitted : May P call past action) :
    ∀ (i : Nat) call' past', (journal.set index (call, ⟨action, input, w⟩ :: past))[i]?
        = some (call', past') → ∀ args, Owns P args past' →
      (∃ k ∈ (execute P action input w).2.db.idempotencyKeys,
          k.key = args.key P ∧ k.state = .inFlight) ∧
        ∃ o ∈ (execute P action input w).2.db.orders,
          o.id = args.orderId ∧ o.idempotencyKey = args.key P := by
  intro i call' past' found' args owns
  rcases getElem?_set_cases found' with ⟨-, same⟩ | ⟨other, old⟩
  · cases same
    rcases owns with ⟨rfl, answered⟩ | ⟨earlier, unfinished⟩
    · exact (claim_won answered).2
    · obtain ⟨⟨k, member, named, state⟩, placed⟩ :=
        exclusive.owned index call past found args earlier
      obtain ⟨k', present, named', state'⟩ := key_kept input permitted member
        fun args' owns' key => by
          cases exclusive.owns_unique found owns' earlier (key.trans named)
          exact unfinished
      exact ⟨⟨k', present, named'.trans named, state'.trans state⟩, order_kept action input placed⟩
  · obtain ⟨⟨k, member, named, state⟩, placed⟩ := exclusive.owned i call' past' old args owns
    obtain ⟨k', present, named', state'⟩ := key_kept input permitted
      member fun args' owns' key => by
        obtain ⟨s, mine, won⟩ := owns'.won
        obtain ⟨s', theirs, won'⟩ := owns.won
        exact absurd (exclusive.single i index _ _ _ _ old found s' theirs s mine _ ⟨args, rfl, won'⟩
          ⟨args', key.trans named, won⟩) other
    exact ⟨⟨k', present, named'.trans named, state'.trans state⟩, order_kept action input placed⟩

/-- What has been reported about a completed key stays true. -/
theorem report_kept (exclusive : Exclusive P w journal)
    (found : journal[index]? = some (call, past)) (permitted : May P call past action)
    {key : String} {order : OrderRecord}
    (completed : ∃ k ∈ w.db.idempotencyKeys, k.key = key ∧ k.state = .completed)
    (stored : ∃ o ∈ w.db.orders, o.idempotencyKey = key ∧ o.id = order.id ∧
      o.providerOrderId = order.providerOrderId) :
    (∃ k ∈ (execute P action input w).2.db.idempotencyKeys,
        k.key = key ∧ k.state = .completed) ∧
      ∃ o ∈ (execute P action input w).2.db.orders, o.idempotencyKey = key ∧ o.id = order.id ∧
        o.providerOrderId = order.providerOrderId := by
  obtain ⟨k, member, rfl, state⟩ := completed
  obtain ⟨o, present, ofKey, id, number⟩ := stored
  have unowned := exclusive.completed_unowned found member state
  refine ⟨?_, ?_⟩
  · obtain ⟨k', present', named, state'⟩ := key_kept input permitted member
      fun args owns key => absurd key (unowned args owns)
    exact ⟨k', present', named, state'.trans state⟩
  · obtain ⟨o', present', becomes⟩ := (execute_orders P action input w).forward o present
    refine ⟨o', present', becomes.same.idempotencyKey.trans ofKey, becomes.same.id.trans id, ?_⟩
    rcases becomes.number with same | ⟨args, providerOrderId, rfl, mine⟩
    · exact same.trans number
    · -- The order would be the one of a key in flight.
      obtain ⟨-, o₂, present₂, id₂, key₂⟩ :=
        exclusive.owned index call past found args permitted.1
      rw [Database.order_unique_id present₂ present (id₂.trans mine.symm)] at key₂
      exact absurd (key₂.symm.trans ofKey) (unowned args permitted.1)

theorem step_reported (exclusive : Exclusive P w journal)
    (found : journal[index]? = some (call, past)) (permitted : May P call past action) :
    ∀ (i : Nat) call' past', (journal.set index (call, ⟨action, input, w⟩ :: past))[i]?
        = some (call', past') → ∀ s ∈ past', ∀ key order, Reports P s key order →
      (∃ k ∈ (execute P action input w).2.db.idempotencyKeys,
          k.key = key ∧ k.state = .completed) ∧
        ∃ o ∈ (execute P action input w).2.db.orders, o.idempotencyKey = key ∧ o.id = order.id ∧
          o.providerOrderId = order.providerOrderId := by
  intro i call' past' found' s member key order reports
  rcases getElem?_set_cases found' with ⟨-, same⟩ | ⟨-, old⟩
  · cases same
    rcases List.mem_cons.mp member with rfl | earlier
    · rcases reports with ⟨rfl, looked⟩ | ⟨rfl, polled⟩ | ⟨args, providerOrderId, rfl, rfl, recorded⟩
      · obtain ⟨completed, stored, ofKey⟩ := completed_read (.inl looked)
        exact exclusive.report_kept found permitted completed ⟨order, stored, ofKey, rfl, rfl⟩
      · obtain ⟨completed, stored, ofKey⟩ := completed_read (.inr polled)
        exact exclusive.report_kept found permitted completed ⟨order, stored, ofKey, rfl, rfl⟩
      · obtain ⟨present, id, completed⟩ := providerOrder_recorded recorded
        obtain ⟨⟨k, inTable, named, -⟩, placed⟩ :=
          exclusive.owned index call past found args permitted.1
        refine ⟨completed k inTable named, order, present, ?_, rfl, rfl⟩
        obtain ⟨o, present', id', ofKey⟩ := order_kept
          (.recordProviderOrder args providerOrderId) input placed
        rw [← Database.order_unique_id present' present (id'.trans id.symm)]
        exact ofKey
    · obtain ⟨completed, stored⟩ := exclusive.reported index call past found s earlier key order reports
      exact exclusive.report_kept found permitted completed stored
  · obtain ⟨completed, stored⟩ := exclusive.reported i call' past' old s member key order reports
    exact exclusive.report_kept found permitted completed stored

theorem stepped (exclusive : Exclusive P w journal) (found : journal[index]? = some (call, past))
    (permitted : May P call past action) :
    Exclusive P (execute P action input w).2
      (journal.set index (call, ⟨action, input, w⟩ :: past)) where
  claimed := exclusive.step_claimed found
  single := exclusive.step_single found
  once := exclusive.step_once found
  owned := exclusive.step_owned found permitted
  reported := exclusive.step_reported found permitted

end Step

end Exclusive

/-- Every run keeps the keys exclusive, from whatever store it starts. -/
theorem run_exclusive (P : Platform) (w : World) (events : List (application P).Event) :
    Exclusive P ((initial w : (application P).Config).run events).state
      ((initial w : (application P).Config).run events).journal := by
  refine run_journal_invariant (S := application P) (code_obeys P) (fun _ _ _ _ _ => True)
    (Exclusive P) (fun w journal call keeps => keeps.started call)
    (fun c index r action input _ keeps found permitted _ => keeps.stepped found permitted)
    (Exclusive.initial P w) (admissible_of_forall (fun c e => ?_) _ events)
  cases e <;> simp [Guarded]

/-! ## What follows -/

/-- The step called the provider for an order under the key. -/
def CreatesOrder (P : Platform) (key : String) (s : Foundation.Step Action Input World) : Prop :=
  ∃ args, args.key P = key ∧ s.action = .createOrder args

/-- The key has stayed as it was, or it was in flight and was finished. -/
def KeyLeads (key : String) (w w' : World) : Prop :=
  ∀ k ∈ w.db.idempotencyKeys, k.key = key → ∃ k' ∈ w'.db.idempotencyKeys, k'.key = key ∧
    (k'.state = k.state ∨ k.state = .inFlight ∧ (k'.state = .completed ∨ k'.state = .failed))

/-- The call has returned with an order under the key: `create_provider_order`
itself, or an ALLOW of the gate. -/
def Yields (P : Platform) (key : String) (r : (application P).Running) (orderId : String)
    (providerOrderId : Option String) : Prop :=
  (∃ args order wasDuplicate, r.call = Call.createProviderOrder args ∧ args.key P = key ∧
      r.returned? = some (.ok (.order order wasDuplicate)) ∧ orderId = order.id ∧
      providerOrderId = order.providerOrderId) ∨
    ∃ req drawn result, r.call = Call.executeMoneyAction req drawn ∧ req.key P = key ∧
      r.returned? = some (.ok (.money result)) ∧ result.verdict = .allow ∧
      result.orderId = some orderId ∧ providerOrderId = result.providerOrderId

section Consequences

variable {P : Platform} {key : String}

theorem KeyLeads.refl (key : String) (w : World) : KeyLeads key w w :=
  fun k member named => ⟨k, member, named, .inl rfl⟩

theorem KeyLeads.trans {w w' w'' : World} (first : KeyLeads key w w')
    (second : KeyLeads key w' w'') : KeyLeads key w w'' := by
  intro k member named
  obtain ⟨k', member', named', state'⟩ := first k member named
  obtain ⟨k'', member'', named'', state''⟩ := second k' member' named'
  refine ⟨k'', member'', named'', ?_⟩
  rcases state'' with same | ⟨inFlight, finished⟩
  · rw [same]
    exact state'
  · rcases state' with same | ⟨-, completed | failed⟩
    · exact .inr ⟨same ▸ inFlight, finished⟩
    · rw [completed] at inFlight
      cases inFlight
    · rw [failed] at inFlight
      cases inFlight

theorem Exclusive.keyLeads {w : World} {journal : Journal} (exclusive : Exclusive P w journal)
    {index : Nat} {call : Call} {past : Past} {action : Action} {input : Input}
    (found : journal[index]? = some (call, past)) (permitted : May P call past action) :
    KeyLeads key w (execute P action input w).2 := by
  intro k member named
  obtain ⟨k', present, named', same | ⟨completes, value, answered⟩⟩ :=
    (execute_keys P action input w).forward k member
  · exact ⟨k', present, named'.trans named, .inl same⟩
  · refine ⟨k', present, named'.trans named, .inr ⟨?_, ?_⟩⟩
    · obtain ⟨args, owns, ofKey, -⟩ :=
        Exclusive.completes_owns input w permitted completes
      obtain ⟨⟨k₀, present₀, named₀, state₀⟩, -⟩ := exclusive.owned index call past found args owns
      rw [← Database.key_unique present₀ member (named₀.trans ofKey)]
      exact state₀
    · cases action with
      | recordOrderCreationFailed args message => exact .inr completes.2
      | recordProviderOrder args providerOrderId => exact .inl completes.2
      | _ => exact completes.elim

theorem run_keyLeads (P : Platform) (key : String) (w : World)
    (first second : List (application P).Event) :
    KeyLeads key ((initial w : (application P).Config).run first).state
      ((initial w : (application P).Config).run (first ++ second)).state := by
  have everything : ∀ c : (application P).Config, ∀ e, Guarded (fun _ _ _ _ _ => True) c e := by
    intro c e
    cases e <;> simp [Guarded]
  rw [Foundation.System.Config.run_append]
  have obeyed : ∀ (c : (application P).Config) e, c.Disciplined (May P) (Ends P) →
      (c.apply e).Disciplined (May P) (Ends P) := fun c e holds => holds.apply (code_obeys P) e
  refine Foundation.System.run_related (S := application P)
    (fun c => c.Disciplined (May P) (Ends P) ∧ Exclusive P c.state c.journal)
    (fun c c' => KeyLeads key c.state c'.state) (fun c => .refl key c.state)
    (fun one two => KeyLeads.trans one two) (fun c e holds _ => ⟨obeyed c e holds.1, ?_⟩)
    (fun c e holds _ => ?_) ⟨run_disciplined (code_obeys P) w first, run_exclusive P w first⟩
    (admissible_of_forall (fun _ _ => trivial) _ second)
  · rcases holds.1.journal_cases (everything c e) with ⟨state, journal⟩ | ⟨call, state, journal⟩ |
      ⟨index, r, action, input, found, permitted, -, state, journal⟩
    · rw [state, journal]
      exact holds.2
    · rw [state, journal]
      exact holds.2.started call
    · rw [state, journal]
      exact holds.2.stepped found permitted
  · rcases holds.1.journal_cases (everything c e) with ⟨state, -⟩ | ⟨call, state, -⟩ |
      ⟨index, r, action, input, found, permitted, -, state, -⟩
    · rw [state]
      exact .refl key c.state
    · rw [state]
      exact .refl key c.state
    · rw [state]
      exact holds.2.keyLeads found permitted

theorem Lawful.of_append {call : Call} {later past : Past}
    {s : Foundation.Step Action Input World}
    (lawful : Lawful (S := application P) (May P) call (later ++ s :: past)) :
    May P call past s.action := by
  induction later with
  | nil => exact lawful.1
  | cons s' later ih => exact ih lawful.2

theorem createOrder_owned {call : Call} {later past : Past}
    {s : Foundation.Step Action Input World}
    (lawful : Lawful (S := application P) (May P) call (later ++ s :: past))
    (creates : CreatesOrder P key s) :
    ∃ args, args.key P = key ∧ Owns P args past ∧ Latest past fun s =>
      Answered P s (.claimOrder args) true ∨
        ∃ message, Raised P s (.createOrder args) (.transientProviderError message) := by
  obtain ⟨args, ofKey, issued⟩ := creates
  have permitted := Lawful.of_append lawful
  rw [issued] at permitted
  exact ⟨args, ofKey, permitted⟩

/-- Between two calls of the provider for one key there are only transient
errors of the same attempt. -/
theorem createOrder_contiguous {call : Call} {earlier : Past}
    {s' : Foundation.Step Action Input World} (creates' : CreatesOrder P key s')
    (between : Past) : ∀ (later : Past) (s : Foundation.Step Action Input World),
    Lawful (S := application P) (May P) call (later ++ s :: (between ++ s' :: earlier)) →
    (later ++ s :: (between ++ s' :: earlier)).Pairwise
      (fun s s' => ∀ key, Wins P key s → ¬ Wins P key s') →
    CreatesOrder P key s → ∀ x ∈ between ++ [s'], ∃ args message, args.key P = key ∧
      Raised P x (.createOrder args) (.transientProviderError message) := by
  induction between with
  | nil =>
      intro later s lawful _ creates x member
      obtain ⟨args, ofKey, -, latest, rest, split, holds⟩ := createOrder_owned lawful creates
      cases split
      obtain rfl : x = s' := by simpa using member
      rcases holds with won | ⟨message, raised⟩
      · obtain ⟨args', -, issued⟩ := creates'
        cases issued.symm.trans won.1
      · exact ⟨args, message, ofKey, raised⟩
  | cons b between ih =>
      intro later s lawful distinct creates x member
      have shifted : later ++ s :: (b :: between ++ s' :: earlier)
          = (later ++ [s]) ++ b :: (between ++ s' :: earlier) := by simp
      rw [shifted] at lawful distinct
      have onward : later ++ s :: (b :: (between ++ s' :: earlier))
          = (later ++ [s]) ++ b :: (between ++ s' :: earlier) := by simp
      obtain ⟨args, ofKey, -, latest, rest, split, holds⟩ :=
        createOrder_owned (onward ▸ lawful : Lawful (S := application P) (May P) call
          (later ++ s :: (b :: (between ++ s' :: earlier)))) creates
      cases split
      rcases holds with won | ⟨message, raised⟩
      · -- The key was won before the earlier call already.
        exfalso
        have split' : later ++ [s] ++ b :: (between ++ s' :: earlier)
            = (later ++ [s] ++ b :: between) ++ s' :: earlier := by simp
        obtain ⟨args', ofKey', owns', -⟩ := createOrder_owned (split' ▸ lawful) creates'
        obtain ⟨s₀, member₀, won₀⟩ := owns'.won
        have pairs := (List.pairwise_append.mp distinct).2.1
        refine (List.pairwise_cons.mp pairs).1 s₀ ?_ key ⟨args, ofKey, won⟩ ⟨args', ofKey', won₀⟩
        simp [member₀]
      · rcases List.mem_cons.mp member with rfl | inside
        · exact ⟨args, message, ofKey, raised⟩
        · exact ih (later ++ [s]) b lawful distinct ⟨args, ofKey, raised.1⟩ x inside

/-- A call that returns an order has it reported by its last step. -/
theorem Yields.reports {r : (application P).Running} {orderId : String}
    {providerOrderId : Option String} (disciplined : r.Disciplined (May P) (Ends P))
    (yields : Yields P key r orderId providerOrderId) :
    ∃ s ∈ r.history, ∃ order : OrderRecord, Reports P s key order ∧ order.id = orderId ∧
      order.providerOrderId = providerOrderId := by
  rcases yields with ⟨args, order, wasDuplicate, made, rfl, returned, rfl, rfl⟩ |
    ⟨req, drawn, result, made, rfl, returned, allowed, id, rfl⟩
  · have ended := disciplined.ended returned
    rw [made] at ended
    obtain ⟨s, earlier, same, reports⟩ := ended
    exact ⟨s, same ▸ List.mem_cons_self, order, reports, rfl, rfl⟩
  · have ended := disciplined.ended returned
    rw [made] at ended
    rcases ended with ⟨-, -, order, ⟨s, earlier, same, reports⟩, id', number⟩ | ⟨denied, -⟩
    · exact ⟨s, same ▸ List.mem_cons_self, order, reports, Option.some.inj (id'.symm.trans id),
        number.symm⟩
    · rw [allowed] at denied
      cases denied

end Consequences

/-- In every interleaving of any number of calls, crashes included, under one
key: one call at most ever calls the provider for an order, and again only after
transient errors; there is at most one order; the key leaves IN_FLIGHT at most
once; and every call that returns an order returns the same one. -/
theorem provider_order_unique_per_key (P : Platform) (w : World)
    (events : List (application P).Event) (key : String) :
    let c := (initial w : (application P).Config).run events
    (∀ (i j : Nat) r r', c.calls[i]? = some r → c.calls[j]? = some r' → ∀ s ∈ r.history,
      ∀ s' ∈ r'.history, CreatesOrder P key s → CreatesOrder P key s' → i = j) ∧
    (∀ r ∈ c.calls, ∀ later s between s' earlier,
      r.history = later ++ s :: (between ++ s' :: earlier) → CreatesOrder P key s →
      CreatesOrder P key s' → ∀ x ∈ between ++ [s'], ∃ args message, args.key P = key ∧
        Raised P x (.createOrder args) (.transientProviderError message)) ∧
    (∀ o ∈ c.state.db.orders, ∀ o' ∈ c.state.db.orders, o.idempotencyKey = key →
      o'.idempotencyKey = key → o = o') ∧
    (∀ first second, events = first ++ second →
      KeyLeads key ((initial w : (application P).Config).run first).state c.state) ∧
    ∀ r ∈ c.calls, ∀ r' ∈ c.calls, ∀ orderId providerOrderId orderId' providerOrderId',
      Yields P key r orderId providerOrderId → Yields P key r' orderId' providerOrderId' →
      orderId = orderId' ∧ providerOrderId = providerOrderId' := by
  intro c
  have exclusive : Exclusive P c.state c.journal := run_exclusive P w events
  have disciplined : c.Disciplined (May P) (Ends P) := run_disciplined (code_obeys P) w events
  refine ⟨?_, ?_, ?_, ?_, ?_⟩
  · intro i j r r' found found' s member s' member' creates creates'
    have won : ∀ (r : (application P).Running), r ∈ c.calls → ∀ s ∈ r.history,
        CreatesOrder P key s → ∃ s₀ ∈ r.history, Wins P key s₀ := by
      intro r present s member creates
      obtain ⟨later, past, split⟩ := List.append_of_mem member
      have lawful := (disciplined r present).lawful
      rw [split] at lawful
      obtain ⟨args, ofKey, owns, -⟩ := createOrder_owned lawful creates
      obtain ⟨s₀, member₀, won₀⟩ := owns.won
      exact ⟨s₀, split ▸ List.mem_append_right _ (List.mem_cons_of_mem _ member₀), args, ofKey, won₀⟩
    obtain ⟨s₀, member₀, won₀⟩ := won r (List.mem_of_getElem? found) s member creates
    obtain ⟨s₀', member₀', won₀'⟩ := won r' (List.mem_of_getElem? found') s' member' creates'
    exact exclusive.single i j _ _ _ _ (Foundation.System.Config.getElem?_journal found)
      (Foundation.System.Config.getElem?_journal found') s₀ member₀ s₀' member₀' key won₀ won₀'
  · intro r present later s between s' earlier split creates creates' x member
    have lawful := (disciplined r present).lawful
    obtain ⟨i, found⟩ := List.mem_iff_getElem?.mp present
    have distinct := exclusive.once i _ _ (Foundation.System.Config.getElem?_journal found)
    rw [split] at lawful distinct
    exact createOrder_contiguous creates' between later s lawful distinct creates x member
  · intro o member o' member' ofKey ofKey'
    exact Database.order_unique member member' (ofKey.trans ofKey'.symm)
  · rintro first second rfl
    exact run_keyLeads P key w first second
  · intro r present r' present' orderId providerOrderId orderId' providerOrderId' yields yields'
    have stored : ∀ r ∈ c.calls, ∀ orderId providerOrderId,
        Yields P key r orderId providerOrderId → ∃ o ∈ c.state.db.orders,
          o.idempotencyKey = key ∧ o.id = orderId ∧ o.providerOrderId = providerOrderId := by
      intro r present orderId providerOrderId yields
      obtain ⟨s, member, order, reports, rfl, rfl⟩ := yields.reports (disciplined r present)
      obtain ⟨i, found⟩ := List.mem_iff_getElem?.mp present
      exact (exclusive.reported i _ _ (Foundation.System.Config.getElem?_journal found) s member key
        order reports).2
    obtain ⟨o, member, ofKey, rfl, rfl⟩ := stored r present orderId providerOrderId yields
    obtain ⟨o', member', ofKey', rfl, rfl⟩ := stored r' present' orderId' providerOrderId' yields'
    rw [Database.order_unique member member' (ofKey.trans ofKey'.symm)]
    exact ⟨rfl, rfl⟩

end Actl
