import Actl.Payments.WebhookOutcome

/-!
# What the reconciler makes of an order's payments

One order at the provider can have several payments, since a payer may try again
after a decline. The reconciler captures an order when one of its payments is
captured. Without a captured payment one that has failed is enough for it to fail the
order, even when another attempt is still under way. So its decision agrees with the
payments (`Reflects`) exactly when it does not meet such a mixture
(`reconciled_iff_not_mixed`).
-/

set_option autoImplicit false

namespace Actl.Payments

open Foundation (Table)

/-! ## The payments of an order -/

/-- What the payments say has become of the order: captured when one of them is,
failed when they all have, and otherwise as it was. -/
structure Reflects (payments : List ProviderPayment) (order order' : OrderRecord) : Prop where
  captured : order'.status = .captured ↔ ∃ p ∈ payments, p.status = .captured
  failed : order'.status = .failed ↔ payments ≠ [] ∧ ∀ p ∈ payments, p.status = .failed
  unchanged : (¬ ∃ p ∈ payments, p.status = .captured) →
    ¬ (payments ≠ [] ∧ ∀ p ∈ payments, p.status = .failed) → order' = order

/-- Some of the payments have failed and others are still under way, and none is
captured. -/
structure Mixed (payments : List ProviderPayment) : Prop where
  failed : ∃ p ∈ payments, p.status = .failed
  pending : ∃ p ∈ payments, p.status ≠ .failed
  uncaptured : ∀ p ∈ payments, p.status ≠ .captured

theorem Mixed.of_perm {payments payments' : List ProviderPayment} (mixed : Mixed payments)
    (perm : payments'.Perm payments) : Mixed payments' := by
  obtain ⟨⟨p, member, failed⟩, ⟨q, member', pending⟩, uncaptured⟩ := mixed
  exact ⟨⟨p, perm.mem_iff.mpr member, failed⟩, ⟨q, perm.mem_iff.mpr member', pending⟩,
    fun r present => uncaptured r (perm.mem_iff.mp present)⟩

theorem Reflects.of_perm {payments payments' : List ProviderPayment} {order order' : OrderRecord}
    (reflects : Reflects payments' order order') (perm : payments'.Perm payments) :
    Reflects payments order order' := by
  have nonempty : payments' ≠ [] ↔ payments ≠ [] := not_congr
    ⟨fun none => List.nil_perm.mp (none ▸ perm), fun none => List.perm_nil.mp (none ▸ perm)⟩
  obtain ⟨captured, failed, unchanged⟩ := reflects
  simp only [perm.mem_iff, nonempty] at captured failed unchanged
  exact ⟨captured, failed, unchanged⟩

/-- What the reconciler makes of the order. -/
structure Marks (payments : List ProviderPayment) (order order' : OrderRecord) : Prop where
  captures : (∃ p ∈ payments, p.status = .captured) → order'.status = .captured
  fails : (∀ p ∈ payments, p.status ≠ .captured) → (∃ p ∈ payments, p.status = .failed) →
    order'.status = .failed
  leaves : (∀ p ∈ payments, p.status ≠ .captured) → (∀ p ∈ payments, p.status ≠ .failed) →
    order' = order

/-- For an order that is not terminal, what is made of it reflects its payments
exactly when they are not mixed. -/
theorem Marks.reflects_iff {payments : List ProviderPayment} {order order' : OrderRecord}
    (marks : Marks payments order order') (live : order.status.isTerminal = false) :
    Reflects payments order order' ↔ ¬ Mixed payments := by
  constructor
  · rintro reflects ⟨failed, ⟨p, member, pending⟩, uncaptured⟩
    exact pending ((reflects.failed.mp (marks.fails uncaptured failed)).2 p member)
  · intro unmixed
    by_cases captured : ∃ p ∈ payments, p.status = .captured
    · have status := marks.captures captured
      obtain ⟨p, member, captures⟩ := captured
      refine ⟨⟨fun _ => ⟨p, member, captures⟩, fun _ => status⟩, ?_,
        fun none => absurd ⟨p, member, captures⟩ none⟩
      rw [status]
      refine ⟨fun clash => ?_, fun all => ?_⟩
      · cases clash
      · cases captures.symm.trans (all.2 p member)
    · have uncaptured : ∀ p ∈ payments, p.status ≠ .captured :=
        fun p member captures => captured ⟨p, member, captures⟩
      by_cases failed : ∃ p ∈ payments, p.status = .failed
      · have status := marks.fails uncaptured failed
        have all : payments ≠ [] ∧ ∀ p ∈ payments, p.status = .failed := by
          refine ⟨fun none => ?_, fun p member => ?_⟩
          · obtain ⟨p, member, -⟩ := failed
            rw [none] at member
            cases member
          · by_contra pending
            exact unmixed ⟨failed, ⟨p, member, pending⟩, uncaptured⟩
        refine ⟨?_, ⟨fun _ => all, fun _ => status⟩, fun _ none => absurd all none⟩
        rw [status]
        refine ⟨fun clash => ?_, fun present => absurd present captured⟩
        cases clash
      · have unfailed : ∀ p ∈ payments, p.status ≠ .failed :=
          fun p member fails => failed ⟨p, member, fails⟩
        have same := marks.leaves uncaptured unfailed
        subst same
        refine ⟨⟨fun terminal => ?_, fun present => absurd present captured⟩,
          ⟨fun terminal => ?_, fun all => ?_⟩, fun _ _ => rfl⟩
        · rw [terminal] at live
          cases live
        · rw [terminal] at live
          cases live
        · cases payments with
          | nil => exact absurd rfl all.1
          | cons p payments =>
              exact absurd (all.2 p List.mem_cons_self) (unfailed p List.mem_cons_self)

/-! ## The payment that decides -/

theorem latestPayment_captured {payments : List ProviderPayment}
    (captured : ∃ p ∈ payments, p.status = .captured) :
    ∃ p, latestPayment payments = some p ∧ p.status = .captured := by
  cases found : payments.find? (·.status = .captured) with
  | none =>
      obtain ⟨p, member, captures⟩ := captured
      exact absurd (decide_eq_true captures) (List.find?_eq_none.mp found p member)
  | some p =>
      refine ⟨p, ?_, by simpa using List.find?_some found⟩
      rw [latestPayment, found]
      rfl

theorem latestPayment_uncaptured {payments : List ProviderPayment}
    (uncaptured : ∀ p ∈ payments, p.status ≠ .captured) :
    latestPayment payments = (payments.find? (·.status = .failed)).or payments.getLast? := by
  have none : payments.find? (·.status = .captured) = none := by
    simpa [List.find?_eq_none] using uncaptured
  rw [latestPayment, none]
  rfl

theorem latestPayment_failed {payments : List ProviderPayment}
    (uncaptured : ∀ p ∈ payments, p.status ≠ .captured)
    (failed : ∃ p ∈ payments, p.status = .failed) :
    ∃ p, latestPayment payments = some p ∧ p.status = .failed := by
  rw [latestPayment_uncaptured uncaptured]
  cases found : payments.find? (·.status = .failed) with
  | none =>
      obtain ⟨p, member, fails⟩ := failed
      exact absurd (decide_eq_true fails) (List.find?_eq_none.mp found p member)
  | some p => exact ⟨p, rfl, by simpa using List.find?_some found⟩

theorem latestPayment_pending {payments : List ProviderPayment}
    (uncaptured : ∀ p ∈ payments, p.status ≠ .captured)
    (unfailed : ∀ p ∈ payments, p.status ≠ .failed) {p : ProviderPayment}
    (latest : latestPayment payments = some p) : p.status ≠ .captured ∧ p.status ≠ .failed := by
  have none : payments.find? (·.status = .failed) = none := by
    simpa [List.find?_eq_none] using unfailed
  rw [latestPayment_uncaptured uncaptured, none] at latest
  have member := List.mem_of_getLast? latest
  exact ⟨uncaptured p member, unfailed p member⟩

/-! ## One order -/

section Order

variable {P : Platform} {db : Database} {order : OrderRecord}

/-- What a poll makes of the order: nothing, when there is no order at the provider or
the poll has failed. -/
def Polled (poll : Except Failure (List ProviderPayment)) (order order' : OrderRecord) : Prop :=
  (order.providerOrderId = none → order' = order) ∧
    (∀ failure, poll = .error failure → order' = order) ∧
    ∀ payments, order.providerOrderId ≠ none → poll = .ok payments → Marks payments order order'

/-- A transition changes the order and no other. -/
theorem transitionStatus_order (found : db.getOrder order.id = some order) (status : OrderStatus)
    (providerPaymentId declineReason : Option String) :
    ∃ db' order', db.transitionStatus order.id status providerPaymentId declineReason = .ok db' ∧
      db'.getOrder order.id = some order' ∧ order'.status = status ∧
      ∀ id ≠ order.id, db'.getOrder id = db.getOrder id := by
  rw [Database.transitionStatus, found]
  refine ⟨_, { order with
    status := status
    providerPaymentId := providerPaymentId.or order.providerPaymentId
    declineReason := declineReason.or order.declineReason }, rfl, ?_, rfl, fun id other => ?_⟩
  · rw [Database.getOrder] at found
    rw [Database.getOrder, Database.modifyOrder, Table.get?_modify (by simp), found]
    simp
  · rw [Database.getOrder, Database.modifyOrder, Table.get?_modify (by simp), Database.getOrder]
    cases stored : db.orders.get? OrderRecord.id id with
    | none => rfl
    | some o =>
        have named : o.id ≠ order.id := (Table.get?_mem stored).2 ▸ other
        simp [named]

/-- An order that is there is handled as its poll says, and no other is touched. -/
theorem reconcileOrder_polled (traceId : String) {poll : Except Failure (List ProviderPayment)}
    (answers : ∀ failure, poll = .error failure → failure.isProviderFailure = true)
    (found : db.getOrder order.id = some order) :
    ∃ db' order', reconcileOrder P traceId poll order db = .ok db' ∧
      db'.getOrder order.id = some order' ∧ Polled poll order order' ∧
      ∀ id ≠ order.id, db'.getOrder id = db.getOrder id := by
  unfold reconcileOrder
  cases named : order.providerOrderId with
  | none =>
      refine ⟨db, order, rfl, found, ⟨fun _ => rfl, fun _ _ => rfl, ?_⟩, fun _ _ => rfl⟩
      intro _ present
      exact absurd named present
  | some providerOrderId =>
      cases poll with
      | error failure =>
          simp only [answers failure rfl, if_true]
          refine ⟨db, order, rfl, found, ⟨fun _ => rfl, fun _ _ => rfl, ?_⟩, fun _ _ => rfl⟩
          intro _ _ clash
          cases clash
      | ok payments =>
          have polled : ∀ {order' : OrderRecord}, Marks payments order order' →
              Polled (.ok payments) order order' := by
            intro order' marks
            refine ⟨fun none => ?_, fun _ clash => ?_, fun payments' _ same => ?_⟩
            · rw [named] at none
              cases none
            · cases clash
            · cases same
              exact marks
          by_cases captured : ∃ p ∈ payments, p.status = .captured
          · obtain ⟨p, latest, captures⟩ := latestPayment_captured captured
            obtain ⟨db', order', done, found', status, others⟩ :=
              transitionStatus_order found .captured (some p.id) none
            simp only [latest, captures, done]
            refine ⟨_, order', rfl, found', polled ⟨fun _ => status, fun none => ?_, fun none => ?_⟩,
              others⟩
            · obtain ⟨q, member, captures'⟩ := captured
              exact absurd captures' (none q member)
            · obtain ⟨q, member, captures'⟩ := captured
              exact absurd captures' (none q member)
          · have uncaptured : ∀ p ∈ payments, p.status ≠ .captured :=
              fun p member captures => captured ⟨p, member, captures⟩
            by_cases failed : ∃ p ∈ payments, p.status = .failed
            · obtain ⟨p, latest, fails⟩ := latestPayment_failed uncaptured failed
              have finish : ∀ reason, ∃ db' order', (do
                  let db ← db.transitionStatus order.id .failed (some p.id) (some reason)
                  return db.appendEntry P traceId "system" "reconciler" .paymentResult
                    (.ofStrings [("order_id", order.id)])
                    (.ofStrings [("status", "failed"), ("source", "reconciler"),
                      ("provider_payment_id", p.id)])) = Except.ok db' ∧
                  db'.getOrder order.id = some order' ∧ Polled (.ok payments) order order' ∧
                  ∀ id ≠ order.id, db'.getOrder id = db.getOrder id := by
                intro reason
                obtain ⟨db', order', done, found', status, others⟩ :=
                  transitionStatus_order found .failed (some p.id) (some reason)
                rw [done]
                refine ⟨_, order', rfl, found', polled ⟨fun present => absurd present captured,
                  fun _ _ => status, fun _ none => ?_⟩, others⟩
                obtain ⟨q, member, fails'⟩ := failed
                exact absurd fails' (none q member)
              simp only [latest, fails]
              exact finish _
            · have unfailed : ∀ p ∈ payments, p.status ≠ .failed :=
                fun p member fails => failed ⟨p, member, fails⟩
              have marks : Marks payments order order := ⟨fun present => absurd present captured,
                fun _ present => absurd present failed, fun _ _ => rfl⟩
              refine ⟨db, order, ?_, found, polled marks, fun _ _ => rfl⟩
              cases latest : latestPayment payments with
              | none => simp only [latest]
              | some p =>
                  obtain ⟨notCaptured, notFailed⟩ :=
                    latestPayment_pending uncaptured unfailed latest
                  simp only [latest]

end Order

/-! ## The loop and the tick -/

section Tick

variable {P : Platform} {traceId : Nat → String}
variable {polls : Nat → Except Failure (List ProviderPayment)}

/-- The loop handles every order as its own poll says. The induction is on the orders
that are left; the ones before keep what was made of them, since ids are unique. -/
theorem reconcileOrders_polled
    (answers : ∀ i failure, polls i = .error failure → failure.isProviderFailure = true)
    (orders : List OrderRecord) (start : Nat) {db : Database}
    (distinct : (orders.map OrderRecord.id).Nodup)
    (found : ∀ order ∈ orders, db.getOrder order.id = some order) :
    ∃ db', reconcileOrders P traceId polls start orders db = .ok db' ∧
      (∀ i order, orders[i]? = some order → ∃ order', db'.getOrder order.id = some order' ∧
        Polled (polls (start + i)) order order') ∧
      ∀ id ∉ orders.map OrderRecord.id, db'.getOrder id = db.getOrder id := by
  induction orders generalizing start db with
  | nil => exact ⟨db, rfl, fun i order none => (by simp at none), fun _ _ => rfl⟩
  | cons order orders ih =>
      obtain ⟨fresh, distinct'⟩ := List.nodup_cons.mp distinct
      obtain ⟨db₁, order', handled, found', polled, others⟩ :=
        reconcileOrder_polled (P := P) (traceId start) (answers start) (found order List.mem_cons_self)
      have found₁ : ∀ o ∈ orders, db₁.getOrder o.id = some o := by
        intro o member
        have other : o.id ≠ order.id :=
          fun same => fresh (same ▸ List.mem_map_of_mem member)
        rw [others o.id other]
        exact found o (List.mem_cons_of_mem _ member)
      obtain ⟨db₂, done, rest, untouched⟩ := ih (start + 1) distinct' found₁
      refine ⟨db₂, ?_, fun i o here => ?_, fun id absent => ?_⟩
      · rw [reconcileOrders, handled]
        exact done
      · cases i with
        | zero =>
            cases here
            exact ⟨order', (untouched order.id fresh).trans found', polled⟩
        | succ i =>
            have shifted : start + (i + 1) = start + 1 + i := by omega
            rw [shifted]
            exact rest i o here
      · rw [List.map_cons, List.mem_cons, not_or] at absent
        rw [untouched id absent.2, others id absent.1]

/-- A tick that is not halted ends, and handles every due order as its poll says. -/
theorem tick_polled {now : Nat → Time} {db : Database} (running : db.integrity.halted = false)
    (answers : ∀ i failure, polls i = .error failure → failure.isProviderFailure = true) :
    ∃ db', reconcileNonTerminalOrders P now traceId polls db = .ok db' ∧
      ∀ i order, (db.listNonTerminalOlderThan (now 0 - seconds P.settings.reconcileAfterS))[i]?
          = some order →
        ∃ order', db'.getOrder order.id = some order' ∧ Polled (polls i) order order' := by
  have due := List.filter_sublist
    (l := db.orders.rows) (p := fun o => !o.status.isTerminal &&
      o.createdAt < now 0 - seconds P.settings.reconcileAfterS)
  have distinct := (db.orders.unique OrderRecord.id (by simp)).sublist (due.map OrderRecord.id)
  have found : ∀ order ∈ db.listNonTerminalOlderThan (now 0 - seconds P.settings.reconcileAfterS),
      db.getOrder order.id = some order := fun order member =>
    (Table.get?_eq_some_iff (by simp)).mpr ⟨due.subset member, rfl⟩
  obtain ⟨db', done, handled, -⟩ := @reconcileOrders_polled P traceId _ answers _ 0 _
    distinct found
  refine ⟨db', ?_, fun i order here => ?_⟩
  · rw [reconcileNonTerminalOrders, Database.raiseIfHalted, running]
    exact done
  · have handled' := handled i order here
    rw [Nat.zero_add] at handled'
    exact handled'

end Tick

/-- The tick on a store ends with the order as its payments say, in whatever order
they are listed. -/
def ReflectsPolled (P : Platform) (now : Nat → Time) (traceId : Nat → String)
    (polls : Nat → Except Failure (List ProviderPayment)) (db : Database) (i : Nat)
    (order : OrderRecord) (payments : List ProviderPayment) : Prop :=
  ∀ listed : List ProviderPayment, listed.Perm payments →
    ∃ db' order', reconcileNonTerminalOrders P now traceId (Function.update polls i (.ok listed)) db
        = .ok db' ∧
      db'.getOrder order.id = some order' ∧ Reflects payments order order'

/-- For every store that is not halted and every order that is due, whatever the
provider answers for the other orders and whatever payments it lists for this one: the
tick marks the order as its payments say, whatever their order, exactly when they are
not a mixture of failed payments with others that are still under way. -/
theorem reconciled_iff_not_mixed (P : Platform) (now : Nat → Time) (traceId : Nat → String)
    (polls : Nat → Except Failure (List ProviderPayment)) (db : Database)
    (running : db.integrity.halted = false)
    (answers : ∀ i failure, polls i = .error failure → failure.isProviderFailure = true)
    (i : Nat) (order : OrderRecord)
    (due : (db.listNonTerminalOlderThan (now 0 - seconds P.settings.reconcileAfterS))[i]?
      = some order)
    (placed : order.providerOrderId ≠ none) (payments : List ProviderPayment) :
    ReflectsPolled P now traceId polls db i order payments ↔ ¬ Mixed payments := by
  have live : order.status.isTerminal = false := by
    have selected := (List.mem_filter.mp (List.mem_of_getElem? due)).2
    simp only [Bool.and_eq_true, Bool.not_eq_true'] at selected
    exact selected.1
  -- What the tick makes of the order, for one listing of its payments.
  have marked : ∀ listed : List ProviderPayment, ∃ db' order', reconcileNonTerminalOrders P now
      traceId (Function.update polls i (.ok listed)) db = .ok db' ∧
      db'.getOrder order.id = some order' ∧ Marks listed order order' := by
    intro listed
    have answers' : ∀ j failure, Function.update polls i (.ok listed) j = .error failure →
        failure.isProviderFailure = true := by
      intro j failure raised
      by_cases here : j = i
      · subst here
        rw [Function.update_self] at raised
        cases raised
      · rw [Function.update_of_ne here] at raised
        exact answers j failure raised
    obtain ⟨db', done, handled⟩ := @tick_polled P traceId _ _ _ running answers'
    obtain ⟨order', found, polled⟩ := handled i order due
    rw [Function.update_self] at polled
    exact ⟨db', order', done, found, polled.2.2 listed placed rfl⟩
  constructor
  · intro reflects
    obtain ⟨db', order', done, found, reflected⟩ := reflects payments (.refl _)
    obtain ⟨db'', order'', done', found', marks⟩ := marked payments
    cases done.symm.trans done'
    cases found.symm.trans found'
    exact (marks.reflects_iff live).mp reflected
  · intro unmixed listed perm
    obtain ⟨db', order', done, found, marks⟩ := marked listed
    have reflected := (marks.reflects_iff live).mpr fun mixed => unmixed (mixed.of_perm perm.symm)
    exact ⟨db', order', done, found, reflected.of_perm perm⟩

namespace Fixture

open Actl.Fixture (platform start)

/-- A declined payment, and the one the payer has authorized since. -/
def retried : List ProviderPayment :=
  [⟨"pay_1", .failed, some "declined"⟩, ⟨"pay_2", .authorized, none⟩]

/-- A minute later the order is due. -/
def later (_ : Nat) : Time := start + seconds 60

/-- The order is failed while its second payment is authorized. -/
theorem retried_order_failed :
    ¬ ReflectsPolled platform later (fun _ => "trc_1") (fun _ => .ok []) pending 0 pendingOrder
      retried := by
  intro reflects
  obtain ⟨db', order', done, found, reflected⟩ := reflects retried (.refl _)
  have failed : (reconcileNonTerminalOrders platform later (fun _ => "trc_1")
      (Function.update (fun _ => .ok []) 0 (.ok retried)) pending).toOption.bind
        (fun db => (db.getOrder "ord_1").map OrderRecord.status) = some .failed := by
    decide +kernel
  rw [done] at failed
  have status : order'.status = .failed := by
    have stored : db'.getOrder "ord_1" = some order' := found
    simpa [Except.toOption, stored] using failed
  exact absurd ((reflected.failed.mp status).2 ⟨"pay_2", .authorized, none⟩ (by simp [retried]))
    (by decide)

/-- With both attempts declined it is rightly failed. -/
theorem declined_order_reflects :
    ReflectsPolled platform later (fun _ => "trc_1") (fun _ => .ok []) pending 0 pendingOrder
      [⟨"pay_1", .failed, some "declined"⟩, ⟨"pay_2", .failed, none⟩] :=
  (reconciled_iff_not_mixed platform later (fun _ => "trc_1") (fun _ => .ok []) pending rfl
    (fun _ _ clash => by cases clash) 0 pendingOrder (by decide) (by decide) _).mpr fun mixed => by
      obtain ⟨p, member, pending⟩ := mixed.pending
      rcases List.mem_pair.mp member with rfl | rfl
      · exact pending rfl
      · exact pending rfl

end Fixture

end Actl.Payments
