import Actl.Ledger.Phases
import Actl.Programs

/-!
# Parts of the store

What two stores have in common after a transaction: the parts it leaves alone
(`Database.Frame`), and the orders, which are never lost and of which only the
status, the payment and the provider order id are ever written (`OrdersStep`).
-/

set_option autoImplicit false

namespace Actl

open Foundation (Table)

/-! ## Parts of the store -/

/-- The parts of the store that the results below are about. -/
inductive Part where
  | orders
  | ledger
  | sagas
  | keys
  | catalog
  deriving DecidableEq, Repr

/-- A part is the same in both stores. -/
def Database.Same (db db' : Database) : Part → Prop
  | .orders => db'.orders = db.orders
  | .ledger => db'.ledgerEntries = db.ledgerEntries
  | .sagas => db'.sagas = db.sagas
  | .keys => db'.idempotencyKeys = db.idempotencyKeys
  | .catalog => (db'.quotes, db'.items, db'.catalogVersion) = (db.quotes, db.items, db.catalogVersion)

/-- The mandates as they were locked, without their status. -/
def Database.lockedMandates (db : Database) : List Mandates.Mandate :=
  db.mandates.rows.map MandateRow.mandate

/-- Everything outside the named parts that the results need: the named parts
are the same, mandates have at most changed their status, and no quote is lost. -/
structure Database.Frame (db db' : Database) (parts : List Part) : Prop where
  same : ∀ part ∈ parts, db.Same db' part
  mandates : db'.lockedMandates = db.lockedMandates
  quotes : ∀ quote ∈ db.quotes, quote ∈ db'.quotes

namespace Database.Frame

variable {db db' db'' : Database} {parts : List Part}

theorem refl (db : Database) (parts : List Part) : db.Frame db parts :=
  ⟨fun part _ => by cases part <;> rfl, rfl, fun _ => id⟩

theorem mono {fewer : List Part} (frame : db.Frame db' parts) (sub : fewer ⊆ parts) :
    db.Frame db' fewer :=
  ⟨fun part member => frame.same part (sub member), frame.mandates, frame.quotes⟩

theorem trans (first : db.Frame db' parts) (second : db'.Frame db'' parts) :
    db.Frame db'' parts := by
  refine ⟨fun part member => ?_, second.mandates.trans first.mandates,
    fun quote member => second.quotes quote (first.quotes quote member)⟩
  have one := first.same part member
  have two := second.same part member
  cases part <;> exact two.trans one

theorem orders (frame : db.Frame db' parts) (member : .orders ∈ parts := by simp) :
    db'.orders = db.orders :=
  frame.same .orders member

theorem ledger (frame : db.Frame db' parts) (member : .ledger ∈ parts := by simp) :
    db'.ledgerEntries = db.ledgerEntries :=
  frame.same .ledger member

theorem sagas (frame : db.Frame db' parts) (member : .sagas ∈ parts := by simp) :
    db'.sagas = db.sagas :=
  frame.same .sagas member

theorem keys (frame : db.Frame db' parts) (member : .keys ∈ parts := by simp) :
    db'.idempotencyKeys = db.idempotencyKeys :=
  frame.same .keys member

theorem catalog (frame : db.Frame db' parts) (member : .catalog ∈ parts := by simp) :
    (db'.quotes, db'.items, db'.catalogVersion) = (db.quotes, db.items, db.catalogVersion) :=
  frame.same .catalog member

end Database.Frame

theorem lockedMandates_updateMandateStatus (db : Database) (mandateId : String)
    (status : Mandates.MandateStatus) :
    (db.updateMandateStatus mandateId status).lockedMandates = db.lockedMandates := by
  simp only [Database.lockedMandates, Database.updateMandateStatus, Table.modify, List.map_map]
  refine List.map_congr_left fun row _ => ?_
  simp only [Function.comp_apply]
  split <;> rfl

/-- The mandates of a store are found again in a store with the same ones. -/
theorem getMandate_of_locked {db db' : Database} (same : db'.lockedMandates = db.lockedMandates)
    {mandateId : String} {row : MandateRow} (found : db.getMandate mandateId = some row) :
    ∃ row', db'.getMandate mandateId = some row' ∧ row'.mandate = row.mandate := by
  obtain ⟨present, id⟩ := Table.get?_mem found
  have listed : row.mandate ∈ db'.lockedMandates :=
    same ▸ List.mem_map_of_mem (Table.mem_def.mp present)
  obtain ⟨row', present', mandate⟩ := List.mem_map.mp listed
  refine ⟨row', (Table.get?_eq_some_iff (by simp)).mpr ⟨present', ?_⟩, mandate⟩
  rw [MandateRow.id, mandate]
  exact id

/-! ## Orders -/

abbrev OrderTable : Type := Table OrderRecord [OrderRecord.id, OrderRecord.idempotencyKey]

/-- An order of the same purchase. -/
structure OrderRecord.SamePurchase (o o' : OrderRecord) : Prop where
  id : o'.id = o.id
  mandateId : o'.mandateId = o.mandateId
  amountMinor : o'.amountMinor = o.amountMinor
  currency : o'.currency = o.currency
  quoteId : o'.quoteId = o.quoteId
  idempotencyKey : o'.idempotencyKey = o.idempotencyKey

/-- The same order, whatever has become of its payment. -/
structure OrderRecord.SameOrder (o o' : OrderRecord) : Prop extends o.SamePurchase o' where
  providerOrderId : o'.providerOrderId = o.providerOrderId

namespace OrderRecord

theorem SamePurchase.refl (o : OrderRecord) : o.SamePurchase o :=
  ⟨rfl, rfl, rfl, rfl, rfl, rfl⟩

theorem SamePurchase.trans {o o' o'' : OrderRecord} (first : o.SamePurchase o')
    (second : o'.SamePurchase o'') : o.SamePurchase o'' :=
  ⟨second.id.trans first.id, second.mandateId.trans first.mandateId,
    second.amountMinor.trans first.amountMinor, second.currency.trans first.currency,
    second.quoteId.trans first.quoteId, second.idempotencyKey.trans first.idempotencyKey⟩

theorem SameOrder.refl (o : OrderRecord) : o.SameOrder o := ⟨.refl o, rfl⟩

theorem SameOrder.trans {o o' o'' : OrderRecord} (first : o.SameOrder o')
    (second : o'.SameOrder o'') : o.SameOrder o'' :=
  ⟨first.toSamePurchase.trans second.toSamePurchase,
    second.providerOrderId.trans first.providerOrderId⟩

end OrderRecord

/-- The orders are the same ones, and a status has changed only as `changes`
allows. -/
structure OrdersStep (orders orders' : OrderTable)
    (changes : OrderRecord → OrderStatus → Prop) : Prop where
  forward : ∀ o ∈ orders, ∃ o' ∈ orders', o.SameOrder o' ∧
    (o'.status = o.status ∨ changes o o'.status)
  backward : ∀ o' ∈ orders', ∃ o ∈ orders, o.SameOrder o' ∧
    (o'.status = o.status ∨ changes o o'.status)

namespace OrdersStep

variable {orders orders' : OrderTable} {changes changes' : OrderRecord → OrderStatus → Prop}

theorem refl (orders : OrderTable) (changes : OrderRecord → OrderStatus → Prop) :
    OrdersStep orders orders changes :=
  ⟨fun o member => ⟨o, member, .refl o, .inl rfl⟩, fun o member => ⟨o, member, .refl o, .inl rfl⟩⟩

theorem mono (step : OrdersStep orders orders' changes)
    (weaker : ∀ o ∈ orders, ∀ status, changes o status → changes' o status) :
    OrdersStep orders orders' changes' := by
  refine ⟨fun o member => ?_, fun o member => ?_⟩
  · obtain ⟨o', present, same, status⟩ := step.forward o member
    exact ⟨o', present, same, status.imp_right (weaker o member _)⟩
  · obtain ⟨o', present, same, status⟩ := step.backward o member
    exact ⟨o', present, same, status.imp_right (weaker o' present _)⟩

/-- Two steps in a row, when the second one allows what the first would have. -/
theorem trans {orders orders' orders'' : OrderTable}
    {changes changes' : OrderRecord → OrderStatus → Prop}
    (first : OrdersStep orders orders' changes) (second : OrdersStep orders' orders'' changes')
    {both : OrderRecord → OrderStatus → Prop}
    (one : ∀ o ∈ orders, ∀ s, changes o s → both o s)
    (two : ∀ o ∈ orders, ∀ o' ∈ orders', o.SameOrder o' →
      (o'.status = o.status ∨ changes o o'.status) → ∀ s, changes' o' s → both o s) :
    OrdersStep orders orders'' both := by
  have combine : ∀ o ∈ orders, ∀ o' ∈ orders', ∀ o'' : OrderRecord, o.SameOrder o' →
      (o'.status = o.status ∨ changes o o'.status) →
      (o''.status = o'.status ∨ changes' o' o''.status) →
      o''.status = o.status ∨ both o o''.status := by
    intro o member o' member' o'' same status status'
    rcases status' with unchanged | changed
    · rw [unchanged]
      exact status.imp_right (one o member _)
    · exact .inr (two o member o' member' same status _ changed)
  refine ⟨fun o member => ?_, fun o'' member'' => ?_⟩
  · obtain ⟨o', member', same, status⟩ := first.forward o member
    obtain ⟨o'', member'', same', status'⟩ := second.forward o' member'
    exact ⟨o'', member'', same.trans same', combine o member o' member' o'' same status status'⟩
  · obtain ⟨o', member', same', status'⟩ := second.backward o'' member''
    obtain ⟨o, member, same, status⟩ := first.backward o' member'
    exact ⟨o, member, same.trans same', combine o member o' member' o'' same status status'⟩

end OrdersStep

theorem Database.getOrder_eq_some {db : Database} {orderId : String} {o : OrderRecord} :
    db.getOrder orderId = some o ↔ o ∈ db.orders ∧ o.id = orderId :=
  Table.get?_eq_some_iff (by simp)

theorem Database.getOrderByIdempotencyKey_eq_some {db : Database} {key : String}
    {o : OrderRecord} :
    db.getOrderByIdempotencyKey key = some o ↔ o ∈ db.orders ∧ o.idempotencyKey = key :=
  Table.get?_eq_some_iff (by simp)

theorem Database.order_unique {db : Database} {o o' : OrderRecord} (member : o ∈ db.orders)
    (member' : o' ∈ db.orders) (same : o.idempotencyKey = o'.idempotencyKey) : o = o' :=
  Table.eq_of_col_eq OrderRecord.idempotencyKey (by simp) member member' same

theorem Database.order_unique_id {db : Database} {o o' : OrderRecord} (member : o ∈ db.orders)
    (member' : o' ∈ db.orders) (same : o.id = o'.id) : o = o' :=
  Table.eq_of_col_eq OrderRecord.id (by simp) member member' same

theorem mem_modifyOrder {db : Database} {orderId : String} {f : OrderRecord → OrderRecord}
    {keeps : ∀ col ∈ [OrderRecord.id, OrderRecord.idempotencyKey], ∀ o, col (f o) = col o}
    {o' : OrderRecord} :
    o' ∈ (db.modifyOrder orderId f keeps).orders ↔
      ∃ o ∈ db.orders, o' = if o.id = orderId then f o else o := by
  simp only [Database.modifyOrder, Table.mem_modify, decide_eq_true_eq]
  exact exists_congr fun o => and_congr_right fun _ => eq_comm

theorem frame_modifyOrder {db : Database} {orderId : String} {f : OrderRecord → OrderRecord}
    {keeps : ∀ col ∈ [OrderRecord.id, OrderRecord.idempotencyKey], ∀ o, col (f o) = col o} :
    db.Frame (db.modifyOrder orderId f keeps) [.ledger, .sagas, .keys, .catalog] :=
  ⟨fun part member => by cases part <;> first | rfl | simp at member, rfl, fun _ => id⟩

/-- A change of orders that keeps them the same orders. -/
theorem ordersStep_modifyOrder {db : Database} {orderId : String} {f : OrderRecord → OrderRecord}
    {keeps : ∀ col ∈ [OrderRecord.id, OrderRecord.idempotencyKey], ∀ o, col (f o) = col o}
    {status : OrderStatus} (same : ∀ o : OrderRecord, o.SameOrder (f o)) (sets : ∀ o, (f o).status = status) :
    OrdersStep db.orders (db.modifyOrder orderId f keeps).orders
      (fun o s => o.id = orderId ∧ s = status) := by
  have change : ∀ o : OrderRecord, o.SameOrder (if o.id = orderId then f o else o) ∧
      ((if o.id = orderId then f o else o).status = o.status ∨
        o.id = orderId ∧ (if o.id = orderId then f o else o).status = status) := by
    intro o
    split
    · rename_i mine
      exact ⟨same o, .inr ⟨mine, sets o⟩⟩
    · exact ⟨.refl o, .inl rfl⟩
  refine ⟨fun o member => ⟨_, mem_modifyOrder.mpr ⟨o, member, rfl⟩, change o⟩, fun o' member => ?_⟩
  obtain ⟨o, old, rfl⟩ := mem_modifyOrder.mp member
  exact ⟨o, old, change o⟩

/-- What `transition_status` does. -/
theorem transitionStatus_ok {db db' : Database} {orderId : String} {status : OrderStatus}
    {paymentId reason : Option String}
    (done : db.transitionStatus orderId status paymentId reason = .ok db') :
    OrdersStep db.orders db'.orders (fun o s => o.id = orderId ∧ s = status) ∧
      (∃ o ∈ db.orders, o.id = orderId) ∧
      (∀ o ∈ db'.orders, o.id = orderId → o.status = status) ∧
      db.Frame db' [.ledger, .sagas, .keys, .catalog] := by
  unfold Database.transitionStatus at done
  split at done
  · cases done
  · rename_i found
    cases done
    refine ⟨ordersStep_modifyOrder (fun o => ⟨⟨rfl, rfl, rfl, rfl, rfl, rfl⟩, rfl⟩) fun o => rfl,
      ⟨_, Database.getOrder_eq_some.mp found⟩, fun o' member mine => ?_, frame_modifyOrder⟩
    obtain ⟨o, old, rfl⟩ := mem_modifyOrder.mp member
    split at mine
    · simp [*]
    · contradiction

theorem frame_appendEntry (db : Database) (P : Platform) (traceId actorType actorId : String)
    (action : Audit.AuditAction) (subject payload : JSONValue) (parts : List Part) :
    db.Frame (db.appendEntry P traceId actorType actorId action subject payload) parts :=
  ⟨fun part _ => by cases part <;> rfl, rfl, fun _ => id⟩

theorem frame_tripIntegrity (db : Database) (reason : String) (trippedSeq : Option Int) (now : Time)
    (parts : List Part) : db.Frame (db.tripIntegrity reason trippedSeq now) parts := by
  unfold Database.tripIntegrity
  split
  · exact .refl _ _
  · exact ⟨fun part _ => by cases part <;> rfl, rfl, fun _ => id⟩

end Actl
