import Mathlib
import Actl.Anchor.Worker
import Actl.Audit.Append
import Actl.Audit.Numbers
import Actl.Audit.Trail
import Actl.Payments.Service

/-!
# The timeline of an order

`application/explain_service.py`: the timeline of one order has the entries of the audit
log that name the order, its mandate or its quote, the mandate and the decision from their
own tables, and the webhooks about its payment, all in the order of their timestamps.

What the database server fills in or renders by itself is a parameter: the columns with a
server default and the text of a JSON value.
-/

set_option autoImplicit false

namespace Actl.Audit

open Foundation (Table)
open Policy (DecisionRecord RuleTraceEntry RuleResult Verdict)
open Anchor (AuditCheckpointRecord CheckpointTable)
open Payments (extractPaymentEntity)

/-! ## The server -/

/-- The columns with a server default, by the key of their row, and the text of a JSON
value that is neither a text nor null. -/
structure Server where
  loggedAt : Int → Time
  mandateCreatedAt : String → Time
  receivedAt : String → Time
  rendered : JSONValue → String

/-- `subject[name].astext`. -/
def Server.astext (S : Server) (document : JSONValue) (name : String) : Option String :=
  match document.get? name with
  | some (.str text) => some text
  | some .null | none => none
  | some value => some (S.rendered value)

/-! ## Reading the tables -/

/-- The subject of a row has this text, where a text is asked for. -/
def Server.Names (S : Server) (row : AuditLogRow) (name : String) (text : Option String) : Prop :=
  text.isSome = true ∧ S.astext row.subject name = text

instance (S : Server) (row : AuditLogRow) (name : String) (text : Option String) :
    Decidable (S.Names row name text) :=
  inferInstanceAs (Decidable (_ ∧ _))

/-- `get_for_explain`. -/
def Server.getForExplain (S : Server) (rows : List AuditLogRow) (orderId : String)
    (mandateId quoteId : Option String) : List AuditLogRow :=
  (rows.filter fun row => S.Names row "order_id" (some orderId) ∨
    S.Names row "mandate_id" mandateId ∨ S.Names row "quote_id" quoteId).insertionSort
      fun a b => a.seq ≤ b.seq

/-- `get_covering_seq`. -/
def getCoveringSeq (checkpoints : CheckpointTable) (seq : Int) : Option AuditCheckpointRecord :=
  ((checkpoints.filter fun c => c.fromSeq ≤ seq ∧ seq ≤ c.toSeq).insertionSort
    fun a b => a.toSeq ≤ b.toSeq).head?

/-! ## Items -/

inductive TimelineItemType where
  | fact
  | decision
  | providerEvent
  | compensation
  deriving DecidableEq, Repr

/-- `_ITEM_TYPE_BY_ACTION`. -/
def itemTypeByAction : List (String × TimelineItemType) :=
  [(AuditAction.mandateLocked.text, .fact),
    (AuditAction.mandateRevoked.text, .fact),
    (AuditAction.quoteIssued.text, .fact),
    (AuditAction.orderProposed.text, .fact),
    (AuditAction.budgetReserved.text, .fact),
    (AuditAction.paymentIntent.text, .fact),
    (AuditAction.paymentResult.text, .providerEvent),
    (AuditAction.webhookReceived.text, .providerEvent),
    (AuditAction.settlementClosed.text, .fact),
    (AuditAction.compensationApplied.text, .compensation),
    (AuditAction.reservationReleased.text, .compensation),
    (AuditAction.reservationExpired.text, .compensation),
    (AuditAction.mandateExecuting.text, .fact),
    ("policy.decision", .decision)]

structure TimelineItem where
  ts : Option Time
  type : TimelineItemType
  action : String
  traceId : Option String
  payload : JSONValue
  seq : Option Int := none
  entryHash : Option String := none
  prevHash : Option String := none
  payloadHash : Option String := none

/-- The item of a row of the audit log. -/
def AuditLogRow.item (S : Server) (row : AuditLogRow) : TimelineItem where
  ts := some (S.loggedAt row.seq)
  type := (itemTypeByAction.lookup row.action).getD .fact
  action := row.action
  traceId := some row.traceId
  payload := row.payload
  seq := some row.seq
  entryHash := some row.entryHash
  prevHash := some row.prevHash
  payloadHash := some row.payloadHash

def lockedItem (S : Server) (mandateId : String) : TimelineItem where
  ts := some (S.mandateCreatedAt mandateId)
  type := .fact
  action := AuditAction.mandateLocked.text
  traceId := none
  payload := .ofStrings [("mandate_id", mandateId)]

/-- `model_dump(mode="json")`. -/
def ruleTracePayload (entry : RuleTraceEntry) : JSONValue :=
  .obj [("rule", .str entry.rule), ("input", entry.input),
    ("result", .str (if entry.result = RuleResult.pass then "pass" else "fail"))]

def verdictText (verdict : Verdict) : String := if verdict = .allow then "ALLOW" else "DENY"

def decisionItem (decision : DecisionRecord) : TimelineItem where
  ts := some decision.evaluatedAt
  type := .decision
  action := "policy.decision"
  traceId := none
  payload := .obj [("mandate_id", .str decision.mandateId),
    ("verdict", .str (verdictText decision.verdict)),
    ("reason_codes", .arr (decision.reasonCodes.map fun code => .str code.value)),
    ("rule_trace", .arr (decision.ruleTrace.map ruleTracePayload))]

/-- The item of a delivery about the payment of the order, whatever its signature. -/
def webhookItem? (S : Server) (providerOrderId : String) (event : WebhookEventRecord) :
    Option TimelineItem :=
  match extractPaymentEntity event.payload with
  | none => none
  | some entity =>
      match entity.get? "order_id" with
      | some (.str orderId) =>
          if orderId = providerOrderId then
            some
              { ts := some (S.receivedAt event.providerEventId)
                type := .providerEvent
                action := AuditAction.webhookReceived.text
                traceId := none
                payload := .obj [("event_type", .str event.eventType),
                  ("provider_payment_id", (entity.get? "id").getD .null),
                  ("status", (entity.get? "status").getD .null)] }
          else none
      | _ => none

/-! ## Sorting -/

/-- The key of `timeline.sort`: no timestamp last, then the timestamp, then the number. -/
def TimelineItem.key (item : TimelineItem) : Bool ×ₗ Time ×ₗ Int :=
  toLex (item.ts.isNone, toLex (item.ts.getD 0, item.seq.getD 0))

abbrev TimelineItem.Before (a b : TimelineItem) : Prop := a.key ≤ b.key

/-! ## The explanation -/

structure AnchorInfo where
  status : Anchor.AnchorStatus
  checkpointFromSeq : Int
  checkpointToSeq : Int
  chainId : Option Int := none
  contractAddress : Option String := none
  txHash : Option String := none
  explorerUrl : Option String := none

structure ExplainResult where
  orderId : String
  terminalStatus : OrderStatus
  timeline : List TimelineItem
  anchor : Option AnchorInfo := none

/-- `_anchor_info_for`. -/
def anchorInfoFor (checkpoints : CheckpointTable) (seq : Int) : Option AnchorInfo :=
  (getCoveringSeq checkpoints seq).map fun checkpoint =>
    { status := checkpoint.anchorStatus
      checkpointFromSeq := checkpoint.fromSeq
      checkpointToSeq := checkpoint.toSeq
      chainId := checkpoint.anchorChainId
      contractAddress := checkpoint.anchorContractAddress
      txHash := checkpoint.anchorTx
      explorerUrl :=
        if checkpoint.anchorStatus = .anchored then
          (checkpoint.anchorTx.filter (· ≠ "")).map ("https://testnet.monadscan.com/tx/" ++ ·)
        else none }

/-- The rows of the audit log about the order. -/
def Server.about (S : Server) (db : Database) (o : OrderRecord) : List AuditLogRow :=
  S.getForExplain (rowsFrom reread 1 db.auditLog.entries) o.id (some o.mandateId) (some o.quoteId)

/-- The items of `explain_order` before they are sorted. -/
def Server.items (S : Server) (db : Database) (o : OrderRecord) : List TimelineItem :=
  let locked := (db.getMandate o.mandateId).map fun row => lockedItem S row.id
  let decision := (db.decisions.get? DecisionRecord.decisionId o.decisionId).map decisionItem
  let webhooks := match o.providerOrderId with
    | none => []
    | some providerOrderId => db.webhookEvents.rows.filterMap (webhookItem? S providerOrderId)
  (S.about db o).map (AuditLogRow.item S) ++ locked.toList ++ decision.toList ++ webhooks

def Server.timeline (S : Server) (db : Database) (o : OrderRecord) : List TimelineItem :=
  (S.items db o).insertionSort TimelineItem.Before

structure OrderNotFoundForExplain where
  orderId : String
  deriving DecidableEq

/-- `explain_order`. -/
def Server.explainOrder (S : Server) (checkpoints : CheckpointTable) (db : Database)
    (orderId : String) : Except OrderNotFoundForExplain ExplainResult :=
  match db.getOrder orderId with
  | none => .error ⟨orderId⟩
  | some o =>
      let timeline := S.timeline db o
      .ok
        { orderId := orderId
          terminalStatus := o.status
          timeline := timeline
          anchor := (timeline.filterMap TimelineItem.seq).max?.bind (anchorInfoFor checkpoints) }

/-! ## Stored documents -/

section Stored

variable {α : Type} {r : String × α → String × α → Prop} [DecidableRel r]

theorem lookup_orderedInsert (same : ∀ m m', m.1 = m'.1 → r m m') (key : String)
    (m : String × α) (members : List (String × α)) :
    (members.orderedInsert r m).lookup key = (m :: members).lookup key := by
  induction members with
  | nil => rfl
  | cons m' members ih =>
      rw [List.orderedInsert]
      split
      next => rfl
      next after =>
        have apart : m.1 ≠ m'.1 := fun equal => after (same m m' equal)
        rw [List.lookup_cons, ih, List.lookup_cons, List.lookup_cons, List.lookup_cons]
        by_cases first : key = m.1
        · have other : (key == m'.1) = false := beq_false_of_ne (first ▸ apart)
          rw [other]
        · have other : (key == m.1) = false := beq_false_of_ne first
          rw [other]

/-- A sort that keeps members of one key in order finds the same member. -/
theorem lookup_insertionSort (same : ∀ m m', m.1 = m'.1 → r m m') (key : String)
    (members : List (String × α)) :
    (members.insertionSort r).lookup key = members.lookup key := by
  induction members with
  | nil => rfl
  | cons m members ih =>
      rw [List.insertionSort_cons, lookup_orderedInsert same, List.lookup_cons, List.lookup_cons,
        ih]

end Stored

theorem storedBefore_refl {key key' : String} (same : key = key') :
    storedBefore key key' = true := by
  subst same
  simp [storedBefore]

theorem lookup_reread (members : List (String × JSONValue)) (key : String) :
    (members.map fun m => (m.1, reread m.2)).lookup key = (members.lookup key).map reread := by
  induction members with
  | nil => rfl
  | cons m members ih =>
      rw [List.map_cons, List.lookup_cons, List.lookup_cons, ih]
      split
      next => rfl
      next => rfl

/-- A text in a document is there after storage. -/
theorem get?_reread {document : JSONValue} {name text : String}
    (there : document.get? name = some (.str text)) :
    (reread document).get? name = some (.str text) := by
  cases document with
  | obj members =>
      rw [reread, rereadMembers_eq_map, JSONValue.get?, lookup_insertionSort, lookup_reread]
      · rw [JSONValue.get?] at there
        rw [there]
        rfl
      · intro m m' same
        exact storedBefore_refl same
  | _ => cases there

theorem AuditEntry.astext_row (S : Server) {entry : AuditEntry} {name text : String} {seq : Int}
    (there : entry.text? (.subject name) = some text) :
    S.astext (entry.row reread seq).subject name = some text := by
  have stored : entry.subject.get? name = some (.str text) := by
    rw [AuditEntry.text?, Field.text?, Field.value?] at there
    split at there
    next found => rw [found, Option.some.inj there]
    next => cases there
  rw [Server.astext, AuditEntry.row, get?_reread stored]

theorem getElem?_rowsFrom (jsonb : JSONValue → JSONValue) (seq : Int) (entries : List AuditEntry)
    (i : Nat) :
    (rowsFrom jsonb seq entries)[i]? = entries[i]?.map fun entry => entry.row jsonb (seq + i) := by
  induction entries generalizing seq i with
  | nil => rfl
  | cons entry entries ih =>
      cases i with
      | zero => simp [rowsFrom]
      | succ i =>
          rw [rowsFrom, List.getElem?_cons_succ, List.getElem?_cons_succ, ih]
          have shift : seq + 1 + (i : Int) = seq + ((i + 1 : Nat) : Int) := by
            push_cast
            omega
          rw [shift]

/-! ## What the timeline has -/

section Timeline

variable {S : Server} {db : Database} {o : OrderRecord}

theorem mem_about {row : AuditLogRow} :
    row ∈ S.about db o ↔ row ∈ rowsFrom reread 1 db.auditLog.entries ∧
      (S.astext row.subject "order_id" = some o.id ∨
        S.astext row.subject "mandate_id" = some o.mandateId ∨
        S.astext row.subject "quote_id" = some o.quoteId) := by
  rw [Server.about, Server.getForExplain, List.mem_insertionSort, List.mem_filter,
    decide_eq_true_iff]
  simp [Server.Names]

theorem rowItem_mem_items {row : AuditLogRow} (named : row ∈ S.about db o) :
    row.item S ∈ S.items db o :=
  List.mem_append_left _ (List.mem_append_left _ (List.mem_append_left _
    (List.mem_map_of_mem named)))

/-- The entries about the order are on its timeline, under their numbers. -/
theorem item_mem_items {entry : AuditEntry} {i : Nat} (found : db.auditLog.entries[i]? = some entry)
    (named : entry.text? (.subject "order_id") = some o.id ∨
      entry.text? (.subject "mandate_id") = some o.mandateId ∨
      entry.text? (.subject "quote_id") = some o.quoteId) :
    (entry.row reread (i + 1)).item S ∈ S.items db o := by
  refine rowItem_mem_items (mem_about.mpr ⟨List.mem_of_getElem? (i := i) ?_, ?_⟩)
  · rw [getElem?_rowsFrom, found, Int.add_comm]
    rfl
  · exact named.imp (AuditEntry.astext_row S)
      (Or.imp (AuditEntry.astext_row S) (AuditEntry.astext_row S))

/-- The mandate of the order is on its timeline. -/
theorem lockedItem_mem_items {row : MandateRow} (found : db.getMandate o.mandateId = some row) :
    lockedItem S o.mandateId ∈ S.items db o := by
  have named : row.id = o.mandateId := (Table.get?_mem found).2
  refine List.mem_append_left _ (List.mem_append_left _ (List.mem_append_right _ ?_))
  rw [found, Option.map_some, named]
  exact List.mem_singleton_self _

/-- The decision of the order is on its timeline. -/
theorem decisionItem_mem_items {decision : DecisionRecord} (stored : decision ∈ db.decisions)
    (named : decision.decisionId = o.decisionId) : decisionItem decision ∈ S.items db o := by
  have found : db.decisions.get? DecisionRecord.decisionId o.decisionId = some decision :=
    (Table.get?_eq_some_iff (by simp)).mpr ⟨stored, named⟩
  refine List.mem_append_left _ (List.mem_append_right _ ?_)
  rw [found]
  exact List.mem_singleton_self _

theorem webhookItem?_seq {providerOrderId : String} {event : WebhookEventRecord}
    {item : TimelineItem} (made : webhookItem? S providerOrderId event = some item) :
    item.seq = none := by
  rw [webhookItem?] at made
  split at made
  next => cases made
  next =>
    split at made
    next =>
      split at made
      next =>
        cases made
        rfl
      next => cases made
    next => cases made

/-- Only the items of the audit log have a number, and each has its own. -/
theorem seqs_items : (S.items db o).filterMap TimelineItem.seq =
    (S.about db o).map AuditLogRow.seq := by
  have rows : ∀ rows : List AuditLogRow,
      (rows.map (AuditLogRow.item S)).filterMap TimelineItem.seq = rows.map AuditLogRow.seq := by
    intro rows
    induction rows with
    | nil => rfl
    | cons row rows ih => rw [List.map_cons, List.map_cons, List.filterMap_cons, ih]; rfl
  have webhooks : ∀ (providerOrderId : String) (events : List WebhookEventRecord),
      (events.filterMap (webhookItem? S providerOrderId)).filterMap TimelineItem.seq = [] := by
    intro providerOrderId events
    refine List.filterMap_eq_nil_iff.mpr fun item member => ?_
    obtain ⟨event, -, made⟩ := List.mem_filterMap.mp member
    exact webhookItem?_seq made
  rw [Server.items, List.filterMap_append, List.filterMap_append, List.filterMap_append, rows]
  cases db.getMandate o.mandateId <;>
    cases db.decisions.get? DecisionRecord.decisionId o.decisionId <;>
      cases o.providerOrderId <;> simp [webhooks, lockedItem, decisionItem]

/-- An item with a number is that of a row about the order. -/
theorem numbered_item {item : TimelineItem} (member : item ∈ S.items db o)
    (numbered : item.seq.isSome = true) : ∃ row ∈ S.about db o, item = row.item S := by
  rw [Server.items] at member
  rcases List.mem_append.mp member with rest | webhook
  · rcases List.mem_append.mp rest with rest | decision
    · rcases List.mem_append.mp rest with logged | locked
      · obtain ⟨row, stored, rfl⟩ := List.mem_map.mp logged
        exact ⟨row, stored, rfl⟩
      · obtain ⟨row, -, rfl⟩ := Option.map_eq_some_iff.mp (Option.mem_toList.mp locked)
        cases numbered
    · obtain ⟨decision, -, rfl⟩ := Option.map_eq_some_iff.mp (Option.mem_toList.mp decision)
      cases numbered
  · cases order : o.providerOrderId with
    | none =>
        rw [order] at webhook
        cases webhook
    | some providerOrderId =>
        rw [order] at webhook
        obtain ⟨event, -, made⟩ := List.mem_filterMap.mp webhook
        rw [webhookItem?_seq made] at numbered
        cases numbered

/-- An item with a number has the timestamp of its row. -/
theorem ts_of_seq {item : TimelineItem} (member : item ∈ S.items db o) {seq : Int}
    (numbered : item.seq = some seq) : item.ts = some (S.loggedAt seq) := by
  obtain ⟨row, -, rfl⟩ := numbered_item member (by rw [numbered]; rfl)
  cases numbered
  rfl

theorem ascending_rowsFrom {jsonb : JSONValue → JSONValue} {seq : Int} (entries : List AuditEntry) :
    (rowsFrom jsonb seq entries).Pairwise fun a b => a.seq < b.seq := by
  induction entries generalizing seq with
  | nil => exact List.Pairwise.nil
  | cons entry entries ih =>
      refine List.Pairwise.cons (fun row member => ?_) ih
      have bounds := seq_of_mem_rowsFrom member
      have first : (entry.row jsonb seq).seq = seq := rfl
      omega

theorem nodup_seqs : ((S.items db o).filterMap TimelineItem.seq).Nodup := by
  rw [seqs_items, Server.about, Server.getForExplain]
  refine ((List.perm_insertionSort _ _).map AuditLogRow.seq).nodup_iff.mpr ?_
  refine List.Nodup.sublist (List.filter_sublist.map AuditLogRow.seq) ?_
  exact List.pairwise_map.mpr ((ascending_rowsFrom _).imp fun later => Int.ne_of_lt later)

theorem mem_timeline {item : TimelineItem} : item ∈ S.timeline db o ↔ item ∈ S.items db o :=
  List.mem_insertionSort _

/-- Of the log there is on the timeline just what names the order, its mandate or its
quote. -/
theorem mem_timeline_iff {item : TimelineItem} (numbered : item.seq.isSome = true) :
    item ∈ S.timeline db o ↔ ∃ row ∈ rowsFrom reread 1 db.auditLog.entries,
      (S.astext row.subject "order_id" = some o.id ∨
        S.astext row.subject "mandate_id" = some o.mandateId ∨
        S.astext row.subject "quote_id" = some o.quoteId) ∧ item = row.item S := by
  rw [mem_timeline]
  constructor
  · intro member
    obtain ⟨row, named, rfl⟩ := numbered_item member numbered
    obtain ⟨stored, names⟩ := mem_about.mp named
    exact ⟨row, stored, names, rfl⟩
  · rintro ⟨row, stored, names, rfl⟩
    exact rowItem_mem_items (mem_about.mpr ⟨stored, names⟩)

theorem timeline_sorted : (S.timeline db o).Pairwise TimelineItem.Before :=
  List.pairwise_insertionSort TimelineItem.Before _

/-- While later rows never have earlier timestamps, the entries of the log are on the
timeline in the order of the log. -/
theorem timeline_ascending (steady : Monotone S.loggedAt) :
    ((S.timeline db o).filterMap TimelineItem.seq).Pairwise (· < ·) := by
  have distinct : ((S.timeline db o).filterMap TimelineItem.seq).Nodup :=
    ((List.perm_insertionSort _ _).filterMap _).nodup_iff.mpr nodup_seqs
  have ordered : ((S.timeline db o).filterMap TimelineItem.seq).Pairwise (· ≤ ·) := by
    refine List.pairwise_filterMap.mpr (timeline_sorted.imp_of_mem ?_)
    intro a b memberA memberB before seq numbered seq' numbered'
    have ts := ts_of_seq (mem_timeline.mp memberA) numbered
    have ts' := ts_of_seq (mem_timeline.mp memberB) numbered'
    rw [TimelineItem.Before, TimelineItem.key, TimelineItem.key, ts, ts', numbered, numbered',
      Prod.Lex.toLex_le_toLex, Prod.Lex.toLex_le_toLex] at before
    rcases before with impossible | ⟨-, earlier | ⟨-, same⟩⟩
    · exact absurd impossible (lt_irrefl _)
    · by_contra later
      exact absurd (steady (Int.le_of_not_le later)) (not_le_of_gt earlier)
    · exact same
  exact ordered.and distinct |>.imp fun pair => lt_of_le_of_ne pair.1 pair.2

end Timeline

section Anchored

variable {checkpoints : CheckpointTable} {seqs : List Int} {info : AnchorInfo}

/-- The checkpoint of the answer reaches the last of the numbers. -/
theorem anchor_covers (shown : seqs.max?.bind (anchorInfoFor checkpoints) = some info) :
    ∃ last ∈ seqs, (∀ seq ∈ seqs, seq ≤ last) ∧ info.checkpointFromSeq ≤ last ∧
      last ≤ info.checkpointToSeq := by
  obtain ⟨last, greatest, found⟩ := Option.bind_eq_some_iff.mp shown
  obtain ⟨member, bound⟩ := List.max?_eq_some_iff.mp greatest
  obtain ⟨checkpoint, covering, rfl⟩ := Option.map_eq_some_iff.mp found
  have stored := (List.mem_insertionSort _).mp (List.mem_of_head? covering)
  have covers := of_decide_eq_true (List.mem_filter.mp stored).2
  exact ⟨last, member, bound, covers⟩

end Anchored

theorem explainOrder_of_mem {S : Server} {checkpoints : CheckpointTable} {db : Database}
    {o : OrderRecord} (member : o ∈ db.orders) :
    ∃ result, S.explainOrder checkpoints db o.id = .ok result ∧ result.orderId = o.id ∧
      result.terminalStatus = o.status ∧ result.timeline = S.timeline db o ∧
      result.anchor =
        ((S.timeline db o).filterMap TimelineItem.seq).max?.bind (anchorInfoFor checkpoints) := by
  have found : db.getOrder o.id = some o := (Table.get?_eq_some_iff (by simp)).mpr ⟨member, rfl⟩
  rw [Server.explainOrder, found]
  exact ⟨_, rfl, rfl, rfl, rfl, rfl⟩

end Actl.Audit
