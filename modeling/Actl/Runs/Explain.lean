import Actl.Audit.Explain
import Actl.Effects.References
import Actl.Runs.Trail

/-!
# The timelines of the orders

In every run, an order is explained by its timeline: the mandate, the decision that allowed
the purchase, the quote, a proposal that was allowed, the reservation and the payment are
all on it (`orders_are_explained`).

An order is claimed only by a call that has passed the gate, and the gate passes only with
a decision that allows the purchase. An order keeps its decision, and the entries that were
logged before it stay before it.
-/

set_option autoImplicit false

namespace Actl

open Foundation (Step Table Grounded Recalls recalls_nil)
open Foundation.System (Config initial run_journal_invariant admissible_of_forall)
open Audit (AuditEntry Caused Field Server Shown TimelineItem)
open Gate (MoneyActionRequest)

/-! ## What an order rests on -/

/-- The order's decision allows it, and the log has its quote before its payment. -/
structure Founded (db : Database) (o : OrderRecord) : Prop where
  decision : DecisionAllows db o.decisionId o.mandateId
  quoted : ∃ (place : Nat) (intended : AuditEntry),
    db.auditLog.entries[place]? = some intended ∧
      intended.Shows .paymentIntent (orderTexts o) ∧
      Shown (db.auditLog.entries.take place) .quoteIssued [(.subject "quote_id", o.quoteId)]

theorem DecisionAllows.kept {db db' : Database} {decisionId mandateId : String}
    (allows : DecisionAllows db decisionId mandateId)
    (decisions : ∀ decision ∈ db.decisions, decision ∈ db'.decisions) :
    DecisionAllows db' decisionId mandateId := by
  obtain ⟨decision, member, rest⟩ := allows
  exact ⟨decision, decisions decision member, rest⟩

theorem Founded.kept {db db' : Database} {o o' : OrderRecord} (founded : Founded db o)
    (same : o.SamePurchase o') (decided : o'.decisionId = o.decisionId)
    (decisions : ∀ decision ∈ db.decisions, decision ∈ db'.decisions)
    (audit : db.auditLog.entries <+: db'.auditLog.entries) : Founded db' o' := by
  refine ⟨?_, ?_⟩
  · rw [decided, same.mandateId]
    exact founded.decision.kept decisions
  · obtain ⟨place, intended, found, intends, issued⟩ := founded.quoted
    obtain ⟨more, entries⟩ := audit
    have bound := (List.getElem?_eq_some_iff.mp found).1
    refine ⟨place, intended, ?_, ?_, ?_⟩
    · rw [← entries, List.getElem?_append_left bound]
      exact found
    · simpa only [orderTexts, same.id, same.mandateId, same.idempotencyKey] using intends
    · rw [← entries, List.take_append_of_le_length (Nat.le_of_lt bound), same.quoteId]
      exact issued

theorem gatePassed_of_answer {P : Platform} {req : MoneyActionRequest} {key : String}
    {input : Input} {w : World}
    (passed : (execute P (.attemptG1ThroughG5 req key) input w).1 = .ok none) :
    ∃ now db', GatePassed P req key now w.db db' := by
  simp only [execute] at passed
  rcases w.transaction_cases input.dbError (Gate.attemptG1ThroughG5 P req key (input.now 0)) with
    ⟨failure, done, -⟩ | ⟨result, db', -, ran, done⟩
  · rw [done] at passed
    cases passed
  · rw [done] at passed
    rcases attemptG1ThroughG5_ok ran with ⟨code, denied, -⟩ | ⟨-, gate⟩
    · rw [denied] at passed
      cases passed
    · exact ⟨_, db', gate⟩

/-! ## The invariant -/

/-- What the passed gates have found and what the orders rest on. -/
structure Founding (P : Platform) (w : World) (journal : Journal) : Prop where
  gates : Recalls (fun s => ∀ req key, Answered P s (.attemptG1ThroughG5 req key) none →
    DecisionAllows w.db req.decisionId req.mandateId) journal
  orders : ∀ o ∈ w.db.orders, Founded w.db o

namespace Founding

variable {P : Platform} {w : World} {journal : Journal} {index : Nat} {call : Call} {past : Past}
variable {action : Action} {input : Input}

theorem initial (P : Platform) (unsold : Unsold w) : Founding P w [] where
  gates := recalls_nil _
  orders := fun o member => absurd member (unsold.noOrders o)

theorem started (founding : Founding P w journal) (call : Call) :
    Founding P w (journal ++ [(call, [])]) :=
  ⟨founding.gates.started call, founding.orders⟩

theorem stepped (founding : Founding P w journal) (trail : Trail P w journal)
    (settling : Settling P w journal) (apart : SealedApart w.db)
    (found : journal[index]? = some (call, past)) (gated : call.Gated)
    (permitted : May P call past action) :
    Founding P (execute P action input w).2
      (journal.set index (call, ⟨action, input, w⟩ :: past)) := by
  have decisions : ∀ decision ∈ w.db.decisions,
      decision ∈ (execute P action input w).2.db.decisions :=
    execute_keepsDecisions settling.orderly
  have audit := (execute_grows P action input w).audit
  refine ⟨founding.gates.stepped found ?_ ?_, fun o' member' => ?_⟩
  · intro s leaves req key answered
    exact (leaves req key answered).kept decisions
  · rintro req key ⟨rfl, passed⟩
    obtain ⟨now, db', gate⟩ := gatePassed_of_answer passed
    exact (trail.decided apart gate).kept decisions
  · rcases execute_decided P action input w o' member' with
      ⟨o, member, id, decided⟩ | ⟨args, rfl, won, claimed⟩
    · obtain ⟨o'', member'', becomes⟩ := (execute_orders P action input w).forward o member
      obtain rfl : o'' = o' :=
        Database.order_unique_id member'' member' (becomes.same.id.trans id.symm)
      exact (founding.orders o member).kept becomes.same decided decisions audit
    · rcases permitted with direct | ⟨req, orderId, -, -, rfl, s, taken, answered⟩
      · exact absurd direct (gated args)
      · obtain ⟨⟨quote, stored, named⟩, entry, intends, entries⟩ := execute_claimed won
        have allows := founding.gates _ (List.mem_of_getElem? found) s taken req _ answered
        refine ⟨?_, w.db.auditLog.entries.length, entry, ?_, ?_, ?_⟩
        · rw [claimed.decisionId, claimed.mandateId]
          exact allows.kept decisions
        · rw [entries]
          exact List.getElem?_concat_length
        · simpa only [orderTexts, OrderArgs.texts, claimed.id, claimed.mandateId,
            claimed.idempotencyKey] using intends
        · rw [entries, List.take_left', claimed.quoteId, ← named]
          · exact trail.evidenced.quotes quote stored
          · rfl

end Founding

/-! ## Runs -/

theorem run_founding (P : Platform) (w : World) (unsold : Unsold w) (apart : SealedApart w.db)
    (events : List (application P).Event) (gated : AllGated events) :
    Trail P (afterRun P w events).state (afterRun P w events).journal ∧
      Founding P (afterRun P w events).state (afterRun P w events).journal := by
  refine run_gated unsold apart (Founding.initial P unsold) ?_ ?_ events gated
  · exact fun w' journal call founding => founding.started call
  · intro w' journal index call past action input founding trail settling apart' found mine may
    exact founding.stepped trail settling apart' found mine may

/-- The log has such an entry under a number, and it is on the timeline. -/
def Tells (S : Server) (entries : List AuditEntry) (timeline : List TimelineItem) (seq : Nat)
    (action : Audit.AuditAction) (texts : List (Field × String)) : Prop :=
  ∃ entry, entries[seq]? = some entry ∧ entry.Shows action texts ∧
    (entry.row Audit.reread (seq + 1)).item S ∈ timeline

/-- The timeline of an order tells how it came to be paid, and of the log just what names
the order, its mandate or its quote. -/
structure Explains (S : Server) (db : Database) (o : OrderRecord) (timeline : List TimelineItem) :
    Prop where
  logged : ∀ item : TimelineItem, item.seq.isSome = true →
    (item ∈ timeline ↔ ∃ row ∈ Audit.rowsFrom Audit.reread 1 db.auditLog.entries,
      (S.astext row.subject "order_id" = some o.id ∨
        S.astext row.subject "mandate_id" = some o.mandateId ∨
        S.astext row.subject "quote_id" = some o.quoteId) ∧ item = row.item S)
  mandate : Audit.lockedItem S o.mandateId ∈ timeline
  decision : ∃ decision ∈ db.decisions, decision.decisionId = o.decisionId ∧
    decision.mandateId = o.mandateId ∧ decision.verdict = .allow ∧
      Audit.decisionItem decision ∈ timeline
  purchase : ∃ issued proposed reserved intended : Nat,
    issued < intended ∧ proposed < reserved ∧ reserved < intended ∧
      Tells S db.auditLog.entries timeline issued .quoteIssued [(.subject "quote_id", o.quoteId)] ∧
      Tells S db.auditLog.entries timeline proposed .orderProposed
        [(.subject "mandate_id", o.mandateId), (.payload "verdict", "ALLOW")] ∧
      Tells S db.auditLog.entries timeline reserved .budgetReserved
        (reservedTexts o.mandateId o.idempotencyKey) ∧
      Tells S db.auditLog.entries timeline intended .paymentIntent (orderTexts o)

section Explains

variable {S : Server} {db : Database} {o : OrderRecord}

/-- An entry about the order is told. -/
theorem tells_of_shows {place : Nat} {entry : AuditEntry} {action : Audit.AuditAction}
    {texts : List (Field × String)} (found : db.auditLog.entries[place]? = some entry)
    (shows : entry.Shows action texts)
    (named : (.subject "order_id", o.id) ∈ texts ∨ (.subject "mandate_id", o.mandateId) ∈ texts ∨
      (.subject "quote_id", o.quoteId) ∈ texts) :
    Tells S db.auditLog.entries (S.timeline db o) place action texts := by
  refine ⟨entry, found, shows, Audit.mem_timeline.mpr (Audit.item_mem_items found ?_)⟩
  exact named.imp shows.text (Or.imp shows.text shows.text)

theorem exists_before {entries : List AuditEntry} {place : Nat} {action : Audit.AuditAction}
    {texts : List (Field × String)} (shown : Shown (entries.take place) action texts) :
    ∃ earlier < place, ∃ entry, entries[earlier]? = some entry ∧ entry.Shows action texts := by
  obtain ⟨entry, member, shows⟩ := shown
  obtain ⟨earlier, found⟩ := List.mem_iff_getElem?.mp member
  rw [List.getElem?_take] at found
  split at found
  next before => exact ⟨earlier, before, entry, found, shows⟩
  next => cases found

/-- The log of an order whose payment is logged has the reservation and the proposal. -/
theorem purchase_of_intended {entries : List AuditEntry} (grounded : Grounded Caused entries)
    {intended : Nat} {intent : AuditEntry} (found : entries[intended]? = some intent)
    (intends : intent.Shows .paymentIntent (orderTexts o)) :
    ∃ reserved < intended, ∃ proposed < reserved, ∃ reservation proposal,
      entries[reserved]? = some reservation ∧
        reservation.Shows .budgetReserved (reservedTexts o.mandateId o.idempotencyKey) ∧
        entries[proposed]? = some proposal ∧
          proposal.Shows .orderProposed
            [(.subject "mandate_id", o.mandateId), (.payload "verdict", "ALLOW")] := by
  obtain ⟨reservation, member, reserves, shared⟩ :=
    grounded.of_getElem? found _ (by rw [intends.action]; rfl)
  obtain ⟨-, mandate⟩ := shared (.subject "mandate_id", .subject "mandate_id") (by simp)
  obtain ⟨-, key⟩ := shared (.subject "ref_id", .payload "idempotency_key") (by simp)
  have owner : reservation.text? (.subject "mandate_id") = some o.mandateId :=
    mandate.trans (intends.text (by simp [orderTexts]))
  have ref : reservation.text? (.subject "ref_id") = some o.idempotencyKey :=
    key.trans (intends.text (by simp [orderTexts]))
  have reservation_shows :
      reservation.Shows .budgetReserved (reservedTexts o.mandateId o.idempotencyKey) :=
    ⟨reserves.action, List.forall_mem_cons.mpr ⟨owner, List.forall_mem_singleton.mpr ref⟩⟩
  obtain ⟨reserved, before, there, atReserved, same⟩ :=
    exists_before ⟨reservation, member, reservation_shows⟩
  obtain ⟨proposal, member', proposes, shared'⟩ :=
    grounded.of_getElem? atReserved _ (by rw [same.action]; rfl)
  obtain ⟨-, mandate'⟩ := shared' (.subject "mandate_id", .subject "mandate_id") (by simp)
  have owner' : proposal.text? (.subject "mandate_id") = some o.mandateId :=
    mandate'.trans (same.text (by simp [reservedTexts]))
  have proposal_shows : proposal.Shows .orderProposed
      [(.subject "mandate_id", o.mandateId), (.payload "verdict", "ALLOW")] :=
    ⟨proposes.action, List.forall_mem_cons.mpr
      ⟨owner', List.forall_mem_singleton.mpr (proposes.text (by simp))⟩⟩
  obtain ⟨proposed, before', there', atProposed, same'⟩ :=
    exists_before ⟨proposal, member', proposal_shows⟩
  exact ⟨reserved, before, proposed, before', there, there', atReserved, same, atProposed, same'⟩

theorem explains_of_founded (grounded : Grounded Caused db.auditLog.entries)
    (evidenced : Evidenced db) (founded : Founded db o) : Explains S db o (S.timeline db o) := by
  obtain ⟨decision, stored, named, owner, verdict⟩ := founded.decision
  obtain ⟨intended, intent, atIntended, intends, issuedBefore⟩ := founded.quoted
  obtain ⟨issued, issuedFirst, quote, atIssued, issues⟩ := exists_before issuedBefore
  obtain ⟨reserved, reservedFirst, proposed, proposedFirst, reservation, proposal, atReserved,
    reserves, atProposed, proposes⟩ := purchase_of_intended grounded atIntended intends
  refine ⟨fun item numbered => ?_, ?_, ⟨decision, stored, named, owner, verdict, ?_⟩, issued,
    proposed, reserved, intended, issuedFirst, proposedFirst, reservedFirst, ?_, ?_, ?_, ?_⟩
  · exact Audit.mem_timeline_iff numbered
  · obtain ⟨⟨mandate, member, mine, -⟩, -⟩ := evidenced.decisions decision stored verdict
    obtain ⟨row, present, rfl⟩ := List.mem_map.mp member
    have found : db.getMandate o.mandateId = some row :=
      (Table.get?_eq_some_iff (by simp)).mpr ⟨present, mine.trans owner⟩
    exact Audit.mem_timeline.mpr (Audit.lockedItem_mem_items found)
  · exact Audit.mem_timeline.mpr (Audit.decisionItem_mem_items stored named)
  · exact tells_of_shows atIssued issues (.inr (.inr (by simp)))
  · exact tells_of_shows atProposed proposes (.inr (.inl (by simp)))
  · exact tells_of_shows atReserved reserves (.inr (.inl (by simp [reservedTexts])))
  · exact tells_of_shows atIntended intends (.inl (by simp [orderTexts]))

end Explains

/-- In every run of any number of gated calls, crashes included, from an unsold world: every
order can be explained, and its timeline, sorted by timestamps, has its mandate, the
decision that allowed it, its quote, an allowed proposal for its mandate, its reservation
and its payment, and of the log just what names it. While later entries never have earlier
timestamps, the entries of the log are told in the order of the log; and the checkpoint that
is reported reaches the last of them. -/
theorem orders_are_explained (P : Platform) (S : Server) (checkpoints : Anchor.CheckpointTable)
    (w : World) (unsold : Unsold w) (apart : SealedApart w.db)
    (events : List (application P).Event) (gated : AllGated events) {o : OrderRecord}
    (member : o ∈ (afterRun P w events).state.db.orders) :
    ∃ result, S.explainOrder checkpoints (afterRun P w events).state.db o.id = .ok result ∧
      result.terminalStatus = o.status ∧
      Explains S (afterRun P w events).state.db o result.timeline ∧
      result.timeline.Pairwise TimelineItem.Before ∧
      (Monotone S.loggedAt → (result.timeline.filterMap TimelineItem.seq).Pairwise (· < ·)) ∧
      ∀ info, result.anchor = some info → info.checkpointFromSeq ≤ info.checkpointToSeq ∧
        ∀ item ∈ result.timeline, ∀ seq, item.seq = some seq → seq ≤ info.checkpointToSeq := by
  obtain ⟨trail, founding⟩ := run_founding P w unsold apart events gated
  obtain ⟨result, explained, -, status, timeline, anchor⟩ :=
    @Audit.explainOrder_of_mem S checkpoints _ o member
  refine ⟨result, explained, status, ?_, ?_, ?_, ?_⟩
  · rw [timeline]
    exact explains_of_founded trail.grounded trail.evidenced (founding.orders o member)
  · rw [timeline]
    exact Audit.timeline_sorted
  · rw [timeline]
    exact fun steady => Audit.timeline_ascending steady
  · intro info reported
    rw [anchor] at reported
    obtain ⟨last, -, greatest, first, final⟩ := Audit.anchor_covers reported
    refine ⟨first.trans final, fun item there seq numbered => ?_⟩
    rw [timeline] at there
    exact (greatest seq (List.mem_filterMap.mpr ⟨item, there, numbered⟩)).trans final

namespace Fixture

/-- A server whose clock gives the numbers of the log. -/
def server : Server where
  loggedAt seq := seq
  mandateCreatedAt _ := 0
  receivedAt _ := 0
  rendered _ := ""

theorem sold_is_explained : ∃ o result,
    server.explainOrder [] (afterRun platform unsold sold).state.db "ord_1" = .ok result ∧
      Explains server (afterRun platform unsold sold).state.db o result.timeline ∧
      (result.timeline.filterMap TimelineItem.seq).Pairwise (· < ·) := by
  have stored : ((afterRun platform unsold sold).state.db.getOrder "ord_1").isSome = true := by
    decide +kernel
  obtain ⟨o, found⟩ := Option.isSome_iff_exists.mp stored
  obtain ⟨member, named⟩ := Database.getOrder_eq_some.mp found
  obtain ⟨result, explained, -, explains, -, ascending, -⟩ := orders_are_explained platform server
    [] unsold unsold_unsold unsold_apart sold sold_gated member
  rw [named] at explained
  exact ⟨o, result, explained, explains, ascending fun _ _ earlier => earlier⟩

end Fixture

end Actl
