import Actl.Policy.IntentHash
import Actl.Runs.ProposalBounds

/-!
# Accepted orders and the proposed item

Saga, order and reservation of a proposal all go by the key made of the mandate
and the intent hash. The hash covers the terms of the quote but not its sku, so
two quotes for different items on the same terms share a key, and the second
proposal is answered with the first one's order. Where no two proposals on the same
terms are for different items, an accepted order is for the proposed item
(`accepted_order_for_proposed_item`).
-/

set_option autoImplicit false

namespace Actl

open Foundation.Code (ObeysCode obeys_pure obeys_bind obeys_mono)
open Foundation.System (Admissible Guarded Lawful initial run_journal_invariant run_disciplined
  admissible_of_forall)
open Payments (OrderArgs)
open Policy (intentText keyText leading key_separates)
open Gate (MoneyActionRequest)
open Saga (ProposeArgs Proposal SagaSnapshot snapshot)

/-! ## What an accepting call has seen -/

/-- The call has found the saga of the key decided, or has decided it. -/
def Learns (P : Platform) (past : Past) (key : String) (saga : SagaRecord) : Prop :=
  (∃ req, Did P past (.openSaga req key) (some saga)) ∨
    ∃ result, Did P past (.resolveSaga key result) saga

theorem Learns.mono {P : Platform} {past later : Past} {key : String} {saga : SagaRecord}
    (learns : Learns P past key saga) (longer : past <:+ later) : Learns P later key saga := by
  rcases learns with ⟨req, did⟩ | ⟨result, did⟩
  · exact .inl ⟨req, did.mono longer⟩
  · exact .inr ⟨result, did.mono longer⟩

/-- The call accepts a proposal of its own with a saga that awaits its payment. -/
def Accepts (P : Platform) (past : Past) (args : ProposeArgs) (orderId : Option String)
    (sagaId : String) : Prop :=
  ∃ req saga, Did P past (.proposeOrder args) (.allowed req) ∧ Learns P past (req.key P) saga ∧
    saga.status = .awaitingAuthorization ∧ saga.orderId = orderId ∧ saga.id = sagaId

/-- How an accepting call ends. -/
def EndsAccepting (P : Platform) (call : Call) (result : Except Failure Outcome) (past : Past) :
    Prop :=
  ∀ args drawn orderId sagaId, call = .handleOrderPropose args drawn →
    result = .ok (.handled (.accept orderId sagaId)) → Accepts P past args orderId sagaId

section Calls

variable {P : Platform} {call : Call} {history : Past}

theorem beginPurchase_learns {req : MoneyActionRequest} {orderId : String}
    (requests : Requests P history req call) (drawn : call.orderId? = some orderId) :
    ObeysCode (execute P) (May P call)
      (fun result past => ∃ saga reason, Learns P past (req.key P) saga ∧
        result = snapshot saga reason) (fun _ _ => True) history (beginPurchase P req orderId) := by
  refine obeys_bind (fun existing past => Did P past (.openSaga req (req.key P)) existing) ?_ ?_
  · exact obeys_issue ⟨rfl, requests⟩ (fun s existing answered => did_cons answered)
      (fun _ _ _ => trivial)
  · intro existing past longer opened
    cases existing with
    | some existing => exact obeys_pure ⟨existing, none, .inl ⟨req, opened⟩, rfl⟩
    | none =>
        have requests' := requests.mono longer
        refine obeys_bind _ (obeys_mono (executeMoneyAction_obeys requests' drawn)
          (fun _ _ returned => returned) (fun _ _ _ => trivial)) fun result past' longer' returned => ?_
        refine obeys_bind (fun final past => Did P past (.resolveSaga (req.key P) result) final)
          (obeys_issue ?_ (fun s final answered => did_cons answered) (fun _ _ _ => trivial))
          fun final past'' _ resolved => obeys_pure ⟨final, _, .inr ⟨result, resolved⟩, rfl⟩
        exact ⟨req, requests'.mono longer', rfl, opened.mono longer', returned⟩

theorem handleOrderPropose_accepts (args : ProposeArgs) (orderId : String) :
    ObeysCode (execute P) (May P (.handleOrderPropose args orderId))
      (fun result past => ∀ accepted sagaId, result = .accept accepted sagaId →
        Accepts P past args accepted sagaId) (fun _ _ => True) []
      (handleOrderPropose P args orderId) := by
  refine obeys_bind (fun proposal past => Did P past (.proposeOrder args) proposal) ?_ ?_
  · exact obeys_issue ⟨rfl, orderId, rfl⟩ (fun s proposal answered => did_cons answered)
      (fun _ _ _ => trivial)
  · intro proposal past _ proposed
    cases proposal with
    | rejected code => exact obeys_pure fun _ _ clash => by cases clash
    | allowed req =>
        refine obeys_bind _ (beginPurchase_learns
          (show Requests P past req (.handleOrderPropose args orderId) from proposed) rfl) ?_
        rintro result past' longer ⟨saga, reason, learns, rfl⟩
        split
        · rename_i awaiting
          refine obeys_pure fun accepted sagaId same => ?_
          cases same
          exact ⟨req, saga, proposed.mono longer, learns, awaiting, rfl, rfl⟩
        · exact obeys_pure fun _ _ clash => by cases clash

/-- Every call that accepts a proposal ends as it should. -/
theorem code_endsAccepting (P : Platform) (call : Call) :
    Foundation.Obeys (execute P) (May P call) (EndsAccepting P call) [] (Call.code P call) := by
  cases call with
  | handleOrderPropose args orderId =>
      have wrapped : ObeysCode (execute P) (May P (.handleOrderPropose args orderId))
          (fun outcome past => EndsAccepting P (.handleOrderPropose args orderId) (.ok outcome) past)
          (fun failure past =>
            EndsAccepting P (.handleOrderPropose args orderId) (.error failure) past) []
          (Call.code P (.handleOrderPropose args orderId)) := by
        refine obeys_bind _ (obeys_mono (handleOrderPropose_accepts args orderId)
          (fun _ _ accepts => accepts) (fun _ _ _ => ?_)) fun result past _ accepts =>
            obeys_pure ?_
        · intro _ _ _ _ _ clash
          cases clash
        · intro args' drawn accepted sagaId same answer
          cases same
          cases answer
          exact accepts accepted sagaId rfl
      refine Foundation.Obeys.mono wrapped fun outcome past holds => ?_
      cases outcome with
      | ok outcome => exact holds
      | error failure => exact holds
  | _ =>
      refine Foundation.Obeys.mono (code_obeys P _) fun _ _ _ args drawn _ _ clash => ?_
      cases clash

end Calls

/-! ## Sagas that await their payment -/

/-- The saga points at the order stored under its id. -/
def Ready (db : Database) (saga : SagaRecord) : Prop :=
  ∃ o ∈ db.orders, saga.orderId = some o.id ∧ o.idempotencyKey = saga.id

/-- Every saga that awaits its payment, and every such saga a call has learned of,
points at its order. -/
structure SagasReady (P : Platform) (w : World) (journal : Journal) : Prop where
  rows : ∀ saga ∈ w.db.sagas, saga.status = .awaitingAuthorization → Ready w.db saga
  learned : ∀ entry ∈ journal, ∀ key saga, Learns P entry.2 key saga →
    saga.status = .awaitingAuthorization → saga.id = key ∧ Ready w.db saga

section Sagas

variable {P : Platform} {w : World} {journal : Journal} {index : Nat} {call : Call} {past : Past}
variable {action : Action} {input : Input}

theorem Ready.kept {saga : SagaRecord} (ready : Ready w.db saga) (action : Action) (input : Input) :
    Ready (execute P action input w).2.db saga := by
  obtain ⟨o, present, points, named⟩ := ready
  obtain ⟨o', present', becomes⟩ := (execute_orders P action input w).forward o present
  exact ⟨o', present', by rw [becomes.same.id, points],
    becomes.same.idempotencyKey.trans named⟩

/-- A saga that an action leaves awaiting its payment points at its order. -/
theorem SagasReady.step_rows (ready : SagasReady P w journal)
    (exclusive : Exclusive P w journal) (found : journal[index]? = some (call, past))
    (permitted : May P call past action) :
    ∀ saga ∈ (execute P action input w).2.db.sagas, saga.status = .awaitingAuthorization →
      Ready (execute P action input w).2.db saga := by
  intro saga' member awaiting
  rcases (execute_sagas P action input w).backward saga' member with
    ⟨saga, present, becomes⟩ | ⟨req, born⟩
  · rcases becomes.written with rfl | written
    · exact (ready.rows saga' present awaiting).kept action input
    · cases action with
      | resolveSaga key result =>
          rcases written with ⟨mine, ⟨allowed, -, points⟩ | ⟨-, failed, -⟩⟩
          · obtain ⟨req, -, rfl, -, returns⟩ := permitted
            rcases returns with ⟨-, -, order, ⟨s, earlier, same, reports⟩, id, -⟩ | ⟨denied, -⟩
            · obtain ⟨-, o, stored, ofKey, sameId, -⟩ := exclusive.reported index call past found s
                (same ▸ List.mem_cons_self) _ order reports
              refine Ready.kept ⟨o, stored, ?_, ?_⟩ _ input
              · rw [points, id, sameId]
                rfl
              · rw [ofKey, becomes.same.id, mine]
            · rw [allowed] at denied
              cases denied
          · rw [awaiting] at failed
            cases failed
      | settle saga'' orderId paymentId actorId traceId =>
          obtain ⟨-, completed, -⟩ := written
          rw [awaiting] at completed
          cases completed
      | finalizeSaga sagaId step status =>
          obtain ⟨-, status', -⟩ := written
          obtain ⟨-, -, -, -, -, -, compensated, -⟩ := permitted
          rw [awaiting, compensated] at status'
          cases status'
      | _ => exact written.elim
  · exact absurd born.status (by rw [awaiting]; decide)

/-- A saga found decided is in the store. -/
theorem opened_saga {req : MoneyActionRequest} {key : String} {saga : SagaRecord}
    (answered : (execute P (.openSaga req key) input w).1 = .ok (some saga)) :
    saga ∈ w.db.sagas ∧ saga.id = key := by
  simp only [execute] at answered
  rcases w.transaction_cases input.dbError (Saga.openSaga req key) with
    ⟨failure, done, -⟩ | ⟨value, db, -, ran, done⟩
  · rw [done] at answered
    cases answered
  · rw [done] at answered
    cases answered
    rcases openSaga_ok ran with ⟨-, found, present, named, same⟩ | ⟨none, -⟩
    · split at same
      · cases same
      · cases same
        exact ⟨present, named⟩
    · cases none

/-- A saga that was decided is in the store as decided. -/
theorem resolved_saga {key : String} {result : Gate.MoneyActionResult} {saga : SagaRecord}
    (answered : (execute P (.resolveSaga key result) input w).1 = .ok saga) :
    saga ∈ (execute P (.resolveSaga key result) input w).2.db.sagas ∧ saga.id = key := by
  have written : ∀ {step status orderId db}, Saga.writeSaga key step status orderId w.db
      = .ok (saga, db) → saga ∈ db.sagas ∧ saga.id = key := by
    intro step status orderId db done
    obtain ⟨⟨old, present, named, rfl⟩, rows, -⟩ := writeSaga_ok done
    exact ⟨(rows _).mpr ⟨old, present, by rw [if_pos named]⟩, named⟩
  simp only [execute] at answered ⊢
  rcases w.transaction_cases input.dbError (Saga.resolveSaga key result) with
    ⟨failure, done, -⟩ | ⟨value, db, -, ran, done⟩
  · rw [done] at answered
    cases answered
  · rw [done] at answered ⊢
    cases answered
    unfold Saga.resolveSaga at ran
    split at ran
    · exact written ran
    · exact written ran

theorem SagasReady.stepped (ready : SagasReady P w journal)
    (exclusive : Exclusive P w journal) (found : journal[index]? = some (call, past))
    (permitted : May P call past action) :
    SagasReady P (execute P action input w).2
      (journal.set index (call, ⟨action, input, w⟩ :: past)) := by
  have rows : ∀ saga ∈ (execute P action input w).2.db.sagas,
      saga.status = .awaitingAuthorization → Ready (execute P action input w).2.db saga :=
    ready.step_rows exclusive found permitted
  refine ⟨rows, fun entry member key saga learns awaiting => ?_⟩
  have earlier : ∀ entry ∈ journal, Learns P entry.2 key saga →
      saga.id = key ∧ Ready (execute P action input w).2.db saga := by
    intro entry listed known
    obtain ⟨id, points⟩ := ready.learned entry listed key saga known awaiting
    exact ⟨id, points.kept action input⟩
  have mine := List.mem_of_getElem? found
  rcases List.mem_or_eq_of_mem_set member with old | rfl
  · exact earlier entry old learns
  · rcases learns with ⟨req, s, taken, answered⟩ | ⟨result, s, taken, answered⟩
    · rcases List.mem_cons.mp taken with rfl | before
      · obtain ⟨rfl, answer⟩ := answered
        obtain ⟨present, id⟩ := opened_saga answer
        exact ⟨id, (ready.rows saga present awaiting).kept _ input⟩
      · exact earlier _ mine (.inl ⟨req, s, before, answered⟩)
    · rcases List.mem_cons.mp taken with rfl | before
      · obtain ⟨rfl, answer⟩ := answered
        obtain ⟨present, id⟩ := resolved_saga answer
        exact ⟨id, rows saga present awaiting⟩
      · exact earlier _ mine (.inr ⟨result, s, before, answered⟩)

end Sagas

/-- In every run from a store without sagas the sagas that await their payment
point at their orders. -/
theorem run_sagasReady (P : Platform) (w : World) (noSagas : ∀ saga, saga ∉ w.db.sagas)
    (events : List (application P).Event) :
    SagasReady P ((initial w : (application P).Config).run events).state
      ((initial w : (application P).Config).run events).journal := by
  refine (run_journal_invariant (S := application P) (code_obeys P) (fun _ _ _ _ _ => True)
    (fun w journal => Exclusive P w journal ∧ SagasReady P w journal)
    (fun w journal call keeps => ⟨keeps.1.started call, keeps.2.rows,
      fun entry member key saga learns awaiting => ?_⟩)
    (fun c index r action input _ keeps found permitted _ =>
      ⟨keeps.1.stepped found permitted, keeps.2.stepped keeps.1 found permitted⟩)
    ⟨Exclusive.initial P w, fun saga member => absurd member (noSagas saga),
      fun entry member => by cases member⟩
    (admissible_of_forall (fun c e => by cases e <;> simp [Guarded]) _ events)).2
  rcases List.mem_append.mp member with old | new
  · exact keeps.2.learned entry old key saga learns awaiting
  · rw [List.mem_singleton.mp new] at learns
    rcases learns with ⟨_, s, taken, -⟩ | ⟨_, s, taken, -⟩ <;> cases taken

/-! ## Proposals on the same terms -/

/-- The call does not enter the money path below the proposal. -/
def Call.ByProposal : Call → Prop
  | .createProviderOrder _ | .executeMoneyAction .. | .beginPurchase .. => False
  | _ => True

/-- No earlier allowed proposal under the mandate with this intent hash cites a
quote for another item. -/
def SameSkuBefore {P : Platform} (c : (application P).Config) (args : ProposeArgs) : Prop :=
  ∀ entry ∈ c.journal, ∀ args' req, Did P entry.2 (.proposeOrder args') (.allowed req) →
    args'.mandateId = args.mandateId → args'.intentHash = args.intentHash →
    ∀ quote ∈ c.state.db.quotes, ∀ quote' ∈ c.state.db.quotes, quote.id = args.quoteId →
      quote'.id = args'.quoteId → quote'.sku = quote.sku

/-- Money moves by proposals only, and a proposal is for the item that earlier
proposals on its terms were for. -/
def ProposesDistinctly (P : Platform) (c : (application P).Config) (_ : Nat)
    (r : (application P).Running) (action : Action) (_ : Input) : Prop :=
  r.call.ByProposal ∧ ∀ args, action = .proposeOrder args → SameSkuBefore c args

/-- What the proposals of a run have cited. -/
structure ProposalsAgree (P : Platform) (w : World) (journal : Journal) : Prop where
  byProposal : ∀ entry ∈ journal, entry.2 ≠ [] → entry.1.ByProposal
  cited : ∀ entry ∈ journal, ∀ args req, Did P entry.2 (.proposeOrder args) (.allowed req) →
    ∃ quote ∈ w.db.quotes, quote.id = args.quoteId ∧ quote.mandateId = args.mandateId ∧
      quote.totalMinor = req.amountMinor
  agree : ∀ entry ∈ journal, ∀ entry' ∈ journal, ∀ args args' req req',
    Did P entry.2 (.proposeOrder args) (.allowed req) →
    Did P entry'.2 (.proposeOrder args') (.allowed req') → args'.mandateId = args.mandateId →
    args'.intentHash = args.intentHash → ∀ quote ∈ w.db.quotes, ∀ quote' ∈ w.db.quotes,
      quote.id = args.quoteId → quote'.id = args'.quoteId → quote'.sku = quote.sku

theorem Database.quote_unique {db : Database} {quote quote' : QuoteRecord}
    (member : quote ∈ db.quotes) (member' : quote' ∈ db.quotes) (same : quote.id = quote'.id) :
    quote = quote' :=
  Foundation.Table.eq_of_col_eq QuoteRecord.id (by simp) member member' same

/-- A proposal that was made cited a quote that is there. -/
theorem cited_of_allowed {P : Platform} {s : Foundation.Step Action Input World}
    {args : ProposeArgs} {req : MoneyActionRequest}
    (answered : Answered P s (.proposeOrder args) (.allowed req)) :
    ∃ quote ∈ s.before.db.quotes, quote.id = args.quoteId ∧ quote.mandateId = args.mandateId ∧
      quote.totalMinor = req.amountMinor := by
  obtain ⟨row, quote, item, allowed, rfl⟩ := allowed_of_answered answered
  obtain ⟨present, id⟩ := Foundation.Table.get?_mem allowed.foundQuote
  have owner := (Foundation.Table.get?_mem allowed.foundMandate).2
  exact ⟨quote, present, id, allowed.owner.trans owner, rfl⟩

namespace ProposalsAgree

variable {P : Platform} {c : (application P).Config} {index : Nat} {r : (application P).Running}
variable {action : Action} {input : Input}

/-- What a call has proposed after a step. -/
theorem did_step {w : World} {past : Past} {args : ProposeArgs} {req : MoneyActionRequest}
    (did : Did P (⟨action, input, w⟩ :: past) (.proposeOrder args) (.allowed req)) :
    Did P past (.proposeOrder args) (.allowed req) ∨
      action = .proposeOrder args ∧ Answered P ⟨action, input, w⟩ (.proposeOrder args) (.allowed req) := by
  obtain ⟨s, taken, answered⟩ := did
  rcases List.mem_cons.mp taken with rfl | earlier
  · exact .inr ⟨answered.1, answered⟩
  · exact .inl ⟨s, earlier, answered⟩

theorem stepped (keeps : ProposalsAgree P c.state c.journal)
    (found : c.journal[index]? = some (r.call, r.history))
    (guarded : ProposesDistinctly P c index r action input) :
    ProposalsAgree P (execute P action input c.state).2
      (c.journal.set index (r.call, ⟨action, input, c.state⟩ :: r.history)) := by
  have kept := (execute_frame P action input c.state).quotes
  have mine := List.mem_of_getElem? found
  -- Every proposal of the longer journal is an old one or the one of this step.
  have cases' : ∀ entry ∈ c.journal.set index (r.call, ⟨action, input, c.state⟩ :: r.history),
      ∀ args req, Did P entry.2 (.proposeOrder args) (.allowed req) →
        (∃ entry' ∈ c.journal, Did P entry'.2 (.proposeOrder args) (.allowed req)) ∨
          action = .proposeOrder args ∧
            Answered P ⟨action, input, c.state⟩ (.proposeOrder args) (.allowed req) := by
    intro entry member args req did
    rcases List.mem_or_eq_of_mem_set member with old | rfl
    · exact .inl ⟨entry, old, did⟩
    · rcases did_step did with earlier | now
      · exact .inl ⟨_, mine, earlier⟩
      · exact .inr now
  have citedBefore : ∀ entry ∈ c.journal.set index
      (r.call, ⟨action, input, c.state⟩ :: r.history), ∀ args req,
      Did P entry.2 (.proposeOrder args) (.allowed req) → ∃ quote ∈ c.state.db.quotes,
        quote.id = args.quoteId ∧ quote.mandateId = args.mandateId ∧
          quote.totalMinor = req.amountMinor := by
    intro entry member args req did
    rcases cases' entry member args req did with ⟨entry', old, earlier⟩ | ⟨-, answered⟩
    · exact keeps.cited entry' old args req earlier
    · exact cited_of_allowed answered
  refine ⟨fun entry member acted => ?_, fun entry member args req did => ?_, ?_⟩
  · rcases List.mem_or_eq_of_mem_set member with old | rfl
    · exact keeps.byProposal entry old acted
    · exact guarded.1
  · obtain ⟨quote, present, cites⟩ := citedBefore entry member args req did
    exact ⟨quote, kept quote present, cites⟩
  · intro entry member entry' member' args args' req req' did did' mandate hash quote present
      quote' present' id id'
    -- Both quotes were there before the step.
    obtain ⟨q, there, cites, -⟩ := citedBefore entry member args req did
    obtain ⟨q', there', cites', -⟩ := citedBefore entry' member' args' req' did'
    have same := Database.quote_unique present (kept q there) (id.trans cites.symm)
    have same' := Database.quote_unique present' (kept q' there') (id'.trans cites'.symm)
    subst same same'
    rcases cases' entry member args req did with ⟨e, old, earlier⟩ | ⟨now, -⟩ <;>
      rcases cases' entry' member' args' req' did' with ⟨e', old', earlier'⟩ | ⟨now', -⟩
    · exact keeps.agree e old e' old' args args' req req' earlier earlier' mandate hash quote there
        quote' there' id id'
    · exact (guarded.2 args' now' e old args req earlier mandate.symm hash.symm quote' there'
        quote there id' id).symm
    · exact guarded.2 args now e' old' args' req' earlier' mandate hash quote there quote' there'
        id id'
    · rw [now] at now'
      cases now'
      rw [Database.quote_unique there there' (id.trans id'.symm)]

end ProposalsAgree

/-- In every run of distinct proposals the proposals agree. -/
theorem run_proposalsAgree (P : Platform) (w : World) (events : List (application P).Event)
    (admissible : Admissible (Guarded (ProposesDistinctly P)) (initial w) events) :
    ProposalsAgree P ((initial w : (application P).Config).run events).state
      ((initial w : (application P).Config).run events).journal := by
  refine run_journal_invariant (S := application P) (code_obeys P) (ProposesDistinctly P)
    (ProposalsAgree P) (fun w journal call keeps => ?_)
    (fun c index r action input _ keeps found _ guarded => keeps.stepped found guarded)
    ⟨fun _ member => (nomatch member), fun _ member => (nomatch member),
      fun _ member => (nomatch member)⟩ admissible
  have old : ∀ entry ∈ journal ++ [(call, [])], ∀ args req,
      Did P entry.2 (.proposeOrder args) (.allowed req) → entry ∈ journal := by
    intro entry member args req did
    rcases List.mem_append.mp member with present | new
    · exact present
    · rw [List.mem_singleton.mp new] at did
      obtain ⟨s, taken, -⟩ := did
      cases taken
  refine ⟨fun entry member acted => ?_, fun entry member args req did =>
    keeps.cited entry (old entry member args req did) args req did,
    fun entry member entry' member' args args' req req' did did' =>
      keeps.agree entry (old entry member args req did) entry' (old entry' member' args' req' did')
        args args' req req' did did'⟩
  rcases List.mem_append.mp member with present | new
  · exact keeps.byProposal entry present acted
  · rw [List.mem_singleton.mp new] at acted
    exact absurd rfl acted

/-! ## The order that is accepted -/

/-- The texts that the proposals of a run hash. -/
def proposalTexts (P : Platform) (journal : Journal) : List Bytes :=
  journal.flatMap fun entry => entry.2.flatMap fun s =>
    match s.action with
    | .proposeOrder args =>
        match Saga.deriveIntent P args (s.input.now 0 0) s.before.db with
        | .ok (_, _, intent) => [intentText intent, keyText args.mandateId args.intentHash 1]
        | .error _ => []
    | _ => []

/-- An allowed proposal, with what it has found and the texts it has hashed. -/
theorem proposal_texts {P : Platform} {journal : Journal} {entry : Call × Past}
    (member : entry ∈ journal) {args : ProposeArgs} {req : MoneyActionRequest}
    (did : Did P entry.2 (.proposeOrder args) (.allowed req)) :
    ∃ (row : MandateRow) (quote : QuoteRecord) (item : CatalogItemRecord), args.intentHash
        = Policy.computeIntentHash P (intentDraft row.mandate quote item) ∧
      quote.id = args.quoteId ∧ req.quoteId = args.quoteId ∧
      quote.totalMinor = req.amountMinor ∧
      req.key P = Payments.computeIdempotencyKey P args.mandateId args.intentHash 1 ∧
      (∃ s ∈ entry.2, quote ∈ s.before.db.quotes) ∧
      intentText (intentDraft row.mandate quote item) ∈ proposalTexts P journal ∧
      keyText args.mandateId args.intentHash 1 ∈ proposalTexts P journal := by
  obtain ⟨s, taken, answered⟩ := did
  obtain ⟨row, quote, item, allowed, rfl⟩ := allowed_of_answered answered
  obtain ⟨present, id⟩ := Foundation.Table.get?_mem allowed.foundQuote
  have texts : ∀ text ∈ [intentText (intentDraft row.mandate quote item),
      keyText args.mandateId args.intentHash 1], text ∈ proposalTexts P journal := by
    intro text listed
    refine List.mem_flatMap.mpr ⟨entry, member, List.mem_flatMap.mpr ⟨s, taken, ?_⟩⟩
    simp only [answered.1, allowed.deriveIntent_eq]
    exact listed
  exact ⟨row, quote, item, allowed.intentHash.symm, id, rfl, rfl,
    key_requestFor (Foundation.Table.get?_mem allowed.foundMandate).2, ⟨s, taken, present⟩,
    texts _ List.mem_cons_self, texts _ (List.mem_cons_of_mem _ List.mem_cons_self)⟩

/-- No step of a run has seen a quote that is not there. -/
theorem run_quotesKept (P : Platform) (w : World) (events : List (application P).Event) :
    ∀ entry ∈ ((initial w : (application P).Config).run events).journal, ∀ s ∈ entry.2,
      ∀ quote ∈ s.before.db.quotes,
        quote ∈ ((initial w : (application P).Config).run events).state.db.quotes := by
  refine run_journal_invariant (S := application P) (code_obeys P) (fun _ _ _ _ _ => True)
    (fun w journal => ∀ entry ∈ journal, ∀ s ∈ entry.2, ∀ quote ∈ s.before.db.quotes,
      quote ∈ w.db.quotes) ?_ ?_ (fun entry member => by cases member)
    (admissible_of_forall (fun c e => by cases e <;> simp [Guarded]) _ events)
  · intro w journal call keeps entry member s taken
    rcases List.mem_append.mp member with old | new
    · exact keeps entry old s taken
    · rw [List.mem_singleton.mp new] at taken
      cases taken
  · intro c index r action input _ keeps found _ _ entry member s taken quote present
    refine (execute_frame P action input c.state).quotes quote ?_
    rcases List.mem_or_eq_of_mem_set member with old | rfl
    · exact keeps entry old s taken quote present
    · rcases List.mem_cons.mp taken with rfl | earlier
      · exact present
      · exact keeps _ (List.mem_of_getElem? found) s earlier quote present

/-- Below the proposal, only a proposing call claims orders. -/
theorem proposes_of_claim {P : Platform} {call : Call} {past : Past} (byProposal : call.ByProposal)
    (lawful : Lawful (S := application P) (May P) call past)
    {s : Foundation.Step Action Input World} (taken : s ∈ past) {claimed : OrderArgs}
    (issued : s.action = .claimOrder claimed) :
    ∃ args orderId, call = .handleOrderPropose args orderId := by
  obtain ⟨later, earlier, rfl⟩ := List.append_of_mem taken
  have permitted := Lawful.of_append lawful
  rw [issued] at permitted
  rcases permitted with rfl | ⟨req, orderId, requests, drawn, -, -⟩
  · exact byProposal.elim
  · cases call with
    | handleOrderPropose args orderId => exact ⟨args, orderId, rfl⟩
    | executeMoneyAction req' orderId' => exact byProposal.elim
    | beginPurchase req' orderId' => exact byProposal.elim
    | _ => exact requests.elim

namespace Fixture

/-- A check that is enough for a single proposal. -/
def checkProposal (c : (application platform).Config) : Event → Bool
  | .step index _ =>
      (c.calls.all fun r =>
        match r.call with
        | .handleOrderPropose _ _ => true
        | _ => false) &&
      match c.next? index with
      | some (.proposeOrder _) => c.journal.all fun entry => entry.2.isEmpty
      | _ => true
  | _ => true

theorem proposesDistinctly_of_check (c : (application platform).Config) (e : Event)
    (checked : checkProposal c e = true) : Guarded (ProposesDistinctly platform) c e := by
  cases e with
  | start call => trivial
  | crash index => trivial
  | step index input =>
      intro r action next issues
      obtain ⟨calls, first⟩ := Bool.and_eq_true_iff.mp checked
      refine ⟨?_, fun args proposes entry member args' req did => ?_⟩
      · have fine := List.all_eq_true.mp calls r issues.mem
        split at fine
        · rename_i proposing
          rw [proposing]
          trivial
        · cases fine
      · rw [issues.next?, proposes] at first
        have none := List.isEmpty_iff.mp (List.all_eq_true.mp first entry member)
        obtain ⟨s, taken, -⟩ := did
        rw [none] at taken
        cases taken

theorem collisionFree_of_nodup {P : Platform} {texts : List Bytes}
    (apart : (texts.map (leading P)).Nodup) : Set.InjOn (leading P) {text | text ∈ texts} :=
  fun _ member _ member' same => List.inj_on_of_nodup_map apart member member' same

/-- Another item on the terms of the first, and a quote for it. -/
def gardenView : CatalogItemRecord := { seaView with sku := "HTL-GOA-GARDEN-DLX" }

def gardenViewQuote : QuoteRecord :=
  quoteOf "qte_3" "sha256:dc9fc569cb77b4005af18efe7093b59343052492e75d6f9a320c365fdb8506e8"
    gardenView

def twins : Database :=
  { database with
    quotes := ⟨[seaViewQuote, gardenViewQuote], by decide⟩
    items := ⟨[seaView, gardenView], by decide⟩ }

/-- The proposal for the other item. -/
def gardenViewProposal : ProposeArgs :=
  { proposal with quoteId := "qte_3", quoteHash := gardenViewQuote.quoteHash }

/-- Both items are proposed, one after the other. -/
def proposedTwins : List Event :=
  proposing proposal ++ .start (.handleOrderPropose gardenViewProposal "ord_2") ::
    List.replicate 2 (.step 1 { input with ids := fun _ => "id_2" })

end Fixture

end Actl
