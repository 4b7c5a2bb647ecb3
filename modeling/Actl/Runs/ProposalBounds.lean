import Actl.Runs.Proposals

/-!
# Accepted orders and the mandate's bounds

An order that a proposal leads to is within the bounds of its mandate in all but
two respects. The rule on the currency compares the mandate's currency with
itself, so the order has the quote's currency whatever the mandate says; and the
rule on refunds looks at what the quote has pinned, not at the item. The order is
within all the bounds exactly when these two agree
(`created_order_respects_bounds_iff`).
-/

set_option autoImplicit false

namespace Actl

open Foundation (bind_eq_ok)
open Foundation.System (initial run_disciplined)
open Mandates (Mandate verifySpecHash verifySignature)
open Payments (OrderArgs)
open Gate (MoneyActionRequest)
open Saga (ProposeArgs)

/-- The mandate carries its own hash and a signature over it. -/
def Sealed (P : Platform) (mandate : Mandate) : Prop :=
  verifySpecHash P mandate = true ∧ ∃ specHash signature, mandate.specHash = some specHash ∧
    mandate.signature = some signature ∧
      verifySignature P specHash P.settings.mandateSigningKey signature.value = true

/-- What a mandate asks of an order in the given currency for the quoted item, at
the given time. -/
structure RespectsBounds (P : Platform) (mandate : Mandate) (quote : QuoteRecord)
    (item : CatalogItemRecord) (currency : String) (now : Time) : Prop where
  currency : currency = mandate.bounds.currency
  category : item.category ∈ mandate.bounds.allowedCategories
  merchant : item.merchantId ∉ mandate.bounds.blockedMerchants
  unit : quote.unitPriceMinor ≤ mandate.bounds.maxUnitMinor
  refundable : mandate.bounds.requireRefundable = true → item.refundable = true
  nights : quote.nights = mandate.intent.nights
  sealing : Sealed P mandate
  started : mandate.temporal.notBefore ≤ now
  unexpired : now < mandate.temporal.expiresAt

/-- G1 lets only a sealed mandate through. -/
theorem g1_sealed {P : Platform} {req : MoneyActionRequest} {now : Time} {db : Database}
    {row : MandateRow} (passed : Gate.g1 P req now db = .ok row) :
    db.getMandate req.mandateId = some row ∧ Sealed P row.mandate := by
  unfold Gate.g1 at passed
  split at passed
  · cases passed
  · rename_i row' found
    obtain ⟨_, -, rest⟩ := bind_eq_ok.mp passed
    obtain ⟨_, -, rest⟩ := bind_eq_ok.mp rest
    obtain ⟨_, unaltered, rest⟩ := bind_eq_ok.mp rest
    split at rest
    · rename_i specHash signature hashed signed
      obtain ⟨_, verified, rest⟩ := bind_eq_ok.mp rest
      obtain ⟨_, -, rest⟩ := bind_eq_ok.mp rest
      cases rest
      exact ⟨found, check_ok unaltered, specHash, signature, hashed, signed, check_ok verified⟩
    · cases rest

/-- A call that has passed the gate has seen a sealed mandate. -/
theorem passedGate_sealed {P : Platform} {past : Past} {req : MoneyActionRequest}
    (passed : PassedGate P past req) :
    ∃ s ∈ past, ∃ row, s.before.db.getMandate req.mandateId = some row ∧ Sealed P row.mandate := by
  obtain ⟨s, taken, -, answered⟩ := passed
  refine ⟨s, taken, ?_⟩
  simp only [execute] at answered
  rcases s.before.transaction_cases s.input.dbError
    (Gate.attemptG1ThroughG5 P req (req.key P) (s.input.now 0)) with
    ⟨failure, done, -⟩ | ⟨value, db, -, ran, done⟩
  · rw [done] at answered
    cases answered
  · rw [done] at answered
    cases answered
    unfold Gate.attemptG1ThroughG5 at ran
    split at ran
    · rename_i gate
      obtain ⟨row, one, -⟩ := bind_eq_ok.mp gate
      exact ⟨row, g1_sealed one⟩
    · cases ran
    · cases ran

/-- In every run of any number of calls: an order that a proposal leads to is
within all the bounds of its mandate exactly when the quote's currency is the
mandate's and, where the mandate asks for refunds, the item is still as refundable as
its quote says. -/
theorem created_order_respects_bounds_iff (P : Platform) (w : World)
    (events : List (application P).Event) (r : (application P).Running)
    (made : r ∈ ((initial w : (application P).Config).run events).calls) (args : ProposeArgs)
    (orderId : String) (proposes : r.call = .handleOrderPropose args orderId)
    (s : Foundation.Step Action Input World) (taken : s ∈ r.history) (claimed : OrderArgs)
    (won : Answered P s (.claimOrder claimed) true) :
    ∃ proposal ∈ r.history, ∃ row quote item o,
      proposal.action = .proposeOrder args ∧
      proposal.before.db.getMandate args.mandateId = some row ∧
      proposal.before.db.quotes.get? QuoteRecord.id args.quoteId = some quote ∧
      proposal.before.db.items.get? CatalogItemRecord.sku quote.sku = some item ∧
      o ∈ ((initial w : (application P).Config).run events).state.db.orders ∧
      o.id = orderId ∧ o.quoteId = args.quoteId ∧ o.mandateId = args.mandateId ∧
      (RespectsBounds P row.mandate quote item o.currency (proposal.input.now 0 1) ↔
        quote.currency = row.mandate.bounds.currency ∧
          (row.mandate.bounds.requireRefundable = true → item.refundable = quote.refundable)) := by
  have lawful := (run_disciplined (code_obeys P) w events r made).lawful
  have listed : (r.call, r.history)
      ∈ ((initial w : (application P).Config).run events).journal :=
    Foundation.System.Config.mem_journal.mpr ⟨r, made, rfl, rfl⟩
  obtain ⟨req, proposed, rfl, passed⟩ := claim_of_proposal proposes lawful taken won.1
  obtain ⟨proposal, step, answered⟩ := proposed
  obtain ⟨row, quote, item, allowed, rfl⟩ := allowed_of_answered answered
  obtain ⟨o, present, order⟩ := run_claimsPlaced P w events _ listed _ ⟨s, taken, won⟩
  have owner : row.id = args.mandateId := (Foundation.Table.get?_mem allowed.foundMandate).2
  -- The mandate the gate has seen is the one the proposal has seen.
  have sealed : Sealed P row.mandate := by
    have same := run_sameMandates P w events _ listed
    obtain ⟨gate, earlier, row', found, sealed⟩ := passedGate_sealed passed
    obtain ⟨row'', there, mandate⟩ := getMandate_of_locked
      ((same gate earlier).symm.trans (same proposal step)) allowed.foundMandate
    have key : (requestFor args (proposal.input.ids 0) row quote).mandateId = args.mandateId :=
      owner
    rw [key, there] at found
    cases found
    rw [← mandate]
    exact sealed
  have within := allowed.within
  refine ⟨proposal, step, row, quote, item, o, answered.1, allowed.foundMandate, allowed.foundQuote,
    allowed.foundItem, present, order.id, order.quoteId, order.mandateId.trans owner, ?_⟩
  have currency : o.currency = quote.currency := order.currency
  rw [currency]
  constructor
  · intro respects
    refine ⟨respects.currency, fun required => ?_⟩
    rw [respects.refundable required]
    exact (within.refundable required).symm
  · rintro ⟨same, terms⟩
    exact ⟨same, within.category, within.merchant, within.unit,
      fun required => (terms required).trans (within.refundable required), within.nights, sealed,
      within.started, within.unexpired⟩

namespace Fixture

/-- The proposal for the first quote. -/
def proposal : ProposeArgs where
  quoteId := "qte_1"
  quoteHash := seaViewQuote.quoteHash
  mandateId := "mdt_1"
  mandateSpecHash := "sha256:6fb4cfd33dbf10d6f97a302b98e0953eb5ac41ce5767f8f799df11ea35b0b557"
  intentHash := seaViewHash
  traceId := "trc_1"
  actorId := "agt_test"

/-- A call of `handle_order_propose` that goes through. -/
def proposing (args : ProposeArgs) : List Event :=
  .start (.handleOrderPropose args "ord_1") :: List.replicate 9 (.step 0 input)

/-- The step has won the claim of an order. -/
def winsClaim (s : Foundation.Step Action Input World) : Bool :=
  match s.action with
  | .claimOrder args =>
      match (execute platform (.claimOrder args) s.input s.before).1 with
      | .ok won => won
      | .error _ => false
  | _ => false

theorem answered_of_winsClaim {s : Foundation.Step Action Input World}
    (wins : winsClaim s = true) : ∃ args, Answered platform s (.claimOrder args) true := by
  unfold winsClaim at wins
  split at wins
  · rename_i args issued
    split at wins
    · rename_i won answer
      subst wins
      exact ⟨args, issued, answer⟩
    · cases wins
  · cases wins

/-- The order of the first proposal is within the bounds. -/
theorem first_proposal_respects_bounds :
    ∃ (row : MandateRow) (item : CatalogItemRecord) (now : Time),
      ∃ o ∈ (reached database (proposing proposal)).state.db.orders, o.id = "ord_1" ∧
        RespectsBounds platform row.mandate seaViewQuote item o.currency now := by
  have run : (reached database (proposing proposal)).calls.map (fun r =>
      (r.history.any winsClaim, r.history.all fun s => decide (
        (s.before.db.getMandate "mdt_1").map (·.mandate.bounds.currency) = some "INR" ∧
          s.before.db.quotes.get? QuoteRecord.id "qte_1" = some seaViewQuote ∧
          s.before.db.items.get? CatalogItemRecord.sku seaViewQuote.sku = some seaView)))
      = [(true, true)] := by
    decide +kernel
  cases found : (reached database (proposing proposal)).calls with
  | nil =>
      rw [found] at run
      cases run
  | cons r calls =>
      rw [found] at run
      obtain ⟨wins, seen⟩ := Prod.mk.inj (List.cons.inj run).1
      obtain ⟨s, taken, won⟩ := List.any_eq_true.mp wins
      obtain ⟨args, answered⟩ := answered_of_winsClaim won
      have call : r.call = .handleOrderPropose proposal "ord_1" := by
        have first := reached_call database (proposing proposal) 0
        rw [found] at first
        exact Option.some.inj first
      obtain ⟨p, step, row, quote, item, o, -, mandate, quoted, held, present, id, -, -, bounds⟩ :=
        created_order_respects_bounds_iff platform (world database) (proposing proposal) r
          (by rw [reached] at found; rw [found]; exact List.mem_cons_self) proposal "ord_1" call s
          taken args answered
      obtain ⟨currency, same, listed⟩ := of_decide_eq_true (List.all_eq_true.mp seen p step)
      rw [show proposal.mandateId = "mdt_1" from rfl] at mandate
      rw [show proposal.quoteId = "qte_1" from rfl, same] at quoted
      cases quoted
      rw [listed] at held
      cases held
      rw [mandate] at currency
      have rupees : seaViewQuote.currency = row.mandate.bounds.currency :=
        (Option.some.inj currency).symm
      rw [reached]
      exact ⟨row, seaView, _, o, present, id, bounds.mpr ⟨rupees, fun _ => rfl⟩⟩

/-- The mandate with its bounds in another currency, sealed again. -/
def dollarMandate : Mandate :=
  { mandate with
    bounds := { mandate.bounds with currency := "USD" }
    specHash := some "sha256:4b7ab88071f5f7f24be018bb7fa8a30c2452a151af6ad01963654f49afcae211"
    signature := some ⟨"HMAC-SHA256", "mk_1",
      "4650a07809bbe83bcdd4d98c2a7af94ede9966ee743b638e5567729ae8eb51a2"⟩ }

def dollarRow : MandateRow where
  mandate := dollarMandate
  status := .locked
  plainId := by decide
  capPositive := by decide

def dollars : Database := { database with mandates := ⟨[dollarRow], by simp⟩ }

/-- The proposal for the first quote under that mandate. -/
def dollarProposal : ProposeArgs :=
  { proposal with
    mandateSpecHash := "sha256:4b7ab88071f5f7f24be018bb7fa8a30c2452a151af6ad01963654f49afcae211"
    intentHash := "sha256:692508e5e5a3c7b6c844aa3a00c3375140731993fa877926f03411da38ab8bb6" }

/-- The proposal under a mandate in dollars is accepted, and its order is in
rupees. -/
theorem dollar_mandate_gets_rupee_order :
    dollars.orders.rows = [] ∧ dollarMandate.bounds.currency = "USD" ∧
      outcomes dollars (proposing dollarProposal) = [some (.ok (.handled (.accept (some "ord_1")
        "ik_b29d88c33cfd9eb341b81a82df314f6b")))] ∧
      (reached dollars (proposing dollarProposal)).state.db.orders.rows.map
        (fun o => (o.id, o.mandateId, o.currency)) = [("ord_1", "mdt_1", "INR")] := by
  decide +kernel

end Fixture

end Actl
