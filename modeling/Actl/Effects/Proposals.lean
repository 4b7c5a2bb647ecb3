import Actl.Effects.Store
import Actl.Policy.Bounds

/-!
# What a proposal transaction finds

A proposal that is not rejected has found everything that `AllowedProposal` says,
and asks for exactly what its quote says.
-/

set_option autoImplicit false

namespace Actl

open Mandates (Mandate)
open Gate (MoneyActionRequest)
open Saga (ProposeArgs Proposal deriveIntent proposeOrder)

/-! ## Proposals -/

open Policy (PurchaseIntent PolicyContext computeIntentHash evaluate WithinBounds)

/-- The intent the merchant derives from a mandate, a quote and an item, before it
is hashed. -/
def intentDraft (mandate : Mandate) (quote : QuoteRecord) (item : CatalogItemRecord) :
    PurchaseIntent where
  currency := mandate.bounds.currency
  category := item.category
  merchant := item.merchantId
  unitPriceMinor := quote.unitPriceMinor
  totalMinor := quote.totalMinor
  nights := quote.nights
  rooms := mandate.intent.rooms
  refundable := quote.refundable
  quotedTotalMinor := quote.totalMinor
  currentTotalMinor := item.unitPriceMinor * quote.nights
  catalogVersion := quote.catalogVersion
  mandateSpecHash := mandate.specHash.getD ""
  intentHash := ""

/-- The derived intent with its hash. -/
def intentFor (P : Platform) (mandate : Mandate) (quote : QuoteRecord) (item : CatalogItemRecord) :
    PurchaseIntent :=
  { intentDraft mandate quote item with
    intentHash := computeIntentHash P (intentDraft mandate quote item) }

/-- What the policy is told besides the intent. -/
def contextFor (P : Platform) (decisionId : String) (now : Nat → Time) (row : MandateRow)
    (db : Database) : PolicyContext where
  now := now 1
  reservedMinor := Ledger.committedTotal db row.id
  txnCount := 0
  catalogVersion := db.catalogVersion
  decisionId := decisionId
  decisionTtlS := P.settings.decisionTtlS

/-- The checks on the mandate, the quote and the item have passed. -/
structure Derived (P : Platform) (args : ProposeArgs) (now : Time) (db : Database)
    (row : MandateRow) (quote : QuoteRecord) (item : CatalogItemRecord) : Prop where
  foundMandate : db.getMandate args.mandateId = some row
  status : row.status = .locked ∨ row.status = .executing
  unexpired : now < row.mandate.temporal.expiresAt
  specHash : row.mandate.specHash = some args.mandateSpecHash
  foundQuote : db.quotes.get? QuoteRecord.id args.quoteId = some quote
  owner : quote.mandateId = row.id
  quoteHash : quote.quoteHash = args.quoteHash
  foundItem : db.items.get? CatalogItemRecord.sku quote.sku = some item
  intentHash : computeIntentHash P (intentDraft row.mandate quote item) = args.intentHash

theorem deriveIntent_ok {P : Platform} {args : ProposeArgs} {now : Time} {db : Database}
    {row : MandateRow} {quote : QuoteRecord} {intent : PurchaseIntent}
    (done : deriveIntent P args now db = .ok (row, quote, intent)) :
    ∃ item, Derived P args now db row quote item ∧ intent = intentFor P row.mandate quote item := by
  unfold deriveIntent at done
  split at done
  · cases done
  · rename_i row' mandate
    dsimp only at done
    split at done
    · cases done
    · split at done
      · cases done
      · rename_i status
        split at done
        · cases done
        · rename_i unexpired
          split at done
          · cases done
          · rename_i specHash
            split at done
            · cases done
            · rename_i quote' found
              split at done
              · cases done
              · rename_i owner
                split at done
                · cases done
                · rename_i quoteHash
                  split at done
                  · cases done
                  · rename_i item held
                    split at done
                    · cases done
                    · rename_i intentHash
                      simp only [Except.ok.injEq, Prod.mk.injEq] at done
                      obtain ⟨rfl, rfl, rfl⟩ := done
                      exact ⟨item, ⟨mandate, not_not.mp status, Int.not_le.mp unexpired,
                        not_not.mp specHash, found, not_not.mp owner, not_not.mp quoteHash, held,
                        not_not.mp intentHash⟩, rfl⟩

/-- When the checks pass the intent is derived. -/
theorem Derived.deriveIntent_eq {P : Platform} {args : ProposeArgs} {now : Time} {db : Database}
    {row : MandateRow} {quote : QuoteRecord} {item : CatalogItemRecord}
    (passed : Derived P args now db row quote item) :
    deriveIntent P args now db = .ok (row, quote, intentFor P row.mandate quote item) := by
  have unrevoked : row.status ≠ .revoked := by
    rcases passed.status with locked | executing
    · rw [locked]
      decide
    · rw [executing]
      decide
  have owner : quote.mandateId = row.mandate.mandateId := passed.owner
  unfold deriveIntent
  rw [passed.foundMandate]
  dsimp only
  rw [if_neg unrevoked, if_neg (not_not.mpr passed.status),
    if_neg (Int.not_le.mpr passed.unexpired), if_neg (not_not.mpr passed.specHash),
    passed.foundQuote]
  dsimp only
  rw [if_neg (not_not.mpr owner), if_neg (not_not.mpr passed.quoteHash), passed.foundItem]
  exact if_neg (not_not.mpr passed.intentHash)

/-- What an allowed proposal asks for. -/
def requestFor (args : ProposeArgs) (decisionId : String) (row : MandateRow) (quote : QuoteRecord) :
    MoneyActionRequest where
  traceId := args.traceId
  mandateId := row.id
  decisionId := decisionId
  quoteId := args.quoteId
  intentHash := args.intentHash
  amountMinor := quote.totalMinor
  currency := quote.currency
  attemptNo := 1
  actorId := args.actorId

/-- The proposal was allowed: the checks have passed and so has the policy. -/
structure AllowedProposal (P : Platform) (args : ProposeArgs) (decisionId : String)
    (now : Nat → Time) (db : Database) (row : MandateRow) (quote : QuoteRecord)
    (item : CatalogItemRecord) : Prop extends Derived P args (now 0) db row quote item where
  within : WithinBounds P row.mandate (intentFor P row.mandate quote item)
    (contextFor P decisionId now row db)

theorem proposeOrder_allowed {P : Platform} {args : ProposeArgs} {decisionId : String}
    {now : Nat → Time} {db db' : Database} {req : MoneyActionRequest}
    (done : proposeOrder P args decisionId now db = .ok (.allowed req, db')) :
    ∃ row quote item, AllowedProposal P args decisionId now db row quote item ∧
      req = requestFor args decisionId row quote := by
  unfold proposeOrder at done
  split at done
  · cases done
  · rename_i row quote intent derived
    obtain ⟨item, passed, rfl⟩ := deriveIntent_ok derived
    dsimp only at done
    split at done
    · cases done
    · split at done
      · rename_i allowed
        have within := Policy.evaluate_allow_iff_withinBounds.mp allowed
        simp only [Except.ok.injEq, Prod.mk.injEq, Proposal.allowed.injEq] at done
        refine ⟨row, quote, item, ⟨passed, within⟩, ?_⟩
        rw [← done.1, requestFor, ← passed.intentHash]
        rfl
      · cases done

/-- The key an allowed proposal leads to. -/
theorem key_requestFor {P : Platform} {args : ProposeArgs} {decisionId : String} {row : MandateRow}
    {quote : QuoteRecord} (found : row.id = args.mandateId) :
    (requestFor args decisionId row quote).key P
      = Payments.computeIdempotencyKey P args.mandateId args.intentHash 1 := by
  rw [← found]
  rfl

/-! ## What proposing comes to -/

/-- Up to the mandate's expiry the checks do not depend on the time. -/
theorem deriveIntent_of_unexpired {P : Platform} {args : ProposeArgs} {now now' : Time}
    {db : Database} (unexpired : ∀ row, db.getMandate args.mandateId = some row →
      now < row.mandate.temporal.expiresAt ∧ now' < row.mandate.temporal.expiresAt) :
    deriveIntent P args now' db = deriveIntent P args now db := by
  unfold deriveIntent
  cases found : db.getMandate args.mandateId with
  | none => rfl
  | some row =>
      obtain ⟨before, before'⟩ := unexpired row found
      dsimp only
      rw [if_neg (Int.not_le.mpr before), if_neg (Int.not_le.mpr before')]

/-- The decision of a proposal whose checks have passed. -/
def decisionFor (P : Platform) (decisionId : String) (now : Nat → Time) (row : MandateRow)
    (quote : QuoteRecord) (item : CatalogItemRecord) (db : Database) : Policy.DecisionRecord :=
  evaluate P row.mandate (intentFor P row.mandate quote item) (contextFor P decisionId now row db)

/-- What the transaction of a proposal comes to: the checks turn it down, or it is
decided. -/
theorem proposeOrder_cases {P : Platform} {args : ProposeArgs} {decisionId : String}
    {now : Nat → Time} {db db' : Database} {proposal : Proposal}
    (done : proposeOrder P args decisionId now db = .ok (proposal, db')) :
    (∃ code, deriveIntent P args (now 0) db = .error code ∧ proposal = .rejected code ∧ db' = db) ∨
      ∃ row quote item, Derived P args (now 0) db row quote item ∧
        ((decisionFor P decisionId now row quote item db).verdict = .allow ∧
            proposal = .allowed (requestFor args decisionId row quote) ∨
          (decisionFor P decisionId now row quote item db).verdict ≠ .allow ∧ proposal = .rejected
            ((decisionFor P decisionId now row quote item db).reasonCodes.headD .ok)) := by
  unfold proposeOrder at done
  split at done
  · rename_i code failed
    simp only [Except.ok.injEq, Prod.mk.injEq] at done
    exact .inl ⟨code, failed, done.1.symm, done.2.symm⟩
  · rename_i row quote intent derived
    obtain ⟨item, passed, rfl⟩ := deriveIntent_ok derived
    refine .inr ⟨row, quote, item, passed, ?_⟩
    dsimp only at done
    split at done
    · cases done
    · split at done
      · rename_i allowed
        simp only [Except.ok.injEq, Prod.mk.injEq] at done
        refine .inl ⟨allowed, ?_⟩
        rw [← done.1, requestFor, ← passed.intentHash]
        rfl
      · rename_i denied
        simp only [Except.ok.injEq, Prod.mk.injEq] at done
        exact .inr ⟨denied, done.1.symm⟩

/-- A proposal with a new decision id is answered. -/
theorem proposeOrder_total {P : Platform} {args : ProposeArgs} {decisionId : String}
    {now : Nat → Time} {db : Database}
    (fresh : ∀ decision ∈ db.decisions, decision.decisionId ≠ decisionId) :
    ∃ proposal db', proposeOrder P args decisionId now db = .ok (proposal, db') := by
  unfold proposeOrder
  split
  · exact ⟨_, _, rfl⟩
  · dsimp only
    split
    · rename_i clash
      obtain ⟨col, unique, listed⟩ := Foundation.Table.insert?_eq_none_iff.mp clash
      obtain ⟨decision, stored, same⟩ := List.mem_map.mp listed
      rw [List.mem_singleton.mp unique] at same
      exact absurd same (fresh decision stored)
    · split
      · exact ⟨_, _, rfl⟩
      · exact ⟨_, _, rfl⟩

end Actl
