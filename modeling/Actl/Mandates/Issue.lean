import Actl.Agents.Buyer

/-!
# Mandates issued for a budget

`create_mandate` of the buyer's routes: it turns a confirmed budget into a locked
mandate, and derives the cap on a night's price by dividing the budget by the nights,
never below one. What passes the pre-screen of such a mandate is within the budget,
or costs one minor unit a night (`feasible_within_budget`).
-/

set_option autoImplicit false

namespace Actl.Mandates

open Agents (CatalogItemRow toDomainItem isFeasible isFeasible_iff)
open Catalog (QuoteArgs draftQuote)
open Policy (PolicyContext evaluate findings mem_reasonCodes some_eq_refusal some_eq_window)

/-- A request that its schema accepts. -/
structure MandateCreateRequest where
  nights : Int
  rooms : Int
  maxTotalMinor : Int
  requireRefundable : Bool
  checkIn : String
  nightsInRange : 0 < nights ∧ nights ≤ 30
  roomsInRange : 0 < rooms ∧ rooms ≤ 10
  totalPositive : 0 < maxTotalMinor
  checkInLength : 1 ≤ checkIn.length ∧ checkIn.length ≤ 32
  checkInPattern : '\x00' ∉ checkIn.toList

/-- `max(body.max_total_minor // body.nights, 1)`. -/
def maxUnitMinor (body : MandateCreateRequest) : Int :=
  max (Int.fdiv body.maxTotalMinor body.nights) 1

/-- The mandate that `create_mandate` locks, under the id and at the time it draws. -/
def createMandate (P : Platform) (mandateDefaultTtlS : Int) (body : MandateCreateRequest)
    (mandateId : String) (now : Time) : Mandate :=
  let draft : Mandate :=
    { mandateId := mandateId
      version := 1
      principal := ⟨"human", "usr_web_buyer"⟩
      delegate := ⟨"agent", "agt_web_buyer", "ed25519:web-buyer"⟩
      intent := ⟨"travel.hotel", "Goa, IN", body.checkIn, body.nights, body.rooms⟩
      bounds :=
        { currency := "INR"
          maxTotalMinor := body.maxTotalMinor
          maxUnitMinor := maxUnitMinor body
          maxTransactions := 1
          allowedCategories := ["travel.hotel"]
          blockedMerchants := []
          requireRefundable := body.requireRefundable
          maxPriceDeltaBps := 1000 }
      temporal := ⟨now, now + seconds mandateDefaultTtlS, P.settings.quoteTtlS⟩
      controls := ⟨true, true⟩ }
  let specHash := computeSpecHash P draft
  { draft with
    specHash := some specHash
    signature := some
      ⟨"HMAC-SHA256", "mk_web_buyer", signSpecHash P specHash P.settings.mandateSigningKey⟩ }

/-- What is issued is sealed: its hash is its own and its signature is the platform's. -/
theorem createMandate_sealed (P : Platform) (mandateDefaultTtlS : Int)
    (body : MandateCreateRequest) (mandateId : String) (now : Time) :
    verifySpecHash P (createMandate P mandateDefaultTtlS body mandateId now) = true ∧
      ∃ specHash signature,
        (createMandate P mandateDefaultTtlS body mandateId now).specHash = some specHash ∧
        (createMandate P mandateDefaultTtlS body mandateId now).signature = some signature ∧
        verifySignature P specHash P.settings.mandateSigningKey signature.value = true := by
  refine ⟨?_, _, _, rfl, rfl, ?_⟩
  · simp only [verifySpecHash, createMandate, computeSpecHash, specPayload, decide_true]
  · simp only [verifySignature, decide_true]

/-- A night at the cap costs no more than the budget, where the budget is at least
one minor unit a night. -/
theorem maxUnitMinor_mul_le (body : MandateCreateRequest) :
    maxUnitMinor body * body.nights ≤ max body.maxTotalMinor body.nights := by
  have nights := body.nightsInRange.1
  rw [maxUnitMinor, Int.fdiv_eq_ediv_of_nonneg _ (Int.le_of_lt nights)]
  rcases Int.le_total (body.maxTotalMinor / body.nights) 1 with floored | divided
  · rw [max_eq_right floored, Int.one_mul]
    exact le_max_right _ _
  · rw [max_eq_left divided]
    exact (Int.ediv_mul_le _ (Int.ne_of_gt nights)).trans (le_max_left _ _)

/-- What is feasible for an issued mandate costs no more than its budget or one minor
unit a night, so that a quote for it never fails the total cap of an unused mandate
whose budget is at least one minor unit a night. -/
theorem feasible_within_budget (P : Platform) (lower : String → String) (mandateDefaultTtlS : Int)
    (body : MandateCreateRequest) (mandateId : String) (issuedAt : Time) (record : CatalogItemRow)
    (feasible : isFeasible lower (toDomainItem record)
      (createMandate P mandateDefaultTtlS body mandateId issuedAt) = true) :
    record.unitPriceMinor * body.nights ≤ max body.maxTotalMinor body.nights ∧
      (body.nights ≤ body.maxTotalMinor →
        record.unitPriceMinor * body.nights ≤ body.maxTotalMinor ∧
        ∀ (args : QuoteArgs) (version : Int) (quoteId : String) (now : Time) (ctx : PolicyContext),
          args.nights = body.nights → ctx.reservedMinor = 0 →
            .budgetExceeded ∉ (evaluate P (createMandate P mandateDefaultTtlS body mandateId issuedAt)
              (intentFor P (createMandate P mandateDefaultTtlS body mandateId issuedAt)
                (draftQuote P args record.toCatalogItemRecord version quoteId now)
                record.toCatalogItemRecord) ctx).reasonCodes) := by
  have unit : record.unitPriceMinor ≤ maxUnitMinor body := (isFeasible_iff.mp feasible).unit
  have total : record.unitPriceMinor * body.nights ≤ max body.maxTotalMinor body.nights :=
    (Int.mul_le_mul_of_nonneg_right unit (Int.le_of_lt body.nightsInRange.1)).trans
      (maxUnitMinor_mul_le body)
  refine ⟨total, fun enough => ?_⟩
  rw [max_eq_left enough] at total
  refine ⟨total, fun args version quoteId now ctx nights unused objected => ?_⟩
  rw [mem_reasonCodes (by decide)] at objected
  simp only [findings, List.mem_cons, some_eq_refusal, some_eq_window, List.not_mem_nil, or_false,
    reduceCtorEq, false_and, and_false, false_or, true_and] at objected
  refine objected ?_
  simp only [unused, Int.zero_add, intentFor, intentDraft, draftQuote, nights]
  exact total

namespace Fixture

open Actl.Fixture (platform start)
open Agents.Fixture (lower)

/-- The least budget there is, for two nights. -/
def tightRequest : MandateCreateRequest where
  nights := 2
  rooms := 1
  maxTotalMinor := 1
  requireRefundable := false
  checkIn := "2026-09-12"
  nightsInRange := by decide
  roomsInRange := by decide
  totalPositive := by decide
  checkInLength := by decide
  checkInPattern := by decide

/-- An item at the least price there is. -/
def pennyRow : CatalogItemRow where
  sku := "HTL-GOA-PENNY"
  category := "travel.hotel"
  merchantId := "mrc_penny"
  unitPriceMinor := 1
  availableUnits := 1
  refundable := true
  locationCity := "Goa"
  locationCountry := "IN"

def pennyQuoteArgs : QuoteArgs where
  mandateId := "mdt_2"
  sku := "HTL-GOA-PENNY"
  nights := 2
  actorId := "agt_test"
  traceId := "trc_1"

/-- A budget smaller than the number of nights admits an item it cannot pay for. -/
theorem tight_budget_exceeded :
    isFeasible lower (toDomainItem pennyRow)
        (createMandate platform 1800 tightRequest "mdt_2" start) = true ∧
      ¬pennyRow.unitPriceMinor * tightRequest.nights ≤ tightRequest.maxTotalMinor ∧
      .budgetExceeded ∈ (evaluate platform
        (createMandate platform 1800 tightRequest "mdt_2" start)
        (intentFor platform (createMandate platform 1800 tightRequest "mdt_2" start)
          (draftQuote platform pennyQuoteArgs pennyRow.toCatalogItemRecord 1 "qte_4" start)
          pennyRow.toCatalogItemRecord)
        ⟨start, 0, 0, 1, "dec_1", 30⟩).reasonCodes := by
  decide +kernel

/-- With one minor unit more the same item is within the budget. -/
theorem penny_within_budget :
    pennyRow.unitPriceMinor * 2 ≤ 2 :=
  ((feasible_within_budget platform lower 1800 { tightRequest with
      maxTotalMinor := 2
      totalPositive := by decide } "mdt_2" start pennyRow (by decide +kernel)).2 (by decide)).1

end Fixture

end Actl.Mandates
