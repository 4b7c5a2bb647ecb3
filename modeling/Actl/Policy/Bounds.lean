import Actl.Policy.Rules

/-!
# What the policy allows

The rules as one predicate: the policy allows exactly the intents that lie within
the bounds of the mandate (`evaluate_allow_iff_withinBounds`). Of the context only
the amounts, the count, the catalog version and the side of the window matter
(`evaluate_codes_of_inWindow`).
-/

set_option autoImplicit false

namespace Actl.Policy

open Mandates (Mandate)

/-- What the twelve rules ask for. -/
structure WithinBounds (P : Platform) (mandate : Mandate) (intent : PurchaseIntent)
    (ctx : PolicyContext) : Prop where
  currency : intent.currency = mandate.bounds.currency
  category : intent.category ∈ mandate.bounds.allowedCategories
  merchant : intent.merchant ∉ mandate.bounds.blockedMerchants
  started : mandate.temporal.notBefore ≤ ctx.now
  unexpired : ctx.now < mandate.temporal.expiresAt
  unit : intent.unitPriceMinor ≤ mandate.bounds.maxUnitMinor
  total : ctx.reservedMinor + intent.totalMinor ≤ mandate.bounds.maxTotalMinor
  count : ctx.txnCount < mandate.bounds.maxTransactions
  nights : intent.nights = mandate.intent.nights
  rooms : intent.rooms = mandate.intent.rooms
  refundable : mandate.bounds.requireRefundable = true → intent.refundable = true
  drift : deltaBps intent ≤ mandate.bounds.maxPriceDeltaBps
  fresh : intent.catalogVersion = ctx.catalogVersion
  specHash : intent.mandateSpecHash = mandate.specHash.getD ""
  intentHash : intent.intentHash = computeIntentHash P intent

theorem outcome_passes {rule : String} {traceInput : JSONValue} {ok : Bool} {code : ReasonCode} :
    (outcome rule traceInput ok code).result ≠ .fail ↔ ok = true := by
  cases ok <;> simp [outcome]

theorem temporalWindow_passes {P : Platform} {mandate : Mandate} {intent : PurchaseIntent}
    {ctx : PolicyContext} : (temporalWindow P mandate intent ctx).result ≠ .fail ↔
      mandate.temporal.notBefore ≤ ctx.now ∧ ctx.now < mandate.temporal.expiresAt := by
  unfold temporalWindow
  by_cases early : ctx.now < mandate.temporal.notBefore
  · simp [early, outcome]
  · by_cases late : mandate.temporal.expiresAt ≤ ctx.now
    · simp [early, late, outcome]
    · simp [early, late, Int.not_lt.mp early, Int.not_le.mp late]

/-- The policy allows exactly what is within the bounds. -/
theorem evaluate_allow_iff_withinBounds {P : Platform} {mandate : Mandate}
    {intent : PurchaseIntent} {ctx : PolicyContext} :
    (evaluate P mandate intent ctx).verdict = .allow ↔ WithinBounds P mandate intent ctx := by
  rw [evaluate_allow_iff]
  simp only [rules, List.forall_mem_cons, List.not_mem_nil, false_implies, implies_true, and_true,
    temporalWindow_passes, currencyMatch, categoryAllow, merchantBlock, capUnit, capTotal, capCount,
    quantityMatch, policyRefundable, priceDelta, catalogFreshness, integrityBinding,
    outcome_passes, decide_eq_true_eq, Bool.and_eq_true]
  constructor
  · rintro ⟨currency, category, merchant, ⟨started, unexpired⟩, unit, total, count,
      ⟨nights, rooms⟩, refundable, drift, fresh, specHash, intentHash⟩
    refine ⟨currency, category, merchant, started, unexpired, unit, total, count, nights, rooms,
      fun required => ?_, drift, fresh, specHash, intentHash⟩
    rcases refundable with free | held
    · rw [required] at free
      cases free
    · exact held
  · intro within
    refine ⟨within.currency, within.category, within.merchant, ⟨within.started, within.unexpired⟩,
      within.unit, within.total, within.count, ⟨within.nights, within.rooms⟩, ?_, within.drift,
      within.fresh, within.specHash, within.intentHash⟩
    cases required : mandate.bounds.requireRefundable with
    | false => exact .inl rfl
    | true => exact .inr (within.refundable required)

/-- Outcomes that agree rule by rule lead to the same codes. -/
theorem failedCodes_congr (rules : List RuleFn) (f f' : RuleFn → RuleOutcome)
    (agree : ∀ rule ∈ rules, (f rule).result = (f' rule).result ∧
      (f rule).reasonCode = (f' rule).reasonCode) :
    ((rules.map f).filter fun o => o.result = .fail).map RuleOutcome.reasonCode
      = ((rules.map f').filter fun o => o.result = .fail).map RuleOutcome.reasonCode := by
  induction rules with
  | nil => rfl
  | cons rule rules ih =>
      obtain ⟨result, code⟩ := agree rule List.mem_cons_self
      have rest := ih fun rule member => agree rule (List.mem_cons_of_mem _ member)
      simp only [List.map_cons, List.filter_cons, result]
      split
      · rw [List.map_cons, List.map_cons, code, rest]
      · exact rest

/-- The instant lies in the mandate's window. -/
def InWindow (mandate : Mandate) (now : Time) : Prop :=
  mandate.temporal.notBefore ≤ now ∧ now < mandate.temporal.expiresAt

theorem temporalWindow_of_inWindow (P : Platform) {mandate : Mandate} (intent : PurchaseIntent)
    {ctx : PolicyContext} (inside : InWindow mandate ctx.now) :
    (temporalWindow P mandate intent ctx).result = .pass ∧
      (temporalWindow P mandate intent ctx).reasonCode = .ok := by
  unfold temporalWindow
  dsimp only
  rw [if_neg (Int.not_lt.mpr inside.1), if_neg (Int.not_le.mpr inside.2)]
  exact ⟨rfl, rfl⟩

/-- Within the window the policy's codes do not depend on the time. -/
theorem evaluate_codes_of_inWindow {P : Platform} {mandate : Mandate} {intent : PurchaseIntent}
    {ctx ctx' : PolicyContext} (inside : InWindow mandate ctx.now)
    (inside' : InWindow mandate ctx'.now) (reserved : ctx'.reservedMinor = ctx.reservedMinor)
    (count : ctx'.txnCount = ctx.txnCount) (version : ctx'.catalogVersion = ctx.catalogVersion) :
    (evaluate P mandate intent ctx').verdict = (evaluate P mandate intent ctx).verdict ∧
      (evaluate P mandate intent ctx').reasonCodes
        = (evaluate P mandate intent ctx).reasonCodes := by
  have codes := failedCodes_congr rules (fun rule => rule P mandate intent ctx')
    (fun rule => rule P mandate intent ctx) (by
      obtain ⟨passes, fine⟩ := temporalWindow_of_inWindow P intent inside
      obtain ⟨passes', fine'⟩ := temporalWindow_of_inWindow P intent inside'
      simp only [rules, List.forall_mem_cons, List.not_mem_nil, false_implies, implies_true,
        and_true, currencyMatch, categoryAllow, merchantBlock, capUnit, capTotal, capCount,
        quantityMatch, policyRefundable, priceDelta, catalogFreshness, integrityBinding, outcome,
        reserved, count, version, passes, passes', fine, fine'])
  simp only [evaluate, codes, and_self]

/-- What fails when nothing but the total is out of bounds. -/
theorem evaluate_codes_of_over {P : Platform} {mandate : Mandate} {intent : PurchaseIntent}
    {ctx ctx' : PolicyContext} (within : WithinBounds P mandate intent ctx)
    (inside : InWindow mandate ctx'.now)
    (count : ctx'.txnCount = ctx.txnCount) (version : ctx'.catalogVersion = ctx.catalogVersion)
    (exceeded : ¬ ctx'.reservedMinor + intent.totalMinor ≤ mandate.bounds.maxTotalMinor) :
    (evaluate P mandate intent ctx').verdict = .deny ∧
      (evaluate P mandate intent ctx').reasonCodes = [.budgetExceeded] := by
  obtain ⟨passes, fine⟩ := temporalWindow_of_inWindow P intent inside
  have allowed := evaluate_allow_iff_withinBounds.mpr within
  rw [evaluate_allow_iff] at allowed
  have codes : ((rules.map fun rule => rule P mandate intent ctx').filter
      fun o => o.result = .fail).map RuleOutcome.reasonCode = [.budgetExceeded] := by
    simp only [rules, List.forall_mem_cons, currencyMatch, categoryAllow, merchantBlock, capUnit,
      capCount, quantityMatch, policyRefundable, priceDelta, catalogFreshness, integrityBinding,
      outcome_passes] at allowed
    simp only [rules, List.map_cons, List.map_nil, List.filter_cons, currencyMatch, categoryAllow,
      merchantBlock, capUnit, capTotal, capCount, quantityMatch, policyRefundable, priceDelta,
      catalogFreshness, integrityBinding, outcome, passes, count, version, allowed, exceeded]
    simp
  simp only [evaluate, codes]
  exact ⟨rfl, rfl⟩

end Actl.Policy
