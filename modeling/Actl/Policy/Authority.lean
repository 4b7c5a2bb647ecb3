import Mathlib.Data.List.ReduceOption
import Actl.Policy.Drift

/-!
# More authority, same answer

What the policy answers is a list of findings, one for each rule in the order of
the rules, and the reason codes are the findings that are there
(`evaluate_reasonCodes`). The order on mandates, intents and contexts under which
an answer can only become more favourable is `Eases`: wider bounds, a cheaper
intent, a lighter ledger. The drift rule compares quotients rounded down, which
follow the distance between the two totals.
-/

set_option autoImplicit false

namespace Actl.Policy

open Mandates (Mandate)

/-! ## The reason codes -/

/-- The code of a condition that is not met. -/
def refusal (met : Prop) [Decidable met] (code : ReasonCode) : Option ReasonCode :=
  if met then none else some code

/-- What each rule objects to, in the order of the rules. -/
def findings (P : Platform) (mandate : Mandate) (intent : PurchaseIntent) (ctx : PolicyContext) :
    List (Option ReasonCode) := [
  refusal (intent.currency = mandate.bounds.currency) .currencyMismatch,
  refusal (intent.category ∈ mandate.bounds.allowedCategories) .categoryNotAllowed,
  refusal (intent.merchant ∉ mandate.bounds.blockedMerchants) .merchantBlocked,
  if ctx.now < mandate.temporal.notBefore then some .mandateNotYetValid
    else refusal (ctx.now < mandate.temporal.expiresAt) .mandateExpired,
  refusal (intent.unitPriceMinor ≤ mandate.bounds.maxUnitMinor) .unitCapExceeded,
  refusal (ctx.reservedMinor + intent.totalMinor ≤ mandate.bounds.maxTotalMinor) .budgetExceeded,
  refusal (ctx.txnCount < mandate.bounds.maxTransactions) .txnLimitExceeded,
  refusal (intent.nights = mandate.intent.nights ∧ intent.rooms = mandate.intent.rooms)
    .quantityMismatch,
  refusal (mandate.bounds.requireRefundable = true → intent.refundable = true)
    .refundPolicyViolation,
  refusal (deltaBps intent ≤ mandate.bounds.maxPriceDeltaBps) .priceDrift,
  refusal (intent.catalogVersion = ctx.catalogVersion) .stalePrice,
  refusal (intent.mandateSpecHash = mandate.specHash.getD "" ∧
    intent.intentHash = computeIntentHash P intent) .intentMismatch]

/-- What a rule's outcome adds to the reason codes. -/
def objection (o : RuleOutcome) : Option ReasonCode :=
  if o.result = .fail then some o.reasonCode else none

theorem objections_eq (outcomes : List RuleOutcome) :
    (outcomes.filter fun o => o.result = .fail).map RuleOutcome.reasonCode
      = (outcomes.map objection).reduceOption := by
  induction outcomes with
  | nil => rfl
  | cons o outcomes ih =>
      by_cases failed : o.result = .fail
      · simp [objection, failed, ih, List.reduceOption_cons_of_some]
      · simp [objection, failed, ih, List.reduceOption_cons_of_none]

/-- A rule with one condition objects exactly when the condition is not met. -/
theorem objection_outcome (rule : String) (traceInput : JSONValue) {ok : Bool} {met : Prop}
    [Decidable met] (code : ReasonCode) (meets : ok = true ↔ met) :
    objection (outcome rule traceInput ok code) = refusal met code := by
  cases ok with
  | true =>
      have holds : met := meets.mp rfl
      simp [objection, outcome, refusal, holds]
  | false =>
      have fails : ¬met := fun holds => Bool.false_ne_true (meets.mpr holds)
      simp [objection, outcome, refusal, fails]

/-- The window rule objects with the code of the side that was missed. -/
theorem objection_temporalWindow (P : Platform) (mandate : Mandate) (intent : PurchaseIntent)
    (ctx : PolicyContext) : objection (temporalWindow P mandate intent ctx)
      = if ctx.now < mandate.temporal.notBefore then some .mandateNotYetValid
        else refusal (ctx.now < mandate.temporal.expiresAt) .mandateExpired := by
  unfold temporalWindow
  by_cases early : ctx.now < mandate.temporal.notBefore
  · simp [objection, outcome, early]
  · by_cases late : mandate.temporal.expiresAt ≤ ctx.now
    · simp [objection, outcome, refusal, early, late]
    · simp [objection, refusal, early, late, Int.not_le.mp late]

/-- Every rule objects to what its finding is about. -/
theorem objections_rules (P : Platform) (mandate : Mandate) (intent : PurchaseIntent)
    (ctx : PolicyContext) :
    (rules.map fun rule => objection (rule P mandate intent ctx))
      = findings P mandate intent ctx := by
  simp only [rules, findings, List.map_cons, List.map_nil, objection_temporalWindow]
  congr 1
  · exact objection_outcome _ _ _ (by simp)
  congr 1
  · exact objection_outcome _ _ _ (by simp)
  congr 1
  · exact objection_outcome _ _ _ (by simp)
  congr 2
  · exact objection_outcome _ _ _ (by simp)
  congr 1
  · exact objection_outcome _ _ _ (by simp)
  congr 1
  · exact objection_outcome _ _ _ (by simp)
  congr 1
  · exact objection_outcome _ _ _ (by simp)
  congr 1
  · exact objection_outcome _ _ _ (by
      cases mandate.bounds.requireRefundable <;> simp)
  congr 1
  · exact objection_outcome _ _ _ (by simp)
  congr 1
  · exact objection_outcome _ _ _ (by simp)
  congr 1
  · exact objection_outcome _ _ _ (by simp)

/-- The codes of a decision are the findings in the order of the rules, or `OK`. -/
theorem evaluate_reasonCodes (P : Platform) (mandate : Mandate) (intent : PurchaseIntent)
    (ctx : PolicyContext) : (evaluate P mandate intent ctx).reasonCodes
      = if (findings P mandate intent ctx).reduceOption = [] then [.ok]
        else (findings P mandate intent ctx).reduceOption := by
  have codes := objections_eq (rules.map fun rule => rule P mandate intent ctx)
  rw [List.map_map] at codes
  simp only [evaluate, codes, Function.comp_def, objections_rules]

theorem reasonCodes_of_allow {P : Platform} {mandate : Mandate} {intent : PurchaseIntent}
    {ctx : PolicyContext} (allowed : (evaluate P mandate intent ctx).verdict = .allow) :
    (evaluate P mandate intent ctx).reasonCodes = [.ok] := by
  simp only [evaluate] at allowed ⊢
  split at allowed
  · next none => rw [if_pos none]
  · cases allowed

/-- What fails when only the price and the version of the catalog have changed since the
intent was within bounds: a drift that is too much comes before the version. -/
theorem reasonCodes_of_repriced {P : Platform} {mandate : Mandate}
    {intent intent' : PurchaseIntent} {ctx ctx' : PolicyContext}
    (within : WithinBounds P mandate intent ctx) (inside : InWindow mandate ctx'.now)
    (reserved : ctx'.reservedMinor = ctx.reservedMinor) (count : ctx'.txnCount = ctx.txnCount)
    (same : intent' = { intent with
      currentTotalMinor := intent'.currentTotalMinor, intentHash := intent'.intentHash })
    (hashed : intent'.intentHash = computeIntentHash P intent')
    (moved : intent.catalogVersion ≠ ctx'.catalogVersion) :
    (evaluate P mandate intent' ctx').reasonCodes =
      if deltaBps intent' ≤ mandate.bounds.maxPriceDeltaBps then [.stalePrice]
      else [.priceDrift, .stalePrice] := by
  have total : ctx'.reservedMinor + intent.totalMinor ≤ mandate.bounds.maxTotalMinor := by
    rw [reserved]
    exact within.total
  have counted : ctx'.txnCount < mandate.bounds.maxTransactions := by
    rw [count]
    exact within.count
  have found : findings P mandate intent' ctx' = List.replicate 9 none ++
      [refusal (deltaBps intent' ≤ mandate.bounds.maxPriceDeltaBps) .priceDrift,
        some .stalePrice, none] := by
    rw [findings, hashed]
    generalize deltaBps intent' = drift, computeIntentHash P intent' = hash at *
    rw [same]
    simp only [refusal, if_pos within.currency, if_pos within.category, if_pos within.merchant,
      if_neg (Int.not_lt.mpr inside.1), if_pos inside.2, if_pos within.unit, if_pos total,
      if_pos counted, if_pos (And.intro within.nights within.rooms), if_pos within.refundable,
      if_neg moved, if_pos (And.intro within.specHash trivial)]
    rfl
  rw [evaluate_reasonCodes, found]
  by_cases near : deltaBps intent' ≤ mandate.bounds.maxPriceDeltaBps
  · rw [refusal, if_pos near, if_pos near]
    rfl
  · rw [refusal, if_neg near, if_neg near]
    rfl

theorem some_eq_refusal {met : Prop} [Decidable met] {code code' : ReasonCode} :
    some code = refusal met code' ↔ code = code' ∧ ¬met := by
  simp only [refusal]
  split
  · next holds => simp [holds]
  · next fails => simp [fails]

theorem some_eq_window {early inside : Prop} [Decidable early] [Decidable inside]
    {code code' code'' : ReasonCode} :
    (some code = if early then some code' else refusal inside code'') ↔
      early ∧ code = code' ∨ ¬early ∧ code = code'' ∧ ¬inside := by
  split
  · next holds => simp [holds]
  · next fails => simp [fails, some_eq_refusal]

/-- A rule's code is among the reason codes exactly when its finding is there. -/
theorem mem_reasonCodes {P : Platform} {mandate : Mandate} {intent : PurchaseIntent}
    {ctx : PolicyContext} {code : ReasonCode} (fault : code ≠ .ok) :
    code ∈ (evaluate P mandate intent ctx).reasonCodes ↔
      some code ∈ findings P mandate intent ctx := by
  rw [evaluate_reasonCodes, ← List.reduceOption_mem_iff]
  split
  · next none =>
      rw [none]
      simp [fault]
  · exact Iff.rfl

/-! ## The order of authority -/

/-- A mandate that allows at least as much for the same stay. -/
structure Widens (mandate mandate' : Mandate) : Prop where
  currency : mandate'.bounds.currency = mandate.bounds.currency
  nights : mandate'.intent.nights = mandate.intent.nights
  rooms : mandate'.intent.rooms = mandate.intent.rooms
  total : mandate.bounds.maxTotalMinor ≤ mandate'.bounds.maxTotalMinor
  unit : mandate.bounds.maxUnitMinor ≤ mandate'.bounds.maxUnitMinor
  count : mandate.bounds.maxTransactions ≤ mandate'.bounds.maxTransactions
  drift : mandate.bounds.maxPriceDeltaBps ≤ mandate'.bounds.maxPriceDeltaBps
  categories : mandate.bounds.allowedCategories ⊆ mandate'.bounds.allowedCategories
  merchants : mandate'.bounds.blockedMerchants ⊆ mandate.bounds.blockedMerchants
  refundable : mandate'.bounds.requireRefundable = true → mandate.bounds.requireRefundable = true
  started : mandate'.temporal.notBefore ≤ mandate.temporal.notBefore
  unexpired : mandate.temporal.expiresAt ≤ mandate'.temporal.expiresAt

/-- The same purchase at no higher price and no larger drift. -/
structure Cheapens (intent intent' : PurchaseIntent) : Prop where
  currency : intent'.currency = intent.currency
  category : intent'.category = intent.category
  merchant : intent'.merchant = intent.merchant
  nights : intent'.nights = intent.nights
  rooms : intent'.rooms = intent.rooms
  refundable : intent'.refundable = intent.refundable
  version : intent'.catalogVersion = intent.catalogVersion
  quoted : intent'.quotedTotalMinor = intent.quotedTotalMinor
  unit : intent'.unitPriceMinor ≤ intent.unitPriceMinor
  total : intent'.totalMinor ≤ intent.totalMinor
  drift : (intent'.currentTotalMinor - intent.quotedTotalMinor).natAbs
    ≤ (intent.currentTotalMinor - intent.quotedTotalMinor).natAbs

/-- The same instant with no more reserved and no more purchases made. -/
structure Relieves (ctx ctx' : PolicyContext) : Prop where
  now : ctx'.now = ctx.now
  version : ctx'.catalogVersion = ctx.catalogVersion
  reserved : ctx'.reservedMinor ≤ ctx.reservedMinor
  count : ctx'.txnCount ≤ ctx.txnCount

/-- An intent whose hash fields are those of itself and of its mandate. -/
structure Bound (P : Platform) (mandate : Mandate) (intent : PurchaseIntent) : Prop where
  specHash : intent.mandateSpecHash = mandate.specHash.getD ""
  intentHash : intent.intentHash = computeIntentHash P intent

/-- All that may change without costing an allowed purchase its permission. -/
structure Eases (P : Platform) (mandate mandate' : Mandate) (intent intent' : PurchaseIntent)
    (ctx ctx' : PolicyContext) : Prop where
  mandate : Widens mandate mandate'
  intent : Cheapens intent intent'
  ctx : Relieves ctx ctx'
  bound : Bound P mandate' intent'

/-- What lies within the bounds stays within them. -/
theorem WithinBounds.eased {P : Platform} {mandate mandate' : Mandate}
    {intent intent' : PurchaseIntent} {ctx ctx' : PolicyContext}
    (within : WithinBounds P mandate intent ctx) (quoted : 0 < intent.quotedTotalMinor)
    (eases : Eases P mandate mandate' intent intent' ctx ctx') :
    WithinBounds P mandate' intent' ctx' where
  currency := by rw [eases.intent.currency, eases.mandate.currency, within.currency]
  category := by
    rw [eases.intent.category]
    exact eases.mandate.categories within.category
  merchant := by
    rw [eases.intent.merchant]
    exact fun blocked => within.merchant (eases.mandate.merchants blocked)
  started := by
    rw [eases.ctx.now]
    exact le_trans eases.mandate.started within.started
  unexpired := by
    rw [eases.ctx.now]
    exact lt_of_lt_of_le within.unexpired eases.mandate.unexpired
  unit := (eases.intent.unit.trans within.unit).trans eases.mandate.unit
  total := ((Int.add_le_add eases.ctx.reserved eases.intent.total).trans within.total).trans
    eases.mandate.total
  count := (lt_of_le_of_lt eases.ctx.count within.count).trans_le eases.mandate.count
  nights := by rw [eases.intent.nights, eases.mandate.nights, within.nights]
  rooms := by rw [eases.intent.rooms, eases.mandate.rooms, within.rooms]
  refundable := fun required => by
    rw [eases.intent.refundable]
    exact within.refundable (eases.mandate.refundable required)
  drift := ((deltaBps_mono quoted eases.intent.quoted eases.intent.drift).trans within.drift).trans eases.mandate.drift
  fresh := by rw [eases.intent.version, eases.ctx.version, within.fresh]
  specHash := eases.bound.specHash
  intentHash := eases.bound.intentHash

/-- An allowed purchase stays allowed when authority grows and cost shrinks; and
every decision explains itself by what the rules object to, in their order. -/
theorem evaluate_monotone (P : Platform) :
    (∀ (mandate mandate' : Mandate) (intent intent' : PurchaseIntent) (ctx ctx' : PolicyContext),
      0 < intent.quotedTotalMinor → Eases P mandate mandate' intent intent' ctx ctx' →
        (evaluate P mandate intent ctx).verdict = .allow →
          (evaluate P mandate' intent' ctx').verdict = .allow) ∧
      ∀ (mandate : Mandate) (intent : PurchaseIntent) (ctx : PolicyContext),
        (evaluate P mandate intent ctx).reasonCodes
          = if (findings P mandate intent ctx).reduceOption = [] then [.ok]
            else (findings P mandate intent ctx).reduceOption := by
  refine ⟨fun mandate mandate' intent intent' ctx ctx' quoted eases allowed => ?_,
    evaluate_reasonCodes P⟩
  exact evaluate_allow_iff_withinBounds.mpr
    ((evaluate_allow_iff_withinBounds.mp allowed).eased quoted eases)

namespace Fixture

open Actl.Fixture (platform mandate intentOf seaView seaViewHash start)

/-- The mandate with a higher cap, one more category and refunds no longer required. -/
def generous : Mandate :=
  { mandate with
    bounds := { mandate.bounds with
      maxTotalMinor := 950000
      allowedCategories := "travel.hostel" :: mandate.bounds.allowedCategories
      requireRefundable := false }
    specHash := some "sha256:generous" }

/-- The first purchase at a lower price. -/
def cheaper : PurchaseIntent :=
  { intentOf seaView seaViewHash with
    unitPriceMinor := 139000
    totalMinor := 417000
    mandateSpecHash := "sha256:generous" }

/-- The first purchase, allowed once, is allowed at a lower price under the more
generous mandate with nothing reserved. -/
theorem generous_allows :
    (evaluate platform generous
      { cheaper with intentHash := computeIntentHash platform cheaper }
      context).verdict = .allow := by
  refine (evaluate_monotone platform).1 mandate generous (intentOf seaView seaViewHash)
    { cheaper with intentHash := computeIntentHash platform cheaper }
    { context with reservedMinor := 420000 } context
    (by decide) ⟨?_, ?_, ?_, rfl, by simp only [computeIntentHash, intentPayload]⟩ (by decide +kernel)
  · constructor <;> decide
  · constructor <;> decide
  · constructor <;> decide

end Fixture

end Actl.Policy
