import Actl.Mandates.Model
import Actl.Policy.ReasonCodes

/-!
# Policy rules

The twelve rules of `domain/policy/rules.py` and the engine that runs them.
Every rule always runs; a decision carries the code of each rule that failed,
in the order of the rules. Everything that depends on time or state is an input
(`PolicyContext`), so the engine is a function.
-/

set_option autoImplicit false

namespace Actl.Policy

open Audit (jcs)
open Mandates (Mandate specPayload)

structure PurchaseIntent where
  currency : String
  category : String
  merchant : String
  unitPriceMinor : Int
  totalMinor : Int
  nights : Int
  rooms : Int
  refundable : Bool
  quotedTotalMinor : Int
  currentTotalMinor : Int
  catalogVersion : Int
  mandateSpecHash : String
  intentHash : String
  deriving DecidableEq

structure PolicyContext where
  now : Time
  reservedMinor : Int
  txnCount : Int
  catalogVersion : Int
  decisionId : String
  decisionTtlS : Int
  deriving DecidableEq

/-- `intent.model_dump(mode="json", exclude={"intent_hash"})`. -/
def intentPayload (intent : PurchaseIntent) : List (String × JSONValue) := [
  ("currency", .str intent.currency),
  ("category", .str intent.category),
  ("merchant", .str intent.merchant),
  ("unit_price_minor", .int intent.unitPriceMinor),
  ("total_minor", .int intent.totalMinor),
  ("nights", .int intent.nights),
  ("rooms", .int intent.rooms),
  ("refundable", .bool intent.refundable),
  ("quoted_total_minor", .int intent.quotedTotalMinor),
  ("current_total_minor", .int intent.currentTotalMinor),
  ("catalog_version", .int intent.catalogVersion),
  ("mandate_spec_hash", .str intent.mandateSpecHash)]

def computeIntentHash (P : Platform) (intent : PurchaseIntent) : String :=
  P.prefixedDigest (jcs (.obj (intentPayload intent)))

inductive RuleResult where
  | pass
  | fail
  deriving DecidableEq, Repr

structure RuleOutcome where
  rule : String
  input : JSONValue
  result : RuleResult
  reasonCode : ReasonCode := .ok

abbrev RuleFn : Type := Platform → Mandate → PurchaseIntent → PolicyContext → RuleOutcome

/-- The outcome of a rule that fails with one fixed code. -/
def outcome (rule : String) (traceInput : JSONValue) (ok : Bool) (failCode : ReasonCode) :
    RuleOutcome where
  rule := rule
  input := traceInput
  result := if ok then .pass else .fail
  reasonCode := if ok then .ok else failCode

def currencyMatch : RuleFn := fun _ mandate intent _ =>
  outcome "currency.match"
    (.ofStrings [("mandate", mandate.bounds.currency), ("intent", intent.currency)])
    (intent.currency = mandate.bounds.currency) .currencyMismatch

def categoryAllow : RuleFn := fun _ mandate intent _ =>
  outcome "category.allow"
    (.obj [("requested", .str intent.category),
      ("allowed", .arr (mandate.bounds.allowedCategories.map .str))])
    (intent.category ∈ mandate.bounds.allowedCategories) .categoryNotAllowed

def merchantBlock : RuleFn := fun _ mandate intent _ =>
  outcome "merchant.block"
    (.obj [("merchant", .str intent.merchant),
      ("blocked", .arr (mandate.bounds.blockedMerchants.map .str))])
    (intent.merchant ∉ mandate.bounds.blockedMerchants) .merchantBlocked

/-- The window rule has two codes, one for each side of the window. -/
def temporalWindow : RuleFn := fun P mandate _ ctx =>
  let traceInput := .ofStrings [("now", P.isoformat ctx.now),
    ("not_before", P.isoformat mandate.temporal.notBefore),
    ("expires_at", P.isoformat mandate.temporal.expiresAt)]
  if ctx.now < mandate.temporal.notBefore then
    outcome "temporal.window" traceInput false .mandateNotYetValid
  else if mandate.temporal.expiresAt ≤ ctx.now then
    outcome "temporal.window" traceInput false .mandateExpired
  else { rule := "temporal.window", input := traceInput, result := .pass }

def capUnit : RuleFn := fun _ mandate intent _ =>
  outcome "cap.unit"
    (.obj [("unit", .int intent.unitPriceMinor), ("limit", .int mandate.bounds.maxUnitMinor)])
    (intent.unitPriceMinor ≤ mandate.bounds.maxUnitMinor) .unitCapExceeded

def capTotal : RuleFn := fun _ mandate intent ctx =>
  outcome "cap.total"
    (.obj [("requested", .int intent.totalMinor), ("reserved", .int ctx.reservedMinor),
      ("cap", .int mandate.bounds.maxTotalMinor)])
    (ctx.reservedMinor + intent.totalMinor ≤ mandate.bounds.maxTotalMinor) .budgetExceeded

def capCount : RuleFn := fun _ mandate _ ctx =>
  outcome "cap.count"
    (.obj [("used", .int ctx.txnCount), ("limit", .int mandate.bounds.maxTransactions)])
    (ctx.txnCount < mandate.bounds.maxTransactions) .txnLimitExceeded

def quantityMatch : RuleFn := fun _ mandate intent _ =>
  outcome "quantity.match"
    (.obj [
      ("nights", .obj [("intent", .int intent.nights), ("mandate", .int mandate.intent.nights)]),
      ("rooms", .obj [("intent", .int intent.rooms), ("mandate", .int mandate.intent.rooms)])])
    (intent.nights = mandate.intent.nights ∧ intent.rooms = mandate.intent.rooms)
    .quantityMismatch

def policyRefundable : RuleFn := fun _ mandate intent _ =>
  outcome "policy.refundable"
    (.obj [("item_refundable", .bool intent.refundable),
      ("required", .bool mandate.bounds.requireRefundable)])
    (mandate.bounds.requireRefundable = false ∨ intent.refundable) .refundPolicyViolation

/-- The drift of the current total from the quoted one in basis points, rounded
down as Python's `//` does. -/
def deltaBps (intent : PurchaseIntent) : Int :=
  if intent.quotedTotalMinor = 0 then
    if intent.currentTotalMinor = 0 then 0 else 10000
  else
    Int.fdiv ((intent.currentTotalMinor - intent.quotedTotalMinor).natAbs * 10000)
      intent.quotedTotalMinor

def priceDelta : RuleFn := fun _ mandate intent _ =>
  outcome "price.delta"
    (.obj [("quoted", .int intent.quotedTotalMinor), ("current", .int intent.currentTotalMinor),
      ("bps", .int (deltaBps intent))])
    (deltaBps intent ≤ mandate.bounds.maxPriceDeltaBps) .priceDrift

def catalogFreshness : RuleFn := fun _ _ intent ctx =>
  outcome "catalog.freshness"
    (.obj [("quote", .int intent.catalogVersion), ("ctx", .int ctx.catalogVersion)])
    (intent.catalogVersion = ctx.catalogVersion) .stalePrice

def integrityBinding : RuleFn := fun P mandate intent _ =>
  let specHashOk : Bool := intent.mandateSpecHash = mandate.specHash.getD ""
  let intentHashOk : Bool := intent.intentHash = computeIntentHash P intent
  outcome "integrity.binding"
    (.obj [("mandate_spec_hash_match", .bool specHashOk),
      ("intent_hash_match", .bool intentHashOk)])
    (specHashOk && intentHashOk) .intentMismatch

def rules : List RuleFn := [
  currencyMatch,
  categoryAllow,
  merchantBlock,
  temporalWindow,
  capUnit,
  capTotal,
  capCount,
  quantityMatch,
  policyRefundable,
  priceDelta,
  catalogFreshness,
  integrityBinding]

/-! ## The engine -/

inductive Verdict where
  | allow
  | deny
  deriving DecidableEq, Repr

structure RuleTraceEntry where
  rule : String
  input : JSONValue
  result : RuleResult

structure DecisionRecord where
  decisionId : String
  engineVersion : String
  mandateId : String
  mandateSpecHash : String
  intentHash : String
  verdict : Verdict
  reasonCodes : List ReasonCode
  ruleTrace : List RuleTraceEntry
  evaluatedAt : Time
  ttlS : Int
  inputsDigest : String

def engineVersion : String := "policy/1.0.0"

/-- A hash over the complete input of `evaluate`. -/
def inputsDigest (P : Platform) (mandate : Mandate) (intent : PurchaseIntent)
    (ctx : PolicyContext) : String :=
  let signature := match mandate.signature with
    | some s => .ofStrings [("alg", s.alg), ("key_id", s.keyId), ("value", s.value)]
    | none => .null
  let specFields := match specPayload P mandate with
    | .obj members => members
    | _ => []
  P.prefixedDigest (jcs (.obj [
    ("mandate", .obj (specFields ++ [
      ("spec_hash", (mandate.specHash.map JSONValue.str).getD .null), ("signature", signature)])),
    ("intent", .obj (intentPayload intent ++ [("intent_hash", .str intent.intentHash)])),
    ("ctx", .obj [("now", .str (P.jsonTime ctx.now)), ("reserved_minor", .int ctx.reservedMinor),
      ("txn_count", .int ctx.txnCount), ("catalog_version", .int ctx.catalogVersion),
      ("decision_id", .str ctx.decisionId), ("decision_ttl_s", .int ctx.decisionTtlS)])]))

def evaluate (P : Platform) (mandate : Mandate) (intent : PurchaseIntent) (ctx : PolicyContext) :
    DecisionRecord :=
  let outcomes := rules.map fun rule => rule P mandate intent ctx
  let reasonCodes := (outcomes.filter fun o => o.result = .fail).map RuleOutcome.reasonCode
  { decisionId := ctx.decisionId
    engineVersion := engineVersion
    mandateId := mandate.mandateId
    mandateSpecHash := mandate.specHash.getD ""
    intentHash := intent.intentHash
    verdict := if reasonCodes = [] then .allow else .deny
    reasonCodes := if reasonCodes = [] then [.ok] else reasonCodes
    ruleTrace := outcomes.map fun o => ⟨o.rule, o.input, o.result⟩
    evaluatedAt := ctx.now
    ttlS := ctx.decisionTtlS
    inputsDigest := inputsDigest P mandate intent ctx }

/-- An allowed intent passed every rule. -/
theorem evaluate_allow_iff (P : Platform) (mandate : Mandate) (intent : PurchaseIntent)
    (ctx : PolicyContext) :
    (evaluate P mandate intent ctx).verdict = .allow ↔
      ∀ rule ∈ rules, (rule P mandate intent ctx).result ≠ .fail := by
  simp [evaluate, List.filter_eq_nil_iff]

end Actl.Policy
