import Mathlib.Data.List.Basic

/-!
# Reason codes

The closed registry of `domain/policy/reason_codes.py`.
-/

set_option autoImplicit false

namespace Actl.Policy

inductive ReasonCode where
  | ok
  | currencyMismatch
  | categoryNotAllowed
  | merchantBlocked
  | mandateExpired
  | mandateNotYetValid
  | unitCapExceeded
  | budgetExceeded
  | txnLimitExceeded
  | quantityMismatch
  | refundPolicyViolation
  | priceDrift
  | stalePrice
  | intentMismatch
  | mandateInvalid
  | mandateTampered
  | mandateUnsigned
  | mandateRevoked
  | decisionStale
  | quoteExpired
  | duplicateSuppressed
  | auditUnavailable
  | malformedRequest
  | providerTransient
  | providerTerminal
  | providerDeclined
  | internalError
  | replayedMessage
  | signatureInvalid
  | clockSkew
  | unknownProtocolVersion
  | unknownAlgorithm
  | identityUnknown
  | identityRevoked
  | identityExpired
  | replayCheckUnavailable
  | orderNotFound
  | orderNotSettled
  deriving DecidableEq, Repr

namespace ReasonCode

/-- The text of a code, as it appears in a saga's step and in responses. -/
def value : ReasonCode → String
  | .ok => "OK"
  | .currencyMismatch => "CURRENCY_MISMATCH"
  | .categoryNotAllowed => "CATEGORY_NOT_ALLOWED"
  | .merchantBlocked => "MERCHANT_BLOCKED"
  | .mandateExpired => "MANDATE_EXPIRED"
  | .mandateNotYetValid => "MANDATE_NOT_YET_VALID"
  | .unitCapExceeded => "UNIT_CAP_EXCEEDED"
  | .budgetExceeded => "BUDGET_EXCEEDED"
  | .txnLimitExceeded => "TXN_LIMIT_EXCEEDED"
  | .quantityMismatch => "QUANTITY_MISMATCH"
  | .refundPolicyViolation => "REFUND_POLICY_VIOLATION"
  | .priceDrift => "PRICE_DRIFT"
  | .stalePrice => "STALE_PRICE"
  | .intentMismatch => "INTENT_MISMATCH"
  | .mandateInvalid => "MANDATE_INVALID"
  | .mandateTampered => "MANDATE_TAMPERED"
  | .mandateUnsigned => "MANDATE_UNSIGNED"
  | .mandateRevoked => "MANDATE_REVOKED"
  | .decisionStale => "DECISION_STALE"
  | .quoteExpired => "QUOTE_EXPIRED"
  | .duplicateSuppressed => "DUPLICATE_SUPPRESSED"
  | .auditUnavailable => "AUDIT_UNAVAILABLE"
  | .malformedRequest => "MALFORMED_REQUEST"
  | .providerTransient => "PROVIDER_TRANSIENT"
  | .providerTerminal => "PROVIDER_TERMINAL"
  | .providerDeclined => "PROVIDER_DECLINED"
  | .internalError => "INTERNAL_ERROR"
  | .replayedMessage => "REPLAYED_MESSAGE"
  | .signatureInvalid => "SIGNATURE_INVALID"
  | .clockSkew => "CLOCK_SKEW"
  | .unknownProtocolVersion => "UNKNOWN_PROTOCOL_VERSION"
  | .unknownAlgorithm => "UNKNOWN_ALGORITHM"
  | .identityUnknown => "IDENTITY_UNKNOWN"
  | .identityRevoked => "IDENTITY_REVOKED"
  | .identityExpired => "IDENTITY_EXPIRED"
  | .replayCheckUnavailable => "REPLAY_CHECK_UNAVAILABLE"
  | .orderNotFound => "ORDER_NOT_FOUND"
  | .orderNotSettled => "ORDER_NOT_SETTLED"

end ReasonCode

end Actl.Policy
