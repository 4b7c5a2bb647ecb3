import Actl.Audit.Canonical

/-!
# Mandates

A mandate is authority as data: what may be bought, within which bounds, and
until when. `compute_spec_hash` hashes the canonical JSON of every field except
the hash and the signature, and the signature is an HMAC over that hash.
-/

set_option autoImplicit false

namespace Actl.Mandates

open Audit (jcs)

structure Principal where
  type : String
  id : String
  deriving DecidableEq

structure Delegate where
  type : String
  id : String
  keyId : String
  deriving DecidableEq

structure MandateIntent where
  category : String
  location : String
  checkIn : String
  nights : Int
  rooms : Int
  deriving DecidableEq

structure MandateBounds where
  currency : String
  maxTotalMinor : Int
  maxUnitMinor : Int
  maxTransactions : Int
  allowedCategories : List String
  blockedMerchants : List String
  requireRefundable : Bool
  maxPriceDeltaBps : Int
  deriving DecidableEq

structure MandateTemporal where
  notBefore : Time
  expiresAt : Time
  quoteTtlS : Int
  deriving DecidableEq

structure MandateControls where
  humanConfirmRequired : Bool
  revocable : Bool
  deriving DecidableEq

structure MandateSignature where
  alg : String
  keyId : String
  value : String
  deriving DecidableEq

structure Mandate where
  mandateId : String
  version : Int
  principal : Principal
  delegate : Delegate
  intent : MandateIntent
  bounds : MandateBounds
  temporal : MandateTemporal
  controls : MandateControls
  specHash : Option String := none
  signature : Option MandateSignature := none
  deriving DecidableEq

/-! ## The spec hash and its seal -/

/-- `model_dump(mode="json", by_alias=True, exclude={"spec_hash", "signature"})`. -/
def specPayload (P : Platform) (m : Mandate) : JSONValue :=
  .obj [
    ("schema", .str "actl.mandate/v1"),
    ("mandate_id", .str m.mandateId),
    ("version", .int m.version),
    ("principal", .obj [("type", .str m.principal.type), ("id", .str m.principal.id)]),
    ("delegate", .obj [("type", .str m.delegate.type), ("id", .str m.delegate.id),
      ("key_id", .str m.delegate.keyId)]),
    ("intent", .obj [("category", .str m.intent.category), ("location", .str m.intent.location),
      ("check_in", .str m.intent.checkIn), ("nights", .int m.intent.nights),
      ("rooms", .int m.intent.rooms)]),
    ("bounds", .obj [("currency", .str m.bounds.currency),
      ("max_total_minor", .int m.bounds.maxTotalMinor),
      ("max_unit_minor", .int m.bounds.maxUnitMinor),
      ("max_transactions", .int m.bounds.maxTransactions),
      ("allowed_categories", .arr (m.bounds.allowedCategories.map .str)),
      ("blocked_merchants", .arr (m.bounds.blockedMerchants.map .str)),
      ("require_refundable", .bool m.bounds.requireRefundable),
      ("max_price_delta_bps", .int m.bounds.maxPriceDeltaBps)]),
    ("temporal", .obj [("not_before", .str (P.jsonTime m.temporal.notBefore)),
      ("expires_at", .str (P.jsonTime m.temporal.expiresAt)),
      ("quote_ttl_s", .int m.temporal.quoteTtlS)]),
    ("controls", .obj [("human_confirm_required", .bool m.controls.humanConfirmRequired),
      ("revocable", .bool m.controls.revocable)])]

def computeSpecHash (P : Platform) (m : Mandate) : String :=
  P.prefixedDigest (jcs (specPayload P m))

def verifySpecHash (P : Platform) (m : Mandate) : Bool :=
  m.specHash = some (computeSpecHash P m)

def signSpecHash (P : Platform) (specHash key : String) : String :=
  hex (P.hmacSha256 (encode key) (encode specHash)).val

def verifySignature (P : Platform) (specHash key signatureValue : String) : Bool :=
  signSpecHash P specHash key = signatureValue

end Actl.Mandates
