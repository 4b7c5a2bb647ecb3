import Actl.Foundation.Sha256
import Actl.Store

/-!
# The fixture of the integration tests

The platform and the store that concrete runs are made on: the real hash
functions and timestamps, the payment simulator's signatures, and the mandate of
`make_locked_mandate` with two items of the catalog and a quote for each.
-/

set_option autoImplicit false

namespace Actl.Fixture

open Foundation (Table Sha256.hash Sha256.hmac Sha256.length_hash)
open Mandates (Mandate MandateSignature)
open Policy (PurchaseIntent DecisionRecord evaluate)

/-! ## Timestamps -/

def padded (width n : Nat) : String :=
  let digits := toString n
  String.ofList (List.replicate (width - digits.length) '0') ++ digits

/-- The date of a day since the epoch in the Gregorian calendar, which repeats
every 400 years of 146097 days. Years are counted from March. -/
def date (day : Nat) : String :=
  let z := day + 719468
  let doe := z % 146097
  let yoe := (doe - doe / 1460 + doe / 36524 - doe / 146096) / 365
  let doy := doe - (365 * yoe + yoe / 4 - yoe / 100)
  let mp := (5 * doy + 2) / 153
  let month := if mp < 10 then mp + 3 else mp - 9
  let year := yoe + z / 146097 * 400 + (if month ≤ 2 then 1 else 0)
  padded 4 year ++ "-" ++ padded 2 month ++ "-" ++ padded 2 (doy - (153 * mp + 2) / 5 + 1)

/-- A timestamp since the epoch up to its zone; the fraction is left out when it
is zero. -/
def timestamp (t : Time) : String :=
  let n := t.toNat
  let second := n / 1000000
  date (second / 86400) ++ "T" ++ padded 2 (second / 3600 % 24) ++ ":"
    ++ padded 2 (second / 60 % 60) ++ ":" ++ padded 2 (second % 60)
    ++ (if n % 1000000 = 0 then "" else "." ++ padded 6 (n % 1000000))

/-! ## The platform -/

def sha256 (message : Bytes) : Digest := ⟨Sha256.hash message, Sha256.length_hash message⟩

def hmacSha256 (key message : Bytes) : Digest :=
  ⟨Sha256.hmac key message, Sha256.length_hash _⟩

/-- `sign_spec_hash` over the pair, as the simulator signs a checkout. -/
def buildCheckoutPayload (orderId paymentId : String) : String :=
  hex (hmacSha256 (encode "simulator-checkout-secret") (encode (orderId ++ "|" ++ paymentId))).val

/-- `str()` of the values that stand for a payment id. -/
def pyStr : JSONValue → String
  | .null => "None"
  | .bool true => "True"
  | .bool false => "False"
  | .int value => toString value
  | .str value => value
  | _ => ""

def platform : Platform where
  sha256 := sha256
  hmacSha256 := hmacSha256
  isoformat t := timestamp t ++ "+00:00"
  jsonTime t := timestamp t ++ "Z"
  pyStr := pyStr
  verifyCheckoutSignature orderId paymentId signature :=
    orderId ≠ "" ∧ paymentId ≠ "" ∧ signature ≠ "" ∧
      buildCheckoutPayload orderId paymentId = signature
  verifyWebhook rawBody signature :=
    signature ≠ "" ∧ hex (hmacSha256 (encode "simulator-webhook-secret") rawBody).val = signature
  buildCheckoutPayload := some buildCheckoutPayload
  settings := .default

/-! ## The store -/

/-- `make_locked_mandate`. -/
def mandate : Mandate where
  mandateId := "mdt_1"
  version := 1
  principal := ⟨"human", "usr_test"⟩
  delegate := ⟨"agent", "agt_test", "ed25519:test"⟩
  intent := ⟨"travel.hotel", "Goa, IN", "2026-09-12", 3, 1⟩
  bounds :=
    { currency := "INR"
      maxTotalMinor := 900000
      maxUnitMinor := 300000
      maxTransactions := 1
      allowedCategories := ["travel.hotel"]
      blockedMerchants := []
      requireRefundable := true
      maxPriceDeltaBps := 0 }
  temporal := ⟨1767225600000000, 1798761600000000, 120⟩
  controls := ⟨true, true⟩
  specHash := some "sha256:6fb4cfd33dbf10d6f97a302b98e0953eb5ac41ce5767f8f799df11ea35b0b557"
  signature := some ⟨"HMAC-SHA256", "mk_1",
    "94944352e17c0ddba6663592fb0ae9cb9b672f60cbced38adfc6b3aa64dc35e2"⟩

/-- The mandate carries the hash and the seal that the code computes for it. -/
theorem mandate_sealed :
    Mandates.verifySpecHash platform mandate = true ∧
      Mandates.verifySignature platform
        "sha256:6fb4cfd33dbf10d6f97a302b98e0953eb5ac41ce5767f8f799df11ea35b0b557"
        platform.settings.mandateSigningKey
        "94944352e17c0ddba6663592fb0ae9cb9b672f60cbced38adfc6b3aa64dc35e2" = true := by
  decide +kernel

def row : MandateRow where
  mandate := mandate
  status := .locked
  plainId := by decide
  capPositive := by decide

/-- Two items of the catalog. -/
def seaView : CatalogItemRecord where
  sku := "HTL-GOA-SEA-DLX"
  category := "travel.hotel"
  merchantId := "mrc_seabreeze"
  unitPriceMinor := 140000
  availableUnits := 6
  refundable := true

def budgetRoom : CatalogItemRecord where
  sku := "HTL-GOA-BUDGET-RM"
  category := "travel.hotel"
  merchantId := "mrc_budgetstay"
  unitPriceMinor := 95000
  availableUnits := 15
  refundable := true

/-- `seed_quote`. -/
def quoteOf (id quoteHash : String) (item : CatalogItemRecord) : QuoteRecord where
  id := id
  mandateId := "mdt_1"
  sku := item.sku
  unitPriceMinor := item.unitPriceMinor
  nights := 3
  totalMinor := item.unitPriceMinor * 3
  currency := "INR"
  catalogVersion := 1
  refundable := true
  quoteHash := quoteHash
  expiresAt := 1767226200000000

def seaViewQuote : QuoteRecord :=
  quoteOf "qte_1" "sha256:d4c3b32cc9e6734e21a286656f3039d1f6d34db58ef4af5e95062fe1d6d7b0dd" seaView

def budgetRoomQuote : QuoteRecord :=
  quoteOf "qte_2" "sha256:c09536511adbec1899f9bd23f0998d246d25ef9c3438de001b0f9869eab9841b"
    budgetRoom

/-- The intent that goes with a quote. -/
def intentOf (item : CatalogItemRecord) (intentHash : String) : PurchaseIntent where
  currency := "INR"
  category := item.category
  merchant := item.merchantId
  unitPriceMinor := item.unitPriceMinor
  totalMinor := item.unitPriceMinor * 3
  nights := 3
  rooms := 1
  refundable := true
  quotedTotalMinor := item.unitPriceMinor * 3
  currentTotalMinor := item.unitPriceMinor * 3
  catalogVersion := 1
  mandateSpecHash := "sha256:6fb4cfd33dbf10d6f97a302b98e0953eb5ac41ce5767f8f799df11ea35b0b557"
  intentHash := intentHash

def seaViewHash : String :=
  "sha256:45da80c28677ca39d938fd1629aaab44c782e1c822ad514c269f0619a3a6a4d1"

def budgetRoomHash : String :=
  "sha256:38677db95517522bd8081c4f2887dc78a7c4de1a193f0c90418a29fe72d3e0a7"

/-- One minute into the validity of the mandate. -/
def start : Time := 1767225660000000

/-- The decision of the policy about the first quote. -/
def seaViewDecision : DecisionRecord :=
  evaluate platform mandate (intentOf seaView seaViewHash)
    { now := start, reservedMinor := 0, txnCount := 0, catalogVersion := 1
      decisionId := "dec_1", decisionTtlS := 30 }

/-- The store with the mandate, the catalog and the two quotes. -/
def database : Database :=
  { Database.empty ⟨[row], by simp⟩ with
    quotes := ⟨[seaViewQuote, budgetRoomQuote], by decide⟩
    items := ⟨[seaView, budgetRoom], by decide⟩ }

/-- The store with the first decision as well. -/
def decided : Database := { database with decisions := ⟨[seaViewDecision], by simp⟩ }

end Actl.Fixture
