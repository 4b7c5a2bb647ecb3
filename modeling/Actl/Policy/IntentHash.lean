import Mathlib.Data.Set.Function
import Actl.Audit.Separation
import Actl.Audit.Verification
import Actl.Payments.Service

/-!
# What the intent hash and the idempotency key separate

An idempotency key is half a digest of a mandate id and an intent hash, and an
intent hash is the digest of the canonical text of an intent. Where these halves
do not collide, a key determines the mandate and every field of the intent
(`key_separates`). The sku is not a field of the intent.
-/

set_option autoImplicit false

namespace Actl.Policy

open Audit (jcs encodeString Comparable CommonKeys members_of_jcs_eq hex_injective
  prefixedDigest_injective)
open Payments (computeIdempotencyKey)

/-- The bytes of a digest that go into an idempotency key. -/
def leading (P : Platform) (text : Bytes) : Bytes := (P.sha256 text).val.take 16

/-- The text that an intent hash is the digest of. -/
def intentText (intent : PurchaseIntent) : Bytes := jcs (.obj (intentPayload intent))

/-- The text that an idempotency key is made of. -/
def keyText (mandateId intentHash : String) (attemptNo : Int) : Bytes :=
  encode mandateId ++ encode "|" ++ encode intentHash ++ encode "|" ++ encode (toString attemptNo)

/-- The same purchase, whatever hash is attached. -/
def PurchaseIntent.SameTerms (intent intent' : PurchaseIntent) : Prop :=
  { intent with intentHash := "" } = { intent' with intentHash := "" }

theorem key_eq {P : Platform} {mandateId mandateId' intentHash intentHash' : String}
    {attemptNo attemptNo' : Int}
    (same : computeIdempotencyKey P mandateId intentHash attemptNo
      = computeIdempotencyKey P mandateId' intentHash' attemptNo') :
    leading P (keyText mandateId intentHash attemptNo)
      = leading P (keyText mandateId' intentHash' attemptNo') := by
  have texts := congrArg String.toList same
  simp only [computeIdempotencyKey, String.toList_append, List.append_cancel_left_eq] at texts
  exact hex_injective (String.toList_inj.mp texts)

/-! ## The key's text -/

theorem length_encode_digit {n : Nat} (bound : n < 16) :
    (String.utf8EncodeChar (Nat.digitChar n)).length = 1 := by
  revert n
  decide

theorem length_encode_hex (bytes : Bytes) : (encode (hex bytes)).length = 2 * bytes.length := by
  rw [encode_eq_flatMap, hex, String.toList_ofList]
  induction bytes with
  | nil => rfl
  | cons b bytes ih =>
      have bound : b.toNat < 256 := b.toNat_lt
      have high : b.toNat / 16 < 16 := by omega
      have low : b.toNat % 16 < 16 := by omega
      simp only [List.flatMap_cons, List.flatMap_append, List.length_append, ih,
        List.flatMap_nil, length_encode_digit high, length_encode_digit low, List.length_cons,
        List.length_nil]
      omega

/-- All intent hashes are equally long. -/
theorem length_encode_prefixedDigest (P : Platform) (text : Bytes) :
    (encode (P.prefixedDigest text)).length = (encode "sha256:").length + 64 := by
  rw [Platform.prefixedDigest, Platform.hexdigest, encode_append, List.length_append,
    length_encode_hex, (P.sha256 text).property]

/-- The text of a key determines the mandate and the intent hash. -/
theorem keyText_separates {mandateId mandateId' hash hash' : String} {attemptNo : Int}
    (long : (encode hash).length = (encode hash').length)
    (same : keyText mandateId hash attemptNo = keyText mandateId' hash' attemptNo) :
    mandateId = mandateId' ∧ hash = hash' := by
  simp only [keyText, List.append_assoc] at same
  have ends : (encode "|" ++ (encode hash ++ (encode "|" ++ encode (toString attemptNo)))).length
      = (encode "|" ++ (encode hash' ++ (encode "|" ++ encode (toString attemptNo)))).length := by
    simp only [List.length_append, long]
  obtain ⟨mandates, tails⟩ := List.append_inj' same ends
  obtain ⟨hashes, -⟩ := List.append_inj (List.append_cancel_left tails) long
  exact ⟨encode_injective mandates, encode_injective hashes⟩

/-! ## The intent's text -/

/-- The members of two intents. -/
def bothIntents (intent intent' : PurchaseIntent) : CommonKeys := [
  ("currency", .str intent.currency, .str intent'.currency),
  ("category", .str intent.category, .str intent'.category),
  ("merchant", .str intent.merchant, .str intent'.merchant),
  ("unit_price_minor", .int intent.unitPriceMinor, .int intent'.unitPriceMinor),
  ("total_minor", .int intent.totalMinor, .int intent'.totalMinor),
  ("nights", .int intent.nights, .int intent'.nights),
  ("rooms", .int intent.rooms, .int intent'.rooms),
  ("refundable", .bool intent.refundable, .bool intent'.refundable),
  ("quoted_total_minor", .int intent.quotedTotalMinor, .int intent'.quotedTotalMinor),
  ("current_total_minor", .int intent.currentTotalMinor, .int intent'.currentTotalMinor),
  ("catalog_version", .int intent.catalogVersion, .int intent'.catalogVersion),
  ("mandate_spec_hash", .str intent.mandateSpecHash, .str intent'.mandateSpecHash)]

/-- The text of an intent determines every field that goes into it. -/
theorem intentText_separates {intent intent' : PurchaseIntent}
    (same : intentText intent = intentText intent') : intent.SameTerms intent' := by
  have equal := members_of_jcs_eq (bothIntents intent intent')
    (fun m member => by
      simp only [bothIntents, List.mem_cons, List.not_mem_nil, or_false] at member
      rcases member with rfl | rfl | rfl | rfl | rfl | rfl | rfl | rfl | rfl | rfl | rfl | rfl <;>
        constructor) same
  simp only [bothIntents, List.forall_mem_cons, JSONValue.str.injEq, JSONValue.int.injEq,
    JSONValue.bool.injEq, List.not_mem_nil, false_implies, implies_true, and_true] at equal
  simp only [PurchaseIntent.SameTerms, equal]

/-- Where the halved digests do not collide, equal keys are keys of one mandate
and of the same purchase. -/
theorem key_separates {P : Platform} {texts : Set Bytes}
    (collisionFree : Set.InjOn (leading P) texts) {mandateId mandateId' : String}
    {intent intent' : PurchaseIntent} {attemptNo : Int}
    (hashed : intentText intent ∈ texts) (hashed' : intentText intent' ∈ texts)
    (keyed : keyText mandateId (computeIntentHash P intent) attemptNo ∈ texts)
    (keyed' : keyText mandateId' (computeIntentHash P intent') attemptNo ∈ texts)
    (same : computeIdempotencyKey P mandateId (computeIntentHash P intent) attemptNo
      = computeIdempotencyKey P mandateId' (computeIntentHash P intent') attemptNo) :
    mandateId = mandateId' ∧ computeIntentHash P intent = computeIntentHash P intent' ∧
      intent.SameTerms intent' := by
  have long : (encode (computeIntentHash P intent)).length
      = (encode (computeIntentHash P intent')).length := by
    simp only [computeIntentHash, length_encode_prefixedDigest]
  obtain ⟨mandates, hashes⟩ := keyText_separates long (collisionFree keyed keyed' (key_eq same))
  refine ⟨mandates, hashes, intentText_separates ?_⟩
  have digests : P.sha256 (intentText intent) = P.sha256 (intentText intent') :=
    prefixedDigest_injective hashes
  exact collisionFree hashed hashed' (by simp only [leading, digests])

end Actl.Policy
