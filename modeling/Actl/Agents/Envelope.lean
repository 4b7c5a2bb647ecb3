import Actl.Audit.Loaded
import Actl.Audit.Tables
import Actl.Fixture
import Actl.Foundation.Expiring
import Actl.Policy.ReasonCodes

/-!
# Agent envelopes

`verify_envelope` admits a message of another agent: its protocol and algorithm
are known, the identity behind its key is the claimed sender's and valid, the
signature verifies, its `msg_id` was not claimed before, and its timestamp is near
the clock, in this order. The claim is a key in a cache that forgets it after ten
minutes, so that the window of the last check is what makes the forgetting safe:
`replay_protection`.

A timestamp may lack its offset and a body its canonical text, and verification raises
on both where it comes to need them.

The Ed25519 library, three renderings of the standard library and the test-only
setting are parameters, as is the identity registry, which may change between
deliveries.
-/

set_option autoImplicit false

namespace Actl.Agents

open Foundation (CodeText Expiring)
open Audit (LoadedValue)
open Policy (ReasonCode)

/-! ## Envelopes -/

inductive MessageType where
  | capabilityDiscover
  | catalogQuery
  | quoteRequest
  | orderPropose
  | orderStatus
  | receiptIssue
  | error
  deriving DecidableEq, Repr

def MessageType.text : MessageType → String
  | .capabilityDiscover => "capability.discover"
  | .catalogQuery => "catalog.query"
  | .quoteRequest => "quote.request"
  | .orderPropose => "order.propose"
  | .orderStatus => "order.status"
  | .receiptIssue => "receipt.issue"
  | .error => "error"

structure SignatureBlock where
  alg : String
  keyId : String
  value : String

/-- A `datetime`: its reading, and the offset from UTC unless it is naive. -/
structure Datetime where
  reading : Time
  utcoffset : Option Time
  deriving DecidableEq

namespace Datetime

def utc (time : Time) : Datetime := ⟨time, some 0⟩

/-- The time it is, which a naive one does not tell. -/
def instant? (datetime : Datetime) : Option Time :=
  datetime.utcoffset.map fun offset => datetime.reading - offset

end Datetime

structure AgentEnvelope where
  protocol : String
  msgId : String
  ts : Datetime
  from_ : String
  to_ : String
  corrId : String
  type : MessageType
  body : LoadedValue
  sig : Option SignatureBlock

/-- A text without NUL, the one character the database refuses. -/
def NulFree (text : String) : Prop := Char.ofNat 0 ∉ text.toList

instance (text : String) : Decidable (NulFree text) := inferInstanceAs (Decidable (¬ _))

structure AgentIdentityRecord where
  agentId : String
  keyId : String
  alg : String
  notBefore : Time
  expiresAt : Time
  status : String
  publicKeyHex : Option String
  hmacSecret : Option String

/-- What the pipeline takes from outside. -/
structure AgentPlatform extends Platform where
  /-- `Ed25519PublicKey.from_public_bytes`, and whether `verify` accepts a signature
  of a message. -/
  ed25519PublicKey : Bytes → Except Failure (Bytes → Bytes → Bool)
  /-- `repr()` of a string. -/
  pyRepr : String → String
  /-- The seconds of a time, with one decimal. -/
  tenths : Time → String
  /-- A datetime in a `model_dump(mode="json")`. -/
  jsonDatetime : Datetime → String
  agentEnvelopeHmacTestOnly : Bool

/-- The members of an envelope before its body. -/
def headMembers (A : AgentPlatform) (envelope : AgentEnvelope) : List (String × JSONValue) :=
  [("protocol", .str envelope.protocol), ("msg_id", .str envelope.msgId),
    ("ts", .str (A.jsonDatetime envelope.ts)), ("from", .str envelope.from_),
    ("to", .str envelope.to_), ("corr_id", .str envelope.corrId),
    ("type", .str envelope.type.text)]

/-- `_signable_payload`. -/
def signablePayload (A : AgentPlatform) (envelope : AgentEnvelope) : LoadedValue :=
  .obj (LoadedValue.ofMembers (headMembers A envelope) ++
    [(CodeText.ofString "body", envelope.body)])

/-- `canonical_signing_bytes`. -/
def canonicalSigningBytes (A : AgentPlatform) (envelope : AgentEnvelope) : Except Failure Bytes :=
  (signablePayload A envelope).canonicalBytes

/-- `is_known_protocol_version`. -/
def isKnownProtocolVersion (protocol : String) : Bool :=
  let name := protocol.toList.takeWhile fun c => c ≠ '/'
  let version := (protocol.toList.dropWhile fun c => c ≠ '/').tail
  let major := version.takeWhile fun c => c ≠ '.'
  '/' ∈ protocol.toList ∧ name = "actl.acp".toList ∧ major = "1".toList

/-- `is_known_algorithm`. -/
def isKnownAlgorithm (alg : String) : Bool := alg = "Ed25519" ∨ alg = "HMAC-SHA256"

/-- `sign_envelope_ed25519`. -/
def signEnvelopeEd25519 (A : AgentPlatform) (envelope : AgentEnvelope) (sign : Bytes → Bytes)
    (keyId : String) : Except Failure AgentEnvelope := do
  let signingBytes ← canonicalSigningBytes A envelope
  return { envelope with sig := some ⟨"Ed25519", keyId, hex (sign signingBytes)⟩ }

/-- `verify_envelope_ed25519`. -/
def verifyEnvelopeEd25519 (A : AgentPlatform) (envelope : AgentEnvelope)
    (publicKey : Bytes → Bytes → Bool) : Except Failure Bool :=
  match envelope.sig with
  | none => .ok false
  | some sig =>
      if sig.alg ≠ "Ed25519" then .ok false
      else
        match Audit.fromHex sig.value.toList with
        | none => .ok false
        | some signature => do
            let signingBytes ← canonicalSigningBytes A envelope
            return publicKey signature signingBytes

/-- `sign_envelope_hmac`. -/
def signEnvelopeHmac (A : AgentPlatform) (envelope : AgentEnvelope) (key : Bytes)
    (keyId : String) : Except Failure AgentEnvelope := do
  let signingBytes ← canonicalSigningBytes A envelope
  return { envelope with
    sig := some ⟨"HMAC-SHA256", keyId, hex (A.hmacSha256 key signingBytes).val⟩ }

/-- `verify_envelope_hmac`, in which `compare_digest` refuses text that is not
ASCII. -/
def verifyEnvelopeHmac (A : AgentPlatform) (envelope : AgentEnvelope) (key : Bytes) :
    Except Failure Bool :=
  match envelope.sig with
  | none => .ok false
  | some sig =>
      if sig.alg ≠ "HMAC-SHA256" then .ok false
      else do
        let signingBytes ← canonicalSigningBytes A envelope
        if sig.value.toList.all fun c => c.toNat < 128 then
          return hex (A.hmacSha256 key signingBytes).val = sig.value
        else throw (.other "comparing strings with non-ASCII characters is not supported")

/-- An envelope around a value with a canonical text has signing bytes. -/
theorem canonicalSigningBytes_ofJson {A : AgentPlatform} {envelope : AgentEnvelope}
    {body : JSONValue} (plain : envelope.body = .ofJson body) :
    canonicalSigningBytes A envelope
      = .ok (Audit.jcs (.obj (headMembers A envelope ++ [("body", body)]))) := by
  have same : signablePayload A envelope
      = .ofJson (.obj (headMembers A envelope ++ [("body", body)])) := by
    rw [signablePayload, plain, LoadedValue.ofJson, LoadedValue.ofMembers_append]
    rfl
  rw [canonicalSigningBytes, same, LoadedValue.canonicalBytes_ofJson]

/-- Such an envelope can be signed. -/
theorem signEnvelopeEd25519_ofJson {A : AgentPlatform} {envelope : AgentEnvelope}
    {body : JSONValue} (plain : envelope.body = .ofJson body) (sign : Bytes → Bytes)
    (keyId : String) : signEnvelopeEd25519 A envelope sign keyId = .ok { envelope with
      sig := some ⟨"Ed25519", keyId,
        hex (sign (Audit.jcs (.obj (headMembers A envelope ++ [("body", body)]))))⟩ } := by
  rw [signEnvelopeEd25519, canonicalSigningBytes_ofJson plain]
  rfl

/-! ## The nonce cache -/

def nonceTtlS : Int := 600

/-- The replay cache, by key. -/
abbrev NonceStore : Type := Expiring String Time

/-- `_key`. -/
def nonceKey (msgId : String) : String := "actl:nonce:" ++ msgId

/-- What becomes of a command sent to the cache: it is answered, or the connection
fails before or after it took effect. -/
inductive Connection where
  | answered
  | failed (applied : Bool) (message : String)
  deriving DecidableEq

/-- `NonceCache.claim`: whether the claim won, or the error that kept the cache from
answering. -/
def NonceStore.claim (store : NonceStore) (connection : Connection) (now : Time)
    (msgId : String) : Except String Bool × NonceStore :=
  let (won, claimed) := Expiring.claim store (nonceKey msgId) now (now + seconds nonceTtlS)
  match connection with
  | .answered => (.ok won, claimed)
  | .failed true message => (.error message, claimed)
  | .failed false message => (.error message, store)

/-! ## Verification -/

def skewWindowS : Int := 120

structure EnvelopeVerified where
  envelope : AgentEnvelope
  identityAgentId : String

structure EnvelopeRejected where
  reasonCode : ReasonCode
  message : String
  retryable : Bool := false

abbrev EnvelopeVerificationResult : Type := EnvelopeRejected ⊕ EnvelopeVerified

/-- A delivery of an envelope: the reading of the clock, the identity registry and
the connection to the cache it meets. -/
structure Delivery where
  envelope : AgentEnvelope
  now : Time
  identities : String → Except Failure (Option AgentIdentityRecord)
  connection : Connection

/-- The signature under the key of the identity. -/
def verifySignature (A : AgentPlatform) (envelope : AgentEnvelope) (sig : SignatureBlock)
    (identity : AgentIdentityRecord) : Except Failure Bool :=
  let publicKeyHex := identity.publicKeyHex.getD ""
  let hmacSecret := identity.hmacSecret.getD ""
  if identity.alg = "Ed25519" ∧ sig.alg = "Ed25519" ∧ publicKeyHex ≠ "" then
    match Audit.fromHex publicKeyHex.toList with
    | none => .error .valueError
    | some bytes => do
        let publicKey ← A.ed25519PublicKey bytes
        verifyEnvelopeEd25519 A envelope publicKey
  else if identity.alg = "HMAC-SHA256" ∧ sig.alg = "HMAC-SHA256" ∧ hmacSecret ≠ "" then
    verifyEnvelopeHmac A envelope (encode hmacSecret)
  else .ok false

/-- The checks before the nonce is claimed: the identity the envelope verifies
under, or the rejection. -/
def verifySender (A : AgentPlatform) (delivery : Delivery) :
    Except Failure (EnvelopeRejected ⊕ AgentIdentityRecord) :=
  let envelope := delivery.envelope
  if ¬ isKnownProtocolVersion envelope.protocol then
    .ok (.inl { reasonCode := .unknownProtocolVersion
                message := s!"unsupported protocol {A.pyRepr envelope.protocol}" })
  else
    match envelope.sig with
    | none =>
        .ok (.inl { reasonCode := .unknownAlgorithm
                    message := "unsupported signature algorithm " ++ A.pyRepr "<missing>" })
    | some sig =>
        if ¬ isKnownAlgorithm sig.alg then
          .ok (.inl { reasonCode := .unknownAlgorithm
                      message := s!"unsupported signature algorithm {A.pyRepr sig.alg}" })
        else if sig.alg = "HMAC-SHA256" ∧ ¬ A.agentEnvelopeHmacTestOnly then
          .ok (.inl {
            reasonCode := .unknownAlgorithm
            message := "HMAC-SHA256 envelope signing is disabled outside test-only configuration" })
        else do
          match ← delivery.identities sig.keyId with
          | none =>
              return .inl { reasonCode := .identityUnknown
                            message := "unknown key_id or agent/key_id mismatch" }
          | some identity =>
              if identity.agentId ≠ envelope.from_ then
                return .inl { reasonCode := .identityUnknown
                              message := "unknown key_id or agent/key_id mismatch" }
              else if identity.status = "REVOKED" then
                return .inl { reasonCode := .identityRevoked
                              message := s!"identity {identity.agentId} is revoked" }
              else if delivery.now < identity.notBefore ∨ identity.expiresAt ≤ delivery.now then
                return .inl { reasonCode := .identityExpired
                              message := s!"identity {identity.agentId} is expired" }
              else do
                let verified ← verifySignature A envelope sig identity
                if verified then return .inr identity
                else
                  return .inl { reasonCode := .signatureInvalid
                                message := "envelope signature verification failed" }

/-- The `TypeError` of subtracting a naive datetime from the clock's. -/
def subtractionFailure : Failure :=
  .other "can't subtract offset-naive and offset-aware datetimes"

/-- The time between two timestamps. -/
def skew (now ts : Time) : Time := (now - ts).natAbs

/-- `verify_envelope`. -/
def verifyEnvelope (A : AgentPlatform) (store : NonceStore) (delivery : Delivery) :
    Except Failure EnvelopeVerificationResult × NonceStore :=
  let envelope := delivery.envelope
  match verifySender A delivery with
  | .error failure => (.error failure, store)
  | .ok (.inl rejected) => (.ok (.inl rejected), store)
  | .ok (.inr identity) =>
      match store.claim delivery.connection delivery.now envelope.msgId with
      | (.error message, store) =>
          (.ok (.inl { reasonCode := .replayCheckUnavailable
                       message := s!"replay protection unavailable: {message}"
                       retryable := true }), store)
      | (.ok false, store) =>
          (.ok (.inl { reasonCode := .replayedMessage
                       message := s!"msg_id {envelope.msgId} already seen" }), store)
      | (.ok true, store) =>
          match envelope.ts.instant? with
          | none => (.error subtractionFailure, store)
          | some ts =>
              let skewS := skew delivery.now ts
              if seconds skewWindowS < skewS then
                (.ok (.inl { reasonCode := .clockSkew
                             message := s!"timestamp skew {A.tenths skewS}s exceeds " ++
                               s!"{skewWindowS}s" }), store)
              else (.ok (.inr ⟨envelope, identity.agentId⟩), store)

/-- The answers to a sequence of deliveries. -/
def verifyEnvelopes (A : AgentPlatform) :
    NonceStore → List Delivery → List (Except Failure EnvelopeVerificationResult)
  | _, [] => []
  | store, delivery :: later =>
      let (answer, store) := verifyEnvelope A store delivery
      answer :: verifyEnvelopes A store later

/-! ## Replay -/

section Replay

variable {A : AgentPlatform} {store : NonceStore} {delivery : Delivery}

/-- The key under which the nonce of a delivery is claimed. -/
def Delivery.key (delivery : Delivery) : String := nonceKey delivery.envelope.msgId

/-- A claim sent to the cache leaves it as it was or with the claim applied. -/
theorem claim_cases (store : NonceStore) (connection : Connection) (now : Time) (msgId : String) :
    (store.claim connection now msgId).2 = store ∨
      (store.claim connection now msgId).2 =
        (Expiring.claim store (nonceKey msgId) now (now + seconds nonceTtlS)).2 := by
  cases connection with
  | answered => exact .inr rfl
  | failed applied message =>
      cases applied with
      | false => exact .inl rfl
      | true => exact .inr rfl

/-- So does verification as a whole. -/
theorem verifyEnvelope_store (A : AgentPlatform) (store : NonceStore) (delivery : Delivery) :
    (verifyEnvelope A store delivery).2 = store ∨
      (verifyEnvelope A store delivery).2 =
        (Expiring.claim store delivery.key delivery.now
          (delivery.now + seconds nonceTtlS)).2 := by
  have claimed := claim_cases store delivery.connection delivery.now delivery.envelope.msgId
  rw [verifyEnvelope]
  split
  next => exact .inl rfl
  next => exact .inl rfl
  next identity sender =>
    split
    next message after reached =>
      rw [reached] at claimed
      exact claimed
    next after reached =>
      rw [reached] at claimed
      exact claimed
    next after reached =>
      rw [reached] at claimed
      dsimp only
      split
      next => exact claimed
      next =>
        split
        next => exact claimed
        next => exact claimed

/-- An accepted envelope won its claim and is near the clock. -/
theorem verifyEnvelope_accepted {verified : EnvelopeVerified}
    (accepted : (verifyEnvelope A store delivery).1 = .ok (.inr verified)) :
    (Expiring.claim store delivery.key delivery.now (delivery.now + seconds nonceTtlS)).1 = true ∧
      (verifyEnvelope A store delivery).2 =
        (Expiring.claim store delivery.key delivery.now
          (delivery.now + seconds nonceTtlS)).2 ∧
      ∃ ts, delivery.envelope.ts.instant? = some ts ∧
        skew delivery.now ts ≤ seconds skewWindowS := by
  rw [verifyEnvelope] at accepted ⊢
  split at accepted
  next => cases accepted
  next => cases accepted
  next identity sender =>
    cases answered : delivery.connection with
    | failed applied message =>
        rw [answered] at accepted
        cases applied with
        | false => cases accepted
        | true => cases accepted
    | answered =>
        rw [answered] at accepted
        have reached : store.claim .answered delivery.now delivery.envelope.msgId =
          (.ok (Expiring.claim store delivery.key delivery.now
              (delivery.now + seconds nonceTtlS)).1,
            (Expiring.claim store delivery.key delivery.now
              (delivery.now + seconds nonceTtlS)).2) := rfl
        rw [reached] at accepted ⊢
        cases won : (Expiring.claim store delivery.key delivery.now
            (delivery.now + seconds nonceTtlS)).1 with
        | false =>
            rw [won] at accepted
            cases accepted
        | true =>
            rw [won] at accepted
            dsimp only at accepted ⊢
            cases told : delivery.envelope.ts.instant? with
            | none =>
                rw [told] at accepted
                cases accepted
            | some ts =>
                rw [told] at accepted
                dsimp only at accepted ⊢
                split at accepted
                next => cases accepted
                next near =>
                  rw [if_neg near]
                  exact ⟨rfl, rfl, ts, rfl, Int.not_lt.mp near⟩

/-- A claim stays in the cache over a delivery. -/
theorem keptUntil_verifyEnvelope {key : String} {time : Time} (kept : store.KeptUntil key time)
    (early : delivery.now < time) : (verifyEnvelope A store delivery).2.KeptUntil key time := by
  rcases verifyEnvelope_store A store delivery with same | claimed
  · rw [same]
    exact kept
  · rw [claimed]
    exact kept.claim early

/-- While its claim is in the cache, an envelope is not accepted again. -/
theorem not_accepted_of_kept {deliveries : List Delivery} {time : Time} {key : String}
    (kept : store.KeptUntil key time)
    (ordered : deliveries.Pairwise fun earlier later => earlier.now ≤ later.now) {j : Nat}
    (found : deliveries[j]? = some delivery) (same : delivery.key = key)
    (early : delivery.now < time) (verified : EnvelopeVerified) :
    (verifyEnvelopes A store deliveries)[j]? ≠ some (.ok (.inr verified)) := by
  intro accepted
  induction deliveries generalizing store j with
  | nil => cases found
  | cons first later ih =>
      rw [List.pairwise_cons] at ordered
      cases j with
      | zero =>
          cases found
          have won := (verifyEnvelope_accepted (Option.some.inj accepted)).1
          rw [same, kept.denies early] at won
          cases won
      | succ j =>
          have before := ordered.1 delivery (List.mem_of_getElem? found)
          exact ih (keptUntil_verifyEnvelope kept (lt_of_le_of_lt before early)) ordered.2 found
            accepted

/-- Every accepted envelope was near the clock. -/
theorem skew_of_accepted {deliveries : List Delivery} {j : Nat}
    (found : deliveries[j]? = some delivery) {verified : EnvelopeVerified}
    (accepted : (verifyEnvelopes A store deliveries)[j]? = some (.ok (.inr verified))) :
    ∃ ts, delivery.envelope.ts.instant? = some ts ∧
      skew delivery.now ts ≤ seconds skewWindowS := by
  induction deliveries generalizing store j with
  | nil => cases found
  | cons first later ih =>
      cases j with
      | zero =>
          cases found
          exact (verifyEnvelope_accepted (Option.some.inj accepted)).2.2
      | succ j => exact ih found accepted

/-- Two deliveries near the clock with one timestamp are no further apart than the
nonce is kept. -/
theorem now_lt_of_skew {now now' ts : Time} (near : skew now ts ≤ seconds skewWindowS)
    (near' : skew now' ts ≤ seconds skewWindowS) : now' < now + seconds nonceTtlS := by
  have apart (a b c : Int) (toFirst : ((a - c).natAbs : Int) ≤ 120 * 1000000)
      (toSecond : ((b - c).natAbs : Int) ≤ 120 * 1000000) : b < a + 600 * 1000000 := by omega
  exact apart now now' ts near near'

/-- An accepted envelope is not accepted later. -/
theorem not_accepted_later {deliveries : List Delivery}
    (ordered : deliveries.Pairwise fun earlier later => earlier.now ≤ later.now)
    {i j : Nat} (before : i < j) {first second : Delivery} {verified verified' : EnvelopeVerified}
    (found : deliveries[i]? = some first) (found' : deliveries[j]? = some second)
    (accepted : (verifyEnvelopes A store deliveries)[i]? = some (.ok (.inr verified)))
    (accepted' : (verifyEnvelopes A store deliveries)[j]? = some (.ok (.inr verified')))
    (sameId : first.envelope.msgId = second.envelope.msgId)
    (sameTs : first.envelope.ts = second.envelope.ts) : False := by
  induction deliveries generalizing store i j with
  | nil => cases found
  | cons head later ih =>
      rw [List.pairwise_cons] at ordered
      obtain ⟨j, rfl⟩ : ∃ k, j = k + 1 := ⟨j - 1, by omega⟩
      cases i with
      | zero =>
          cases found
          obtain ⟨won, claimed, ts, told, near⟩ :=
            verifyEnvelope_accepted (Option.some.inj accepted)
          obtain ⟨ts', told', near'⟩ := skew_of_accepted found' accepted'
          rw [sameTs, told'] at told
          obtain rfl := Option.some.inj told
          have kept : (verifyEnvelope A store first).2.KeptUntil first.key
              (first.now + seconds nonceTtlS) := by
            rw [claimed]
            exact Expiring.keptUntil_claim won
          have sameKey : second.key = first.key := by rw [Delivery.key, Delivery.key, sameId]
          exact not_accepted_of_kept kept ordered.2 found' sameKey (now_lt_of_skew near near')
            verified' accepted'
      | succ i => exact ih ordered.2 (by omega) found found' accepted accepted'

end Replay

/-- Whatever is delivered, however often and however late, with clock readings that
do not decrease: of the deliveries with one `msg_id` and one timestamp at most one
is accepted. Its nonce is kept longer than both ends of the skew window are apart,
so every later delivery is denied while the nonce is kept, and too old after. -/
theorem replay_protection (A : AgentPlatform) (store : NonceStore) (deliveries : List Delivery)
    (ordered : deliveries.Pairwise fun earlier later => earlier.now ≤ later.now)
    {i j : Nat} {first second : Delivery} {verified verified' : EnvelopeVerified}
    (found : deliveries[i]? = some first) (found' : deliveries[j]? = some second)
    (accepted : (verifyEnvelopes A store deliveries)[i]? = some (.ok (.inr verified)))
    (accepted' : (verifyEnvelopes A store deliveries)[j]? = some (.ok (.inr verified')))
    (sameId : first.envelope.msgId = second.envelope.msgId)
    (sameTs : first.envelope.ts = second.envelope.ts) : i = j := by
  rcases Nat.lt_trichotomy i j with before | same | after
  · exact (not_accepted_later ordered before found found' accepted accepted' sameId sameTs).elim
  · exact same
  · exact (not_accepted_later ordered after found' found accepted' accepted sameId.symm
      sameTs.symm).elim

namespace Fixture

open Actl.Fixture (padded platform timestamp)

/-- An offset in hours and minutes. -/
def offsetText (offset : Time) : String :=
  let minutes := offset.natAbs / 60000000
  (if offset < 0 then "-" else "+") ++ padded 2 (minutes / 60) ++ ":" ++ padded 2 (minutes % 60)

/-- A datetime since the epoch, with `Z` for an offset of zero. -/
def jsonDatetime (datetime : Datetime) : String :=
  timestamp datetime.reading ++
    match datetime.utcoffset with
    | none => ""
    | some offset => if offset = 0 then "Z" else offsetText offset

/-- The platform of the fixture under pytest, with no Ed25519 key in use. -/
def agentPlatform : AgentPlatform where
  toPlatform := platform
  ed25519PublicKey bytes := if bytes.length = 32 then .ok fun _ _ => false else .error .valueError
  pyRepr text := "'" ++ text ++ "'"
  tenths time := s!"{time / 1000000}.{time % 1000000 / 100000}"
  jsonDatetime := jsonDatetime
  agentEnvelopeHmacTestOnly := true

def buyerIdentity : AgentIdentityRecord where
  agentId := "agt_buyer"
  keyId := "key_1"
  alg := "HMAC-SHA256"
  notBefore := 0
  expiresAt := seconds 100000
  status := "ACTIVE"
  publicKeyHex := none
  hmacSecret := some "buyer-secret"

def unsigned : AgentEnvelope where
  protocol := "actl.acp/1"
  msgId := "msg_1"
  ts := .utc (seconds 1000)
  from_ := "agt_buyer"
  to_ := "agt_merchant"
  corrId := "cor_1"
  type := .capabilityDiscover
  body := .obj []
  sig := none

/-- A message signed with the buyer's secret, where it has signing bytes. -/
def signedByBuyer (envelope : AgentEnvelope) : AgentEnvelope :=
  match signEnvelopeHmac agentPlatform envelope (encode "buyer-secret") "key_1" with
  | .ok signed => signed
  | .error _ => envelope

def signed : AgentEnvelope := signedByBuyer unsigned

/-- The message at a time. -/
def delivered (now : Time) : Delivery where
  envelope := signed
  now := now
  identities keyId := .ok (if keyId = "key_1" then some buyerIdentity else none)
  connection := .answered

/-- The message arrives two minutes early and again four minutes later. -/
def deliveries : List Delivery := [delivered (seconds 880), delivered (seconds 1120)]

def isAccepted : Option (Except Failure EnvelopeVerificationResult) → Bool
  | some (.ok (.inr _)) => true
  | _ => false

theorem exists_of_isAccepted {answer : Option (Except Failure EnvelopeVerificationResult)}
    (accepted : isAccepted answer = true) : ∃ verified, answer = some (.ok (.inr verified)) := by
  rcases answer with _ | _ | _ | verified
  · cases accepted
  · cases accepted
  · cases accepted
  · exact ⟨verified, rfl⟩

/-- The first delivery is accepted, and only once. -/
theorem resent_envelope_accepted_once :
    ∃ (i j : Nat) (verified verified' : EnvelopeVerified),
      (verifyEnvelopes agentPlatform [] deliveries)[i]? = some (.ok (.inr verified)) ∧
      (verifyEnvelopes agentPlatform [] deliveries)[j]? = some (.ok (.inr verified')) ∧ i = j := by
  obtain ⟨verified, accepted⟩ := exists_of_isAccepted
    (show isAccepted (verifyEnvelopes agentPlatform [] deliveries)[0]? = true by decide +kernel)
  exact ⟨0, 0, verified, verified, accepted, accepted,
    replay_protection agentPlatform [] deliveries (by decide) rfl rfl accepted accepted rfl rfl⟩

end Fixture

end Actl.Agents
