import Mathlib.Data.List.Basic

/-!
# Platform and settings

What the application takes from outside itself: the hash functions of the
standard library, the text forms of a timestamp, the payment provider's
signature checks, and the values of the settings. Everything here is a
parameter of the model, so every result holds whatever it is.

Timestamps are microseconds since the epoch. `Failure` lists the exceptions the
modelled code raises or lets through.
-/

set_option autoImplicit false

namespace Actl

abbrev Bytes : Type := List UInt8

/-- A sha256 digest. -/
abbrev Digest : Type := { bytes : Bytes // bytes.length = 32 }

/-- Microseconds since the epoch. -/
abbrev Time : Type := Int

def seconds (n : Int) : Time := n * 1000000

/-- `text.encode()`. -/
def encode (text : String) : Bytes := text.toByteArray.data.toList

/-- `digest.hex()`. -/
def hex (bytes : Bytes) : String :=
  String.ofList (bytes.flatMap fun b => [Nat.digitChar (b.toNat / 16), Nat.digitChar (b.toNat % 16)])

/-- Hexadecimal text consists of the digits of half a byte. -/
theorem mem_hex {bytes : Bytes} {c : Char} (member : c ∈ (hex bytes).toList) :
    ∃ n < 16, c = Nat.digitChar n := by
  rw [hex, String.toList_ofList] at member
  obtain ⟨byte, -, digit⟩ := List.mem_flatMap.mp member
  have bound := byte.toNat_lt
  rcases List.mem_pair.mp digit with high | low
  · exact ⟨_, by omega, high⟩
  · exact ⟨_, by omega, low⟩

/-! ## JSON values -/

/-- A JSON value. A finite float is represented by its sign and by the digits
and exponent of its shortest round-trip decimal, without trailing zeros; zero has
no digits. -/
inductive JSONValue where
  | null
  | bool (value : Bool)
  | int (value : Int)
  | float (negative : Bool) (digits : List Nat) (exponent : Int)
  | str (value : String)
  | arr (items : List JSONValue)
  | obj (members : List (String × JSONValue))

namespace JSONValue

/-- The value under a key of an object. -/
def get? : JSONValue → String → Option JSONValue
  | .obj members, key => members.lookup key
  | _, _ => none

def isObject : JSONValue → Bool
  | .obj _ => true
  | _ => false

/-- The truth value Python gives it. -/
def truthy : JSONValue → Bool
  | .null => false
  | .bool value => value
  | .int value => value ≠ 0
  | .float _ digits _ => digits ≠ []
  | .str value => value ≠ ""
  | .arr items => !items.isEmpty
  | .obj members => !members.isEmpty

/-- An object whose members are all strings. -/
def ofStrings (members : List (String × String)) : JSONValue :=
  .obj (members.map fun (key, value) => (key, .str value))

end JSONValue

/-! ## Settings and platform -/

structure Settings where
  mandateSigningKey : String
  paymentProvider : String
  reservationTtlS : Int
  reconcileAfterS : Int
  decisionTtlS : Int
  quoteTtlS : Int
  maxRetryAttempts : Nat
  auditCheckpointEvery : Nat
  checkpointEveryPositive : 0 < auditCheckpointEvery

/-- The defaults of `config.py`. -/
def Settings.default : Settings where
  mandateSigningKey := "demo-mandate-signing-key-change-me"
  paymentProvider := "razorpay"
  reservationTtlS := 300
  reconcileAfterS := 45
  decisionTtlS := 30
  quoteTtlS := 120
  maxRetryAttempts := 3
  auditCheckpointEvery := 64
  checkpointEveryPositive := by decide

structure Platform where
  sha256 : Bytes → Digest
  hmacSha256 : Bytes → Bytes → Digest
  /-- `datetime.isoformat()`. -/
  isoformat : Time → String
  /-- A datetime in a `model_dump(mode="json")`. -/
  jsonTime : Time → String
  /-- `str()` of a JSON value. -/
  pyStr : JSONValue → String
  verifyCheckoutSignature : String → String → String → Bool
  verifyWebhook : Bytes → String → Bool
  /-- `build_checkout_payload`, which only the simulator adapter has. -/
  buildCheckoutPayload : Option (String → String → String)
  settings : Settings

namespace Platform

variable (P : Platform)

def hexdigest (bytes : Bytes) : String := hex (P.sha256 bytes).val

/-- The `sha256:` form in which hashes are stored and compared. -/
def prefixedDigest (bytes : Bytes) : String := "sha256:" ++ P.hexdigest bytes

end Platform

/-- The exceptions that reach application code. The provider's errors and the
breaker's carry their message, since it is recorded on the order. -/
inductive Failure where
  | dbapiError
  | retryExhausted (message : String)
  | transientProviderError (message : String)
  | terminalProviderError (message : String)
  | circuitOpenError (message : String)
  | idempotencyInFlightTimeout
  | idempotentAttemptFailed
  | checkoutSignatureInvalid
  | sagaNotFound
  | integrityHalted (reason : String)
  | guardRejected
  | invalidTransition
  | keyError
  | assertionError
  | valueError
  | stopIteration
  | multipleResultsFound
  | httpException (status : Nat)
  | mandateNotFound (mandateId : String)
  | skuNotFound (sku : String)
  | skuUnavailable (sku : String)
  | invalidPriceMutation
  | other (message : String)
  deriving DecidableEq, Repr

namespace Failure

/-- `str(exc)`, for the exceptions whose text is stored. -/
def text : Failure → String
  | .retryExhausted message | .transientProviderError message | .terminalProviderError message
  | .circuitOpenError message | .other message => message
  | _ => ""

def isDbapiError : Failure → Bool
  | .dbapiError => true
  | _ => false

def isTransientProviderError : Failure → Bool
  | .transientProviderError _ => true
  | _ => false

/-- `RetryExhausted`, `TerminalProviderError` or `CircuitOpenError`: what the
callers of a retried provider call handle. -/
def isProviderFailure : Failure → Bool
  | .retryExhausted _ | .terminalProviderError _ | .circuitOpenError _ => true
  | _ => false

end Failure

end Actl
