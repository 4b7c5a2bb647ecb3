import Actl.Agents.Envelope

/-!
# The schema of envelopes

`AgentEnvelope.model_validate` on a request as it was loaded, and the serialised form
of an envelope. Reading a timestamp is a parameter. Members that the schema does not name
are ignored, and the sender may be given under the name of the field, too.
-/

set_option autoImplicit false

namespace Actl.Agents

open Audit (LoadedValue)
open Foundation (CodeText)

/-! ## Reading -/

/-- A text of the schema: `Field(min_length=1, pattern=_NO_NUL_BYTES)`. -/
def fieldText? : LoadedValue → Option String
  | .str text =>
      match CodeText.string? text with
      | some text => if text ≠ "" ∧ NulFree text then some text else none
      | none => none
  | _ => none

/-- The types a message may have. -/
def messageTypes : List MessageType :=
  [.capabilityDiscover, .catalogQuery, .quoteRequest, .orderPropose, .orderStatus, .receiptIssue,
    .error]

/-- The type a text names. -/
def messageType? (text : String) : Option MessageType :=
  messageTypes.find? fun type => type.text = text

/-- A `SignatureBlock`. -/
def signatureBlock? (raw : LoadedValue) : Option SignatureBlock := do
  let alg ← (raw.get? "alg").bind fieldText?
  let keyId ← (raw.get? "key_id").bind fieldText?
  let value ← (raw.get? "value").bind fieldText?
  return ⟨alg, keyId, value⟩

/-- A member `sig`, which may be absent or null. -/
def signature? : Option LoadedValue → Option (Option SignatureBlock)
  | none => some none
  | some .null => some none
  | some raw => (signatureBlock? raw).map some

/-- A `dict[str, object]`. -/
def bodyObject? : LoadedValue → Option LoadedValue
  | .obj members =>
      if members.all fun m => (CodeText.string? m.1).isSome then some (.obj members) else none
  | _ => none

/-- `AgentEnvelope.model_validate`. -/
def modelValidate (datetime? : LoadedValue → Option Datetime) (raw : LoadedValue) :
    Option AgentEnvelope := do
  let protocol ← (raw.get? "protocol").bind fieldText?
  let msgId ← (raw.get? "msg_id").bind fieldText?
  let ts ← (raw.get? "ts").bind datetime?
  let from_ ← ((raw.get? "from").or (raw.get? "from_")).bind fieldText?
  let to_ ← (raw.get? "to").bind fieldText?
  let corrId ← (raw.get? "corr_id").bind fieldText?
  let name ← (raw.get? "type").bind fieldText?
  let type ← messageType? name
  let body ← (raw.get? "body").bind bodyObject?
  let sig ← signature? (raw.get? "sig")
  return { protocol, msgId, ts, from_, to_, corrId, type, body, sig }

/-! ## Writing -/

/-- The members of a signature. -/
def signatureMembers (sig : SignatureBlock) : List (String × JSONValue) :=
  [("alg", .str sig.alg), ("key_id", .str sig.keyId), ("value", .str sig.value)]

/-- `model_dump(mode="json", by_alias=True)` of an envelope around a body. -/
def dumpMembers (A : AgentPlatform) (envelope : AgentEnvelope) (body : JSONValue) :
    List (String × JSONValue) :=
  headMembers A envelope ++ [("body", body),
    ("sig", match envelope.sig with
      | some sig => .obj (signatureMembers sig)
      | none => .null)]

end Actl.Agents
