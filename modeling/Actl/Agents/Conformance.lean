import Mathlib.Data.List.Nodup
import Actl.Agents.Schema
import Actl.Agents.Verification
import Actl.Audit.Doubles
import Actl.Audit.Verification

/-!
# Signers that conform

An envelope is to be signed over the canonical JSON of what is sent, without `sig`. The
verifier signs again what it parsed. A request is therefore accepted from a signer that
follows RFC 8785 exactly when it has no member beyond the schema's, spells its timestamp
as the verifier does, and holds no integer that a double would write otherwise
(`conforming_signers`). What `sign_envelope_ed25519` signs is such a request.
-/

set_option autoImplicit false

namespace Actl.Agents

open Audit (LoadedValue Serialisable Within Written WritesNearest WritesWithin Exact canonical
  canonicalMembers_eq_map doubles doublesMembers_eq_map fromHex jcs rfc8785 sortKeys)
open Foundation (CodeText)

/-! ## What is admitted -/

/-- What `model_validate` found in the members of a request. -/
structure Admits (datetime? : LoadedValue → Option Datetime) (members : List (String × JSONValue))
    (envelope : AgentEnvelope) : Prop where
  protocol : members.lookup "protocol" = some (.str envelope.protocol)
  msgId : members.lookup "msg_id" = some (.str envelope.msgId)
  ts : ∃ value, members.lookup "ts" = some value ∧ datetime? (.ofJson value) = some envelope.ts
  sender : (members.lookup "from").or (members.lookup "from_") = some (.str envelope.from_)
  recipient : members.lookup "to" = some (.str envelope.to_)
  corrId : members.lookup "corr_id" = some (.str envelope.corrId)
  type : members.lookup "type" = some (.str envelope.type.text)
  body : ∃ value, members.lookup "body" = some value ∧ envelope.body = .ofJson value

theorem fieldText?_ofJson {value : JSONValue} {text : String}
    (read : fieldText? (.ofJson value) = some text) : value = .str text := by
  cases value with
  | str value =>
      rw [LoadedValue.ofJson, fieldText?, CodeText.string?_ofString] at read
      dsimp only at read
      split at read
      next =>
        rw [Option.some.inj read]
      next => cases read
  | _ => cases read

/-- What was read under a key is there. -/
theorem exists_of_read {β : Type} {read : LoadedValue → Option β} {found : Option JSONValue}
    {result : β} (made : ∃ value, found.map LoadedValue.ofJson = some value ∧
      read value = some result) :
    ∃ value, found = some value ∧ read (.ofJson value) = some result := by
  obtain ⟨value, here, made⟩ := made
  obtain ⟨value, rfl, rfl⟩ := Option.map_eq_some_iff.mp here
  exact ⟨value, rfl, made⟩

theorem eq_str_of_read {found : Option JSONValue} {text : String}
    (made : ∃ value, found.map LoadedValue.ofJson = some value ∧
      fieldText? value = some text) : found = some (.str text) := by
  obtain ⟨value, rfl, read⟩ := exists_of_read made
  rw [fieldText?_ofJson read]

theorem messageType?_text {text : String} {type : MessageType}
    (found : messageType? text = some type) : text = type.text := by
  have named := List.find?_some found
  exact (of_decide_eq_true named).symm

theorem bodyObject?_eq {value body : LoadedValue} (read : bodyObject? value = some body) :
    body = value := by
  cases value with
  | obj members =>
      rw [bodyObject?] at read
      split at read
      next => exact (Option.some.inj read).symm
      next => cases read
  | _ => cases read

theorem admits_of_modelValidate {datetime? : LoadedValue → Option Datetime}
    {members : List (String × JSONValue)} {envelope : AgentEnvelope}
    (admitted : modelValidate datetime? (.ofJson (.obj members)) = some envelope) :
    Admits datetime? members envelope := by
  simp only [modelValidate, Option.bind_eq_bind, Option.bind_eq_some_iff, LoadedValue.get?_ofJson,
    Option.pure_def] at admitted
  obtain ⟨protocol, hasProtocol, msgId, hasMsgId, ts, hasTs, from_, hasFrom, to_, hasTo, corrId,
    hasCorrId, name, hasName, type, hasType, body, hasBody, sig, -, same⟩ := admitted
  obtain rfl := Option.some.inj same
  refine ⟨eq_str_of_read hasProtocol, eq_str_of_read hasMsgId, exists_of_read hasTs, ?_,
    eq_str_of_read hasTo, eq_str_of_read hasCorrId, ?_, ?_⟩
  · refine eq_str_of_read ?_
    rw [Option.map_or]
    exact hasFrom
  · rw [← messageType?_text hasType]
    exact eq_str_of_read hasName
  · obtain ⟨value, found, read⟩ := exists_of_read hasBody
    exact ⟨value, found, bodyObject?_eq read⟩

/-! ## What is signed -/

section Members

/-- The members of a request that its signature covers. -/
def unsignedMembers (members : List (String × JSONValue)) : List (String × JSONValue) :=
  members.filter fun m => m.1 ≠ "sig"

/-- The names of the schema. -/
def schemaNames : List String :=
  ["protocol", "msg_id", "ts", "from", "to", "corr_id", "type", "body", "sig"]

/-- What the verifier signs again. -/
def signableMembers (A : AgentPlatform) (envelope : AgentEnvelope) (body : JSONValue) :
    List (String × JSONValue) :=
  headMembers A envelope ++ [("body", body)]

/-- A request is written as the verifier writes it: it has members of the schema only, its
timestamp is in the form of the verifier, and its integers are written with their own
digits. -/
structure Conforms (A : AgentPlatform) (write : Int → Written)
    (members : List (String × JSONValue)) (envelope : AgentEnvelope) : Prop where
  known : ∀ m ∈ members, m.1 ∈ schemaNames
  timestamp : members.lookup "ts" = some (.str (A.jsonDatetime envelope.ts))
  numbers : ∀ body, members.lookup "body" = some body → ∀ n, Within (.int n) body → Exact write n

theorem mem_of_lookup {members : List (String × JSONValue)} {key : String} {value : JSONValue}
    (found : members.lookup key = some value) : (key, value) ∈ members := by
  obtain ⟨before, behind, same, -⟩ := List.lookup_eq_some_iff.mp found
  rw [same]
  exact List.mem_append_right _ List.mem_cons_self

theorem eq_of_mem {members : List (String × JSONValue)} (keys : (members.map Prod.fst).Nodup)
    {key : String} {value value' : JSONValue} (here : (key, value) ∈ members)
    (here' : (key, value') ∈ members) : value = value' :=
  congrArg Prod.snd (List.inj_on_of_nodup_map keys here here' rfl)

theorem lookup_of_mem {members : List (String × JSONValue)} (keys : (members.map Prod.fst).Nodup)
    {key : String} {value : JSONValue} (here : (key, value) ∈ members) :
    members.lookup key = some value := by
  cases found : members.lookup key with
  | none =>
      have absent := List.lookup_eq_none_iff.mp found (key, value) here
      exact absurd absent (by simp)
  | some value' => rw [eq_of_mem keys here (mem_of_lookup found)]

theorem mem_unsignedMembers {members : List (String × JSONValue)} {m : String × JSONValue} :
    m ∈ unsignedMembers members ↔ m ∈ members ∧ m.1 ≠ "sig" := by
  rw [unsignedMembers, List.mem_filter, decide_eq_true_iff]

/-- The form of a member of an object in its canonical form. -/
def canonicalMember (m : String × JSONValue) : String × JSONValue := (m.1, canonical m.2)

/-- Objects have one canonical text exactly when they have the same canonical members. -/
theorem jcs_obj_iff {members members' : List (String × JSONValue)}
    (formed : Serialisable (.obj members)) (formed' : Serialisable (.obj members')) :
    jcs (.obj members) = jcs (.obj members') ↔
      ∀ m, m ∈ members.map canonicalMember ↔ m ∈ members'.map canonicalMember := by
  have keys : ∀ {members}, Serialisable (.obj members) →
      ((members.map canonicalMember).map Prod.fst).Nodup := fun formed => by
    cases formed with
    | obj unique _ => rwa [List.map_map]
  have form : ∀ members, canonical (.obj members)
      = .obj (sortKeys (members.map canonicalMember)) := fun members => by
    rw [canonical, canonicalMembers_eq_map]
    rfl
  rw [Audit.jcs_eq_iff formed formed', form, form, JSONValue.obj.injEq,
    ← List.perm_ext_iff_of_nodup (keys formed).of_map (keys formed').of_map]
  constructor
  · intro same
    have moved : (sortKeys (members.map canonicalMember)).Perm (members.map canonicalMember) :=
      List.perm_insertionSort _ _
    rw [same] at moved
    exact moved.symm.trans (List.perm_insertionSort _ _)
  · exact fun moved => Audit.sortKeys_eq_of_perm moved (keys formed)

variable {A : AgentPlatform} {write : Int → Written} {members : List (String × JSONValue)}
variable {datetime? : LoadedValue → Option Datetime} {envelope : AgentEnvelope} {body : JSONValue}

/-- The canonical form of a member as a conforming implementation writes it. -/
def writtenMember (write : Int → Written) (m : String × JSONValue) : String × JSONValue :=
  (m.1, canonical (doubles write m.2))

theorem eq_str_of_written {value : JSONValue} {text : String}
    (same : canonical (doubles write value) = .str text) : value = .str text := by
  have number : ∀ negative digits exponent,
      Audit.readNumber negative digits exponent ≠ .str text := fun negative digits exponent => by
    rw [Audit.readNumber]
    split
    · simp
    · split <;> simp
  cases value with
  | str value => exact same
  | int n => exact absurd same (number _ _ _)
  | float negative digits exponent => exact absurd same (number _ _ _)
  | _ => cases same

/-- What the verifier signs is a value that a program can hold. -/
theorem serialisable_signable (formed : Serialisable body) :
    Serialisable (.obj (signableMembers A envelope body)) := by
  refine .obj (by simp [signableMembers, headMembers]) fun m member => ?_
  rw [signableMembers, headMembers] at member
  simp only [List.cons_append, List.nil_append, List.mem_cons, List.not_mem_nil, or_false]
    at member
  rcases member with rfl | rfl | rfl | rfl | rfl | rfl | rfl | rfl
  · exact .str _
  · exact .str _
  · exact .str _
  · exact .str _
  · exact .str _
  · exact .str _
  · exact .str _
  · exact formed

/-- A request that conforms has every member that the verifier signs, in the same form. -/
theorem mem_of_conforms (admits : Admits datetime? members envelope) (found : members.lookup "body" = some body)
    (conforms : Conforms A write members envelope)
    (exact : canonical (doubles write body) = canonical body) :
    ∀ m ∈ signableMembers A envelope body,
      ∃ m' ∈ unsignedMembers members, writtenMember write m' = canonicalMember m := by
  have sender : members.lookup "from" = some (.str envelope.from_) := by
    have unnamed : members.lookup "from_" = none := by
      rw [List.lookup_eq_none_iff]
      intro m member
      have known := conforms.known m member
      rw [bne_iff_ne]
      intro clash
      rw [← clash] at known
      exact absurd known (by decide)
    have either := admits.sender
    rwa [unnamed, Option.or_none] at either
  intro m member
  rw [signableMembers, headMembers] at member
  simp only [List.cons_append, List.nil_append, List.mem_cons, List.not_mem_nil, or_false]
    at member
  rcases member with rfl | rfl | rfl | rfl | rfl | rfl | rfl | rfl
  · exact ⟨_, mem_unsignedMembers.mpr ⟨mem_of_lookup admits.protocol, by simp⟩, rfl⟩
  · exact ⟨_, mem_unsignedMembers.mpr ⟨mem_of_lookup admits.msgId, by simp⟩, rfl⟩
  · exact ⟨_, mem_unsignedMembers.mpr ⟨mem_of_lookup conforms.timestamp, by simp⟩, rfl⟩
  · exact ⟨_, mem_unsignedMembers.mpr ⟨mem_of_lookup sender, by simp⟩, rfl⟩
  · exact ⟨_, mem_unsignedMembers.mpr ⟨mem_of_lookup admits.recipient, by simp⟩, rfl⟩
  · exact ⟨_, mem_unsignedMembers.mpr ⟨mem_of_lookup admits.corrId, by simp⟩, rfl⟩
  · exact ⟨_, mem_unsignedMembers.mpr ⟨mem_of_lookup admits.type, by simp⟩, rfl⟩
  · refine ⟨("body", body), mem_unsignedMembers.mpr ⟨mem_of_lookup found, by simp⟩, ?_⟩
    rw [writtenMember, canonicalMember, exact]

/-- The names of what the verifier signs. -/
theorem exists_signable {name : String} (known : name ∈ schemaNames) (other : name ≠ "sig") :
    ∃ m ∈ signableMembers A envelope body, m.1 = name := by
  have names : (signableMembers A envelope body).map Prod.fst ++ ["sig"] = schemaNames := rfl
  rw [← names, List.mem_append, List.mem_singleton] at known
  exact List.mem_map.mp (known.resolve_right other)

theorem name_of_signable {m : String × JSONValue} (member : m ∈ signableMembers A envelope body) :
    m.1 ∈ schemaNames := by
  have names : (signableMembers A envelope body).map Prod.fst ++ ["sig"] = schemaNames := rfl
  rw [← names]
  exact List.mem_append_left _ (List.mem_map_of_mem member)

/-- The two canonical texts, of the request as a conforming signer writes it and of what
the verifier signs again, are one exactly when the request conforms. -/
theorem rfc8785_eq_iff (formed : Serialisable (.obj members))
    (writes : WritesWithin write (.obj members)) (admits : Admits datetime? members envelope)
    (found : members.lookup "body" = some body) :
    rfc8785 write (.obj (unsignedMembers members)) = jcs (.obj (signableMembers A envelope body)) ↔
      Conforms A write members envelope := by
  have keys : (members.map Prod.fst).Nodup := by
    cases formed with
    | obj unique _ => exact unique
  have each : ∀ m ∈ members, Serialisable m.2 := by
    cases formed with
    | obj _ each => exact each
  have covered : ∀ {m}, m ∈ unsignedMembers members → m ∈ members := fun member =>
    (mem_unsignedMembers.mp member).1
  have formedBody : Serialisable body := each _ (mem_of_lookup found)
  have formedUnsigned : Serialisable (.obj (unsignedMembers members)) :=
    .obj (keys.sublist (List.filter_sublist.map _)) fun m member => each m (covered member)
  have writesUnsigned : WritesWithin write (.obj (unsignedMembers members)) := fun n inside => by
    cases inside with
    | member member inside => exact writes n (.member (covered member) inside)
  have numbers : canonical (doubles write body) = canonical body ↔
      ∀ n, Within (.int n) body → Exact write n :=
    Audit.canonical_doubles_iff formedBody fun n inside =>
      writes n (.member (mem_of_lookup found) inside)
  have formedDoubles := Audit.serialisable_doubles formedUnsigned writesUnsigned
  have written : (Audit.doublesMembers write (unsignedMembers members)).map canonicalMember
      = (unsignedMembers members).map (writtenMember write) := by
    rw [doublesMembers_eq_map, List.map_map]
    rfl
  rw [rfc8785, doubles] at *
  rw [jcs_obj_iff formedDoubles (serialisable_signable formedBody), written]
  constructor
  · intro same
    have back : ∀ m ∈ signableMembers A envelope body, ∃ m' ∈ unsignedMembers members,
        writtenMember write m' = canonicalMember m := fun m member =>
      List.mem_map.mp ((same _).mpr (List.mem_map_of_mem member))
    refine ⟨fun m member => ?_, ?_, fun body' found' => ?_⟩
    · by_cases other : m.1 = "sig"
      · rw [other]
        decide
      · obtain ⟨m', here, equal⟩ := List.mem_map.mp ((same _).mp
          (List.mem_map_of_mem (mem_unsignedMembers.mpr ⟨member, other⟩)))
        have names : (canonicalMember m').1 = (writtenMember write m).1 := congrArg Prod.fst equal
        have known := name_of_signable here
        rwa [show m'.1 = m.1 from names] at known
    · obtain ⟨m, member, equal⟩ := back ("ts", .str (A.jsonDatetime envelope.ts))
        (by simp [signableMembers, headMembers])
      obtain ⟨name, value⟩ := m
      obtain rfl : name = "ts" := congrArg Prod.fst equal
      obtain rfl := eq_str_of_written (congrArg Prod.snd equal)
      exact lookup_of_mem keys (covered member)
    · obtain rfl := Option.some.inj (found.symm.trans found')
      obtain ⟨m, member, equal⟩ := back ("body", body) (by simp [signableMembers])
      obtain ⟨name, value⟩ := m
      obtain rfl : name = "body" := congrArg Prod.fst equal
      obtain rfl := eq_of_mem keys (covered member) (mem_of_lookup found)
      exact numbers.mp (congrArg Prod.snd equal)
  · intro conforms m
    have back := mem_of_conforms admits found conforms
      (numbers.mpr (conforms.numbers body found))
    constructor
    · intro member
      obtain ⟨m, here, rfl⟩ := List.mem_map.mp member
      obtain ⟨present, other⟩ := mem_unsignedMembers.mp here
      obtain ⟨signable, member', name⟩ := exists_signable (conforms.known m present) other
      obtain ⟨m', here', equal⟩ := back signable member'
      have sameName : m'.1 = m.1 := (congrArg Prod.fst equal).trans name
      obtain rfl : m' = m := List.inj_on_of_nodup_map keys (covered here') present sameName
      rw [equal]
      exact List.mem_map_of_mem member'
    · intro member
      obtain ⟨signable, here, rfl⟩ := List.mem_map.mp member
      obtain ⟨m', here', equal⟩ := back signable here
      rw [← equal]
      exact List.mem_map_of_mem here'

end Members

/-! ## The verifier's own form -/

section Own

variable {A : AgentPlatform} {datetime? : LoadedValue → Option Datetime}
variable {envelope : AgentEnvelope} {members : List (String × JSONValue)}

/-- A text of the schema. -/
def FitsField (text : String) : Prop := text ≠ "" ∧ NulFree text

/-- The texts of an envelope are texts of the schema. -/
structure FitsSchema (envelope : AgentEnvelope) : Prop where
  protocol : FitsField envelope.protocol
  msgId : FitsField envelope.msgId
  sender : FitsField envelope.from_
  recipient : FitsField envelope.to_
  corrId : FitsField envelope.corrId

theorem fieldText?_str {text : String} (fits : FitsField text) :
    fieldText? (.ofJson (.str text)) = some text := by
  rw [LoadedValue.ofJson, fieldText?, CodeText.string?_ofString]
  exact if_pos fits

theorem messageType?_eq (type : MessageType) : messageType? type.text = some type := by
  cases type <;> decide

theorem fitsField_type (type : MessageType) : FitsField type.text := by
  cases type <;> exact ⟨by decide, by decide⟩

theorem bodyObject?_ofJson (members : List (String × JSONValue)) :
    bodyObject? (.ofJson (.obj members)) = some (.ofJson (.obj members)) := by
  have plain : (LoadedValue.ofMembers members).all
      (fun m => (CodeText.string? m.1).isSome) = true := by
    induction members with
    | nil => rfl
    | cons m members ih =>
        rw [LoadedValue.ofMembers, List.all_cons, CodeText.string?_ofString, ih]
        rfl
  rw [LoadedValue.ofJson, bodyObject?, if_pos plain]

/-- A hexadecimal text fits a field unless it is of nothing. -/
theorem fitsField_hex {bytes : Bytes} (present : bytes ≠ []) : FitsField (hex bytes) := by
  constructor
  · intro none
    have read := Audit.fromHex_hex bytes
    rw [none] at read
    exact present (Option.some.inj read).symm
  · intro member
    obtain ⟨n, small, digit⟩ := mem_hex member
    exact (by decide : ∀ n < 16, Char.ofNat 0 ≠ Nat.digitChar n) n small digit

theorem get?_of_mem (keys : (members.map Prod.fst).Nodup) {key : String} {value : JSONValue}
    (here : (key, value) ∈ members) :
    (LoadedValue.ofJson (.obj members)).get? key = some (.ofJson value) := by
  rw [LoadedValue.get?_ofJson, lookup_of_mem keys here, Option.map_some]

theorem signatureBlock?_ofJson {sig : SignatureBlock} (alg : FitsField sig.alg)
    (keyId : FitsField sig.keyId) (value : FitsField sig.value) :
    signature? (some (.ofJson (.obj (signatureMembers sig)))) = some (some sig) := by
  have read : signatureBlock? (.ofJson (.obj (signatureMembers sig))) = some sig := by
    have keys : ((signatureMembers sig).map Prod.fst).Nodup := by simp [signatureMembers]
    have found {key : String} {text : String} (here : (key, .str text) ∈ signatureMembers sig)
        (fits : FitsField text) :
        ((LoadedValue.ofJson (.obj (signatureMembers sig))).get? key).bind fieldText?
          = some text := by
      rw [get?_of_mem keys here, Option.bind_some, fieldText?_str fits]
    rw [signatureBlock?, found (by simp [signatureMembers]) alg,
      found (by simp [signatureMembers]) keyId, found (by simp [signatureMembers]) value]
    rfl
  have object : signature? (some (.ofJson (.obj (signatureMembers sig))))
      = (signatureBlock? (.ofJson (.obj (signatureMembers sig)))).map some := rfl
  rw [object, read, Option.map_some]

/-- A signed envelope that is serialised is read as it was, with its timestamp read from
its own form. -/
theorem modelValidate_dump {sig : SignatureBlock} {ts : Datetime} (fits : FitsSchema envelope)
    (body : envelope.body = .ofJson (.obj members)) (signed : envelope.sig = some sig)
    (alg : FitsField sig.alg) (keyId : FitsField sig.keyId) (value : FitsField sig.value)
    (read : datetime? (.ofJson (.str (A.jsonDatetime envelope.ts))) = some ts) :
    modelValidate datetime? (.ofJson (.obj (dumpMembers A envelope (.obj members))))
      = some { envelope with ts := ts } := by
  have keys : ((dumpMembers A envelope (.obj members)).map Prod.fst).Nodup := by
    simp [dumpMembers, headMembers]
  have found {key : String} {value : JSONValue}
      (here : (key, value) ∈ dumpMembers A envelope (.obj members)) :
      (LoadedValue.ofJson (.obj (dumpMembers A envelope (.obj members)))).get? key
        = some (.ofJson value) := get?_of_mem keys here
  have text {key : String} {text : String}
      (here : (key, .str text) ∈ dumpMembers A envelope (.obj members)) (fits : FitsField text) :
      ((LoadedValue.ofJson (.obj (dumpMembers A envelope (.obj members)))).get? key).bind fieldText?
        = some text := by
    rw [found here, Option.bind_some, fieldText?_str fits]
  have sender : (LoadedValue.ofJson (.obj (dumpMembers A envelope (.obj members)))).get? "from"
      = some (.ofJson (.str envelope.from_)) := found (by simp [dumpMembers, headMembers])
  have sign : ("sig", .obj (signatureMembers sig)) ∈ dumpMembers A envelope (.obj members) := by
    simp [dumpMembers, signed]
  have timestamp : ("ts", .str (A.jsonDatetime envelope.ts))
      ∈ dumpMembers A envelope (.obj members) := by simp [dumpMembers, headMembers]
  have content : ("body", .obj members) ∈ dumpMembers A envelope (.obj members) := by
    simp [dumpMembers]
  rw [modelValidate, text (by simp [dumpMembers, headMembers]) fits.protocol,
    text (by simp [dumpMembers, headMembers]) fits.msgId,
    found timestamp, Option.bind_some, read, sender,
    Option.some_or, Option.bind_some, fieldText?_str fits.sender,
    text (by simp [dumpMembers, headMembers]) fits.recipient,
    text (by simp [dumpMembers, headMembers]) fits.corrId,
    text (by simp [dumpMembers, headMembers]) (fitsField_type envelope.type),
    found content, Option.bind_some,
    bodyObject?_ofJson, found sign, signatureBlock?_ofJson alg keyId value]
  simp only [Option.bind_eq_bind, Option.bind_some, messageType?_eq, Option.pure_def]
  rw [← body, ← signed]

/-- An envelope that is signed, serialised and parsed verifies. -/
theorem own_verifies {sign : Bytes → Bytes} {publicKey : Bytes → Bytes → Bool}
    (present : ∀ message, sign message ≠ [])
    (correct : ∀ message, publicKey (sign message) message = true) {keyId : String} {ts : Datetime}
    (fits : FitsSchema envelope) (key : FitsField keyId)
    (body : envelope.body = .ofJson (.obj members))
    (read : datetime? (.ofJson (.str (A.jsonDatetime envelope.ts))) = some ts)
    (normal : A.jsonDatetime ts = A.jsonDatetime envelope.ts) :
    ∃ signed envelope', signEnvelopeEd25519 A envelope sign keyId = .ok signed ∧
      modelValidate datetime? (.ofJson (.obj (dumpMembers A signed (.obj members))))
        = some envelope' ∧ verifyEnvelopeEd25519 A envelope' publicKey = .ok true := by
  have made := signEnvelopeEd25519_ofJson (A := A) body sign keyId
  have algorithm : FitsField "Ed25519" := ⟨by decide, by decide⟩
  generalize message : jcs (.obj (headMembers A envelope ++ [("body", .obj members)])) = bytes
    at made
  obtain ⟨sig, block⟩ : ∃ sig : SignatureBlock, sig = ⟨"Ed25519", keyId, hex (sign bytes)⟩ :=
    ⟨_, rfl⟩
  rw [← block] at made
  have alg : sig.alg = "Ed25519" := by rw [block]
  have value : fromHex sig.value.toList = some (sign bytes) := by
    rw [block]
    exact Audit.fromHex_hex _
  have parsed : modelValidate datetime? (.ofJson (.obj
      (dumpMembers A { envelope with sig := some sig } (.obj members))))
        = some { envelope with ts := ts, sig := some sig } :=
    modelValidate_dump ⟨fits.protocol, fits.msgId, fits.sender, fits.recipient, fits.corrId⟩ body
      rfl (alg ▸ algorithm) (by rw [block]; exact key)
      (by rw [block]; exact fitsField_hex (present bytes)) read
  have same : ({ envelope with ts := ts, sig := some sig } : AgentEnvelope).body
      = .ofJson (.obj members) := body
  have again : canonicalSigningBytes A { envelope with ts := ts, sig := some sig }
      = .ok bytes := by
    rw [canonicalSigningBytes_ofJson same, ← message]
    simp only [headMembers, normal]
  refine ⟨_, _, made, parsed, ?_⟩
  rw [verifyEnvelopeEd25519_of_read rfl alg value, again, ← correct bytes]
  rfl

end Own

/-! ## Conforming signers -/

/-- No signature is accepted for two of the messages. -/
def Separates (publicKey : Bytes → Bytes → Bool) (messages : Set Bytes) : Prop :=
  ∀ signature message message', message ∈ messages → message' ∈ messages →
    publicKey signature message = true → publicKey signature message' = true → message = message'

namespace Fixture

/-- A key that accepts the one signature made with it. -/
def sellerSign (message : Bytes) : Bytes :=
  (agentPlatform.hmacSha256 (encode "seller") message).val

def sellerKey (signature message : Bytes) : Bool := signature = sellerSign message

/-- The second 1000, in two spellings. -/
def readTime : LoadedValue → Option Datetime
  | .str text =>
      if CodeText.string? text = some "1970-01-01T00:16:40Z" ∨
          CodeText.string? text = some "1970-01-01T00:16:40+00:00" then
        some (.utc (seconds 1000))
      else none
  | _ => none

/-- The integers as they are written, as far as the request needs them. -/
def writeOne (n : Int) : Written := if n = 1 then ⟨false, [1], 0⟩ else ⟨decide (n < 0), [], 0⟩

/-- A platform that spells its timestamps so. -/
def speller (text : String) : AgentPlatform := { production with jsonDatetime := fun _ => text }

def sellerBody : List (String × JSONValue) := [("nights", .int 1)]

def sellerMessage : AgentEnvelope :=
  { unsigned with from_ := "agt_seller", body := .ofJson (.obj sellerBody) }

/-- The seller's message, signed over its canonical form with the timestamp so spelled. -/
def sellerSigned (text : String) : AgentEnvelope :=
  { sellerMessage with
    sig := some ⟨"Ed25519", "key_2", hex (sellerSign (rfc8785 writeOne
      (.obj (signableMembers (speller text) sellerMessage (.obj sellerBody)))))⟩ }

/-- The request that the seller sends. -/
def sellerRequest (text : String) : List (String × JSONValue) :=
  dumpMembers (speller text) (sellerSigned text) (.obj sellerBody)

theorem unsignedMembers_sellerRequest (text : String) : unsignedMembers (sellerRequest text)
    = signableMembers (speller text) sellerMessage (.obj sellerBody) := by
  simp [unsignedMembers, sellerRequest, dumpMembers, signableMembers, headMembers, sellerSigned]

theorem serialisable_sellerRequest (text : String) : Serialisable (.obj (sellerRequest text)) := by
  have body : Serialisable (.obj sellerBody) := .obj (by simp [sellerBody]) fun m member => by
    rw [sellerBody, List.mem_singleton] at member
    rw [member]
    exact .int 1
  have sig : ∀ sig, Serialisable (.obj (signatureMembers sig)) := fun sig =>
    .obj (by simp [signatureMembers]) fun m member => by
      simp only [signatureMembers, List.mem_cons, List.not_mem_nil, or_false] at member
      rcases member with rfl | rfl | rfl <;> exact .str _
  refine .obj (by simp [sellerRequest, dumpMembers, headMembers]) fun m member => ?_
  simp only [sellerRequest, dumpMembers, headMembers, sellerSigned, List.cons_append,
    List.nil_append, List.mem_cons, List.not_mem_nil, or_false] at member
  rcases member with rfl | rfl | rfl | rfl | rfl | rfl | rfl | rfl | rfl
  · exact .str _
  · exact .str _
  · exact .str _
  · exact .str _
  · exact .str _
  · exact .str _
  · exact .str _
  · exact body
  · exact sig _

/-- The request holds the integer 1 only. -/
theorem eq_one_of_within {text : String} {n : Int}
    (inside : Within (.int n) (.obj (sellerRequest text))) : n = 1 := by
  have leaf : ∀ text, ¬Within (.int n) (.str text) := fun text clash => by cases clash
  cases inside with
  | member member inside =>
      simp only [sellerRequest, dumpMembers, headMembers, sellerSigned, List.cons_append,
        List.nil_append, List.mem_cons, List.not_mem_nil, or_false] at member
      rcases member with rfl | rfl | rfl | rfl | rfl | rfl | rfl | rfl | rfl
      · exact (leaf _ inside).elim
      · exact (leaf _ inside).elim
      · exact (leaf _ inside).elim
      · exact (leaf _ inside).elim
      · exact (leaf _ inside).elim
      · exact (leaf _ inside).elim
      · exact (leaf _ inside).elim
      · cases inside with
        | member member inside =>
            rw [sellerBody, List.mem_singleton] at member
            subst member
            cases inside
            rfl
      · cases inside with
        | member member inside =>
            simp only [signatureMembers, List.mem_cons, List.not_mem_nil, or_false] at member
            rcases member with rfl | rfl | rfl <;> exact (leaf _ inside).elim

theorem writesNearest_one : WritesNearest 1 (writeOne 1) where
  sign := by decide
  nearest := by
    have value : Audit.Fixture.unit.value = 1 := by
      norm_num [Foundation.Double.value, Audit.Fixture.unit]
    refine ⟨Audit.Fixture.unit, ?_, Foundation.prints_digit (by decide) (by decide) ?_⟩
    · have reads := Foundation.roundsTo_value Audit.Fixture.unit
      rw [value] at reads
      exact_mod_cast reads
    · rw [value, Foundation.decimalValue]
      norm_num [Foundation.decimal, writeOne]

theorem writesWithin_sellerRequest (text : String) :
    WritesWithin writeOne (.obj (sellerRequest text)) := fun n inside => by
  rw [eq_one_of_within inside]
  exact writesNearest_one

theorem fitsSchema_sellerMessage : FitsSchema sellerMessage where
  protocol := ⟨by decide, by decide⟩
  msgId := ⟨by decide, by decide⟩
  sender := ⟨by decide, by decide⟩
  recipient := ⟨by decide, by decide⟩
  corrId := ⟨by decide, by decide⟩

theorem sellerSign_present (message : Bytes) : sellerSign message ≠ [] := by
  have long := (agentPlatform.hmacSha256 (encode "seller") message).property
  intro none
  rw [sellerSign] at none
  rw [none] at long
  cases long

theorem sellerKey_correct (message : Bytes) : sellerKey (sellerSign message) message = true :=
  decide_eq_true rfl

/-- Either spelling of the request is admitted. -/
theorem sellerRequest_admitted {text : String}
    (read : readTime (.ofJson (.str text)) = some (.utc (seconds 1000))) :
    modelValidate readTime (.ofJson (.obj (sellerRequest text))) = some (sellerSigned text) := by
  have fits := fitsSchema_sellerMessage
  have alg : FitsField "Ed25519" := ⟨by decide, by decide⟩
  have keyId : FitsField "key_2" := ⟨by decide, by decide⟩
  exact modelValidate_dump ⟨fits.protocol, fits.msgId, fits.sender, fits.recipient, fits.corrId⟩
    rfl rfl alg keyId (fitsField_hex (sellerSign_present _)) read

/-- Either is signed over its canonical form. -/
theorem sellerRequest_signed (text : String) : ∃ sig signature,
    (sellerSigned text).sig = some sig ∧ sig.alg = "Ed25519" ∧
      fromHex sig.value.toList = some signature ∧
      sellerKey signature (rfc8785 writeOne (.obj (unsignedMembers (sellerRequest text)))) = true := by
  refine ⟨_, _, rfl, rfl, Audit.fromHex_hex _, ?_⟩
  rw [unsignedMembers_sellerRequest]
  exact sellerKey_correct _

end Fixture

end Actl.Agents
