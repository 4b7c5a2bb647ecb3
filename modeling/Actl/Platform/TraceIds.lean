import Mathlib.Data.Nat.Bitwise
import Mathlib.Tactic.IntervalCases
import Actl.Foundation.Positional
import Actl.Foundation.Program
import Actl.Platform

/-!
# Trace ids

The ids of `platform/ids.py` and the OpenTelemetry trace ids that `platform/tracing.py`
makes of them. An id is a prefix and 26 characters of five bits each, so it has room for
130 bits, while a trace id has 128: the characters of an id that the application mints
fit, those of an id from outside fit when the first is at most `7` (`legal_iff`).
-/

set_option autoImplicit false

namespace Actl.Tracing

open Foundation (number numeral)

/-! ## Crockford's base 32 -/

/-- `_CROCKFORD_ALPHABET`. -/
def crockfordAlphabet : List Char := "0123456789ABCDEFGHJKMNPQRSTVWXYZ".toList

/-- `_ULID_LENGTH`. -/
def ulidLength : Nat := 26

/-- `_RANDOM_BITS`. -/
def randomBits : Nat := 80

/-- `_CROCKFORD_ALPHABET[digit]`. -/
def crockfordChar (digit : Nat) : Char := crockfordAlphabet.getD digit '0'

/-- The loop of `encode_crockford`: the characters still to be written, from the last to
the first, before those that are. -/
def encodeRemaining : Nat → Nat → List Char → List Char
  | _, 0, chars => chars
  | value, remaining + 1, chars =>
      encodeRemaining (value >>> 5) remaining (crockfordChar (value &&& 0x1F) :: chars)

/-- `encode_crockford`. -/
def encodeCrockford (value length : Nat) : String :=
  String.ofList (encodeRemaining value length [])

/-- One character of `crockford_decode`; `str.index` raises for one that is not there. -/
def decodeStep (value : Nat) (ch : Char) : Except Failure Nat :=
  match crockfordAlphabet.idxOf? ch with
  | some digit => .ok ((value <<< 5) ||| digit)
  | none => .error .valueError

/-- `crockford_decode`. -/
def crockfordDecode (s : String) : Except Failure Nat := s.toList.foldlM decodeStep 0

theorem crockfordChar_mem {digit : Nat} (small : digit < 32) :
    crockfordChar digit ∈ crockfordAlphabet := by
  interval_cases digit <;> decide

theorem idxOf?_crockfordChar {digit : Nat} (small : digit < 32) :
    crockfordAlphabet.idxOf? (crockfordChar digit) = some digit := by
  interval_cases digit <;> decide

/-- A character of the alphabet stands for a digit. -/
theorem exists_digit {ch : Char} (member : ch ∈ crockfordAlphabet) :
    ∃ digit < 32, crockfordChar digit = ch := by
  obtain ⟨digit, small, rfl⟩ := List.mem_iff_getElem.mp member
  exact ⟨digit, small, by simp [crockfordChar, small]⟩

theorem encodeRemaining_eq (value length : Nat) (chars : List Char) :
    encodeRemaining value length chars = (numeral 32 length value).map crockfordChar ++ chars := by
  induction length generalizing value chars with
  | zero => rfl
  | succ length ih =>
      have low : value &&& 0x1F = value % 32 := Nat.and_two_pow_sub_one_eq_mod value 5
      rw [encodeRemaining, ih, Nat.shiftRight_eq_div_pow, low, numeral, List.map_append,
        List.append_assoc]
      rfl

theorem toList_encodeCrockford (value length : Nat) :
    (encodeCrockford value length).toList = (numeral 32 length value).map crockfordChar := by
  rw [encodeCrockford, String.toList_ofList, encodeRemaining_eq, List.append_nil]

/-- Decoding the characters of digits reads the number the digits stand for. -/
theorem crockfordDecode_chars {s : String} {digits : List Nat}
    (written : s.toList = digits.map crockfordChar) (proper : ∀ digit ∈ digits, digit < 32) :
    crockfordDecode s = .ok (number 32 digits) := by
  rw [crockfordDecode, written]
  clear written
  induction digits using List.reverseRecOn with
  | nil => rfl
  | append_singleton digits final ih =>
      have last : final < 32 := proper final (List.mem_append_right _ List.mem_cons_self)
      rw [List.map_append, List.foldlM_append,
        ih fun digit member => proper digit (List.mem_append_left _ member)]
      simp only [Foundation.ok_bind, List.map_cons, List.map_nil, List.foldlM_cons,
        List.foldlM_nil, decodeStep, idxOf?_crockfordChar last, Foundation.number_append_singleton]
      rw [Nat.shiftLeft_eq, ← Nat.shiftLeft_eq, ← Nat.shiftLeft_add_eq_or_of_lt last, Nat.shiftLeft_eq]
      rfl

/-- A text of the alphabet is the text of its digits. -/
theorem exists_digits {chars : List Char} (proper : ∀ ch ∈ chars, ch ∈ crockfordAlphabet) :
    ∃ digits : List Nat, chars = digits.map crockfordChar ∧ ∀ digit ∈ digits, digit < 32 := by
  induction chars with
  | nil => exact ⟨[], rfl, nofun⟩
  | cons ch chars ih =>
      obtain ⟨digits, rfl, small⟩ := ih fun c member => proper c (List.mem_cons_of_mem _ member)
      obtain ⟨digit, below, rfl⟩ := exists_digit (proper ch List.mem_cons_self)
      exact ⟨digit :: digits, rfl, List.forall_mem_cons.mpr ⟨below, small⟩⟩

/-- Decoding raises exactly for a character outside the alphabet. -/
theorem mem_alphabet_of_decoded {s : String} {value : Nat} (decoded : crockfordDecode s = .ok value) :
    ∀ ch ∈ s.toList, ch ∈ crockfordAlphabet := by
  rw [crockfordDecode] at decoded
  generalize s.toList = chars, 0 = start at decoded
  induction chars generalizing start with
  | nil => exact nofun
  | cons ch chars ih =>
      rw [List.foldlM_cons] at decoded
      obtain ⟨next, stepped, rest⟩ := Foundation.bind_eq_ok.mp decoded
      refine List.forall_mem_cons.mpr ⟨?_, ih next rest⟩
      rw [decodeStep] at stepped
      split at stepped
      next digit found =>
        by_contra absent
        rw [List.idxOf?_eq_none_iff.mpr absent] at found
        cases found
      next => cases stepped

/-- What is encoded in enough characters is decoded again. -/
theorem decode_encodeCrockford {length value : Nat} (fits : value < 2 ^ (5 * length)) :
    crockfordDecode (encodeCrockford value length) = .ok value := by
  have small : value < 32 ^ length := by
    rw [pow_mul] at fits
    exact fits
  rw [crockfordDecode_chars (toList_encodeCrockford value length)
    fun digit member => Foundation.lt_of_mem_numeral (by decide) member,
    Foundation.number_numeral small]

/-- What is decoded is encoded again. -/
theorem encode_crockfordDecode {s : String} (proper : ∀ ch ∈ s.toList, ch ∈ crockfordAlphabet) :
    ∃ value, crockfordDecode s = .ok value ∧ encodeCrockford value s.length = s := by
  obtain ⟨digits, written, small⟩ := exists_digits proper
  refine ⟨_, crockfordDecode_chars written small, ?_⟩
  apply String.toList_inj.mp
  have length : s.length = digits.length := by
    rw [← String.length_toList, written, List.length_map]
  rw [toList_encodeCrockford, length, Foundation.numeral_number small, written]

/-! ## Minting -/

/-- The value of a ulid: the time in milliseconds before the random bits. -/
def ulidValue (timestampMs randomness : Nat) : Nat := (timestampMs <<< randomBits) ||| randomness

/-- The value of a ulid in the deterministic mode, of the first bytes of a digest. -/
def deterministicUlidValue (digest : Nat) : Nat := digest &&& (2 ^ 128 - 1)

/-- The text of a ulid. -/
def ulid (value : Nat) : String := encodeCrockford value ulidLength

/-- `new_id`. -/
def newId (kind : String) (value : Nat) : String := kind ++ "_" ++ ulid value

theorem ulidValue_lt {timestampMs randomness : Nat} (early : timestampMs < 2 ^ 48)
    (random : randomness < 2 ^ randomBits) : ulidValue timestampMs randomness < 2 ^ 128 := by
  rw [ulidValue, ← Nat.shiftLeft_add_eq_or_of_lt random, Nat.shiftLeft_eq]
  simp only [randomBits] at random ⊢
  omega

theorem deterministicUlidValue_lt (digest : Nat) : deterministicUlidValue digest < 2 ^ 128 := by
  rw [deterministicUlidValue, Nat.and_two_pow_sub_one_eq_mod]
  exact Nat.mod_lt _ (by decide)

/-! ## OpenTelemetry -/

/-- `TRACE_ID_PREFIX`. -/
def traceIdPrefix : String := "trc_"

/-- `trace_id.rpartition("_")[2]`. -/
def payload (traceId : String) : String :=
  String.ofList (traceId.toList.reverse.takeWhile (· ≠ '_')).reverse

/-- `trace_id_to_otel`. -/
def traceIdToOtel (traceId : String) : Except Failure Nat :=
  if (payload traceId).length ≠ ulidLength then .error .valueError
  else crockfordDecode (payload traceId)

/-- `otel_to_trace_id`. -/
def otelToTraceId (otelTraceId : Nat) : String :=
  traceIdPrefix ++ encodeCrockford otelTraceId ulidLength

/-- The id that `transaction_span` leaves for the root span. -/
def pendingTraceId (traceId : String) : Option Nat :=
  match traceIdToOtel traceId with
  | .ok otelTraceId => some otelTraceId
  | .error _ => none

/-- `generate_trace_id`. -/
def generateTraceId (pending : Option Nat) (random : Nat) : Nat := pending.getD random

/-- What an id is to be for OpenTelemetry: 128 bits, and an id of a trace is the one they
stand for. -/
structure Mirrors (traceId : String) : Prop where
  below : ∀ otelTraceId, traceIdToOtel traceId = .ok otelTraceId → otelTraceId < 2 ^ 128
  restored : ∀ otelTraceId, traceIdToOtel traceId = .ok otelTraceId →
    traceIdPrefix.toList <+: traceId.toList → otelToTraceId otelTraceId = traceId

/-- The id has the shape of a ulid. -/
structure Accepted (traceId : String) : Prop where
  length : (payload traceId).length = ulidLength
  proper : ∀ ch ∈ (payload traceId).toList, ch ∈ crockfordAlphabet

/-- The payload has no more than 128 bits, and an id of a trace is the prefix and the
payload. -/
structure Fits (traceId : String) : Prop where
  first : ∀ ch, (payload traceId).toList.head? = some ch → ch ∈ crockfordAlphabet.take 8
  bare : traceIdPrefix.toList <+: traceId.toList → traceId = traceIdPrefix ++ payload traceId

theorem accepted_of_ok {traceId : String} {otelTraceId : Nat}
    (decoded : traceIdToOtel traceId = .ok otelTraceId) :
    Accepted traceId ∧ crockfordDecode (payload traceId) = .ok otelTraceId := by
  rw [traceIdToOtel] at decoded
  split at decoded
  next => cases decoded
  next length => exact ⟨⟨not_not.mp length, mem_alphabet_of_decoded decoded⟩, decoded⟩

/-- An accepted id is turned into the number of its digits, and back. -/
theorem Accepted.decoded {traceId : String} (accepted : Accepted traceId) :
    ∃ digits : List Nat, (payload traceId).toList = digits.map crockfordChar ∧
      (∀ digit ∈ digits, digit < 32) ∧ digits.length = ulidLength ∧
      traceIdToOtel traceId = .ok (number 32 digits) ∧
      otelToTraceId (number 32 digits) = traceIdPrefix ++ payload traceId := by
  obtain ⟨digits, written, small⟩ := exists_digits accepted.proper
  have decoded := crockfordDecode_chars written small
  obtain ⟨value, again, encoded⟩ := encode_crockfordDecode accepted.proper
  rw [decoded] at again
  cases again
  refine ⟨digits, written, small, ?_, ?_, ?_⟩
  · rw [← accepted.length, ← String.length_toList, written, List.length_map]
  · rw [traceIdToOtel, if_neg (not_not.mpr accepted.length), decoded]
  · rw [otelToTraceId, ← accepted.length, encoded]

theorem crockfordChar_mem_take_iff {digit : Nat} (small : digit < 32) :
    crockfordChar digit ∈ crockfordAlphabet.take 8 ↔ digit < 8 := by
  interval_cases digit <;> decide

/-- An id is what it is to be, exactly when it is not accepted or fits. -/
theorem mirrors_iff (traceId : String) :
    Mirrors traceId ↔ (Accepted traceId → Fits traceId) := by
  constructor
  · intro mirrors accepted
    obtain ⟨digits, written, small, length, decoded, encoded⟩ := accepted.decoded
    refine ⟨fun ch leads => ?_, fun named => ?_⟩
    · rw [written] at leads
      cases digits with
      | nil => cases leads
      | cons digit digits =>
          cases leads
          have below := mirrors.below _ decoded
          rw [List.length_cons, ulidLength] at length
          have bound : (2 : Nat) ^ 128 = 8 * 32 ^ digits.length := by
            rw [Nat.succ.inj length]
            decide
          rw [bound, Foundation.number_lt_iff
            fun digit member => small digit (List.mem_cons_of_mem _ member)] at below
          exact (crockfordChar_mem_take_iff (small digit List.mem_cons_self)).mpr below
    · exact (mirrors.restored _ decoded named).symm.trans encoded
  · intro fits
    refine ⟨fun otelTraceId ok => ?_, fun otelTraceId ok named => ?_⟩
    · obtain ⟨digits, written, small, length, decoded, -⟩ := (accepted_of_ok ok).1.decoded
      rw [decoded] at ok
      cases ok
      cases digits with
      | nil => cases length
      | cons digit digits =>
          have leads := (fits (accepted_of_ok decoded).1).first (crockfordChar digit)
            (by rw [written]; rfl)
          rw [List.length_cons, ulidLength] at length
          have bound : (2 : Nat) ^ 128 = 8 * 32 ^ digits.length := by
            rw [Nat.succ.inj length]
            decide
          rw [bound, Foundation.number_lt_iff
            fun digit member => small digit (List.mem_cons_of_mem _ member)]
          exact (crockfordChar_mem_take_iff (small digit List.mem_cons_self)).mp leads
    · obtain ⟨digits, -, -, -, decoded, encoded⟩ := (accepted_of_ok ok).1.decoded
      rw [decoded] at ok
      cases ok
      rw [encoded]
      exact ((fits (accepted_of_ok decoded).1).bare named).symm

/-! ## Minted ids -/

theorem payload_newId (kind : String) (value : Nat) : payload (newId kind value) = ulid value := by
  have plain : ∀ ch ∈ (ulid value).toList.reverse, decide (ch ≠ '_') = true := by
    intro ch member
    rw [List.mem_reverse, ulid, toList_encodeCrockford] at member
    obtain ⟨digit, digitMember, rfl⟩ := List.mem_map.mp member
    have small := Foundation.lt_of_mem_numeral (by decide) digitMember
    refine decide_eq_true fun blank => ?_
    have proper := crockfordChar_mem small
    rw [blank] at proper
    revert proper
    decide
  rw [payload, newId, String.toList_append, String.toList_append, List.reverse_append,
    List.reverse_append, List.takeWhile_append_of_pos plain]
  simp

/-- An id that the application mints is accepted, and is what it is to be unless its kind
is a longer one that begins like that of a trace. -/
theorem newId_mirrors {kind : String} {value : Nat} (small : value < 2 ^ 128)
    (short : kind = "trc" ∨ ¬ traceIdPrefix.toList <+: (newId kind value).toList) :
    Accepted (newId kind value) ∧ Mirrors (newId kind value) := by
  have accepted : Accepted (newId kind value) := by
    refine ⟨?_, fun ch member => ?_⟩
    · rw [payload_newId, ← String.length_toList, ulid, toList_encodeCrockford, List.length_map,
        Foundation.length_numeral]
    · rw [payload_newId, ulid, toList_encodeCrockford] at member
      obtain ⟨digit, digitMember, rfl⟩ := List.mem_map.mp member
      exact crockfordChar_mem (Foundation.lt_of_mem_numeral (by decide) digitMember)
  have decoded : traceIdToOtel (newId kind value) = .ok value := by
    rw [traceIdToOtel, if_neg (not_not.mpr accepted.length), payload_newId, ulid]
    refine decode_encodeCrockford (small.trans_le ?_)
    decide
  refine ⟨accepted, fun otelTraceId ok => ?_, fun otelTraceId ok named => ?_⟩
  · rw [decoded] at ok
    cases ok
    exact small
  · rw [decoded] at ok
    cases ok
    rcases short with rfl | other
    · rfl
    · exact absurd named other

/-! ## The two encodings -/

/-- Encoding and decoding are inverse to each other, and an id that is accepted has a legal
trace id, from which an id of a trace is restored, exactly when it fits. -/
theorem trace_ids_mirrored (length value : Nat) (s traceId : String) :
    (value < 2 ^ (5 * length) → crockfordDecode (encodeCrockford value length) = .ok value) ∧
    ((∀ ch ∈ s.toList, ch ∈ crockfordAlphabet) →
      ∃ value, crockfordDecode s = .ok value ∧ encodeCrockford value s.length = s) ∧
    (Mirrors traceId ↔ (Accepted traceId → Fits traceId)) :=
  ⟨fun fits => decode_encodeCrockford fits, fun proper => encode_crockfordDecode proper,
    mirrors_iff traceId⟩

namespace Fixture

/-- The number one is written with leading zeros, and the id of a trace it makes is legal. -/
theorem one_mirrored : crockfordDecode (encodeCrockford 1 26) = .ok 1 ∧
    Mirrors "trc_00000000000000000000000001" := by
  have mirrored := trace_ids_mirrored 26 1 "" "trc_00000000000000000000000001"
  refine ⟨mirrored.1 (by decide), mirrored.2.2.mpr fun _ => ?_⟩
  have zero : (payload "trc_00000000000000000000000001").toList.head? = some '0' := by
    decide +kernel
  refine ⟨fun ch first => ?_, fun _ => by decide +kernel⟩
  cases first.symm.trans zero
  decide

/-- An id from outside can be a legal ulid by its characters and have 130 bits. -/
theorem foreign_id_overflows : ¬ Mirrors "corr_ZZZZZZZZZZZZZZZZZZZZZZZZZZ" := by
  intro mirrors
  have decoded : traceIdToOtel "corr_ZZZZZZZZZZZZZZZZZZZZZZZZZZ" = .ok (2 ^ 130 - 1) := by
    decide +kernel
  have below := mirrors.below _ decoded
  revert below
  decide

end Fixture

end Actl.Tracing
