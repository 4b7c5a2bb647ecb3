import Mathlib.Data.Set.Function
import Actl.Audit.Equality
import Actl.Audit.Loaded
import Actl.Catalog.Service
import Actl.Fixture
import Actl.Foundation.Base64

/-!
# Quote tokens

`build_quote_token` and `parse_and_verify_quote_token` of `domain/catalog/quote.py`. A token
carries the canonical payload of a quote and a signature over its hash. Parsing splits
an untrusted text, decodes what the payload decodes to, and compares signatures before it
reads any JSON.

An issued token is read back as its payload, and no text is read back as anything that
was not issued (`quote_token_iff`). Every other text raises `ValueError`, except for one
kind: where the payload decodes and the signature is not ASCII, `compare_digest` raises
another exception.
-/

set_option autoImplicit false

namespace Actl.Catalog

open Audit (Reordered Serialisable canonical jcs)
open Foundation (CodePoint CodeText)

/-! ## Tokens -/

section Tokens

variable (P : Platform)

/-- `sign_spec_hash`, under a key of bytes. -/
def signQuoteHash (quoteHash : String) (key : Bytes) : String :=
  hex (P.hmacSha256 key (encode quoteHash)).val

/-- `verify_signature`, in which `compare_digest` refuses text that is not ASCII. -/
def verifyQuoteSignature (quoteHash : String) (key : Bytes) (signatureValue : CodeText) :
    Except Failure Bool :=
  if CodeText.isAscii signatureValue then
    .ok (CodeText.ofString (signQuoteHash P quoteHash key) = signatureValue)
  else .error (.other "comparing strings with non-ASCII characters is not supported")

def quoteTokenPrefix : String := "qt_v1"

/-- `build_quote_token`. -/
def buildQuoteToken (quote : QuoteRecord) (quoteHash : String) (key : Bytes) : String :=
  let canonicalBytes := jcs (hashablePayload P quote)
  let payloadB64 := Foundation.Base64.stripPadding (Foundation.Base64.encode canonicalBytes)
  quoteTokenPrefix ++ "." ++ String.ofList payloadB64 ++ "." ++ signQuoteHash P quoteHash key

/-- `base64.urlsafe_b64decode` of a text with its padding put back. It takes ASCII only. -/
def decodePayload (payloadB64 : CodeText) : Option Bytes :=
  if CodeText.isAscii payloadB64 then do
    let text ← CodeText.chars? payloadB64
    Foundation.Base64.decode (text ++ Foundation.Base64.padding text)
  else none

/-- `json.loads` of a canonical text. -/
def loadPayload (canonicalBytes : Bytes) : Except Failure JSONValue :=
  match Audit.parse canonicalBytes with
  | some payload => .ok payload
  | none => .error .valueError

/-- The payload, once its signature is verified. -/
def readPayload (canonicalBytes : Bytes) (key : Bytes) (signature : CodeText) :
    Except Failure JSONValue := do
  let quoteHash := P.prefixedDigest canonicalBytes
  let valid ← verifyQuoteSignature P quoteHash key signature
  if valid then loadPayload canonicalBytes else .error .valueError

/-- `parse_and_verify_quote_token`. -/
def parseAndVerifyQuoteToken (token : CodeText) (key : Bytes) : Except Failure JSONValue :=
  match token.splitOn (.char '.') with
  | [version, payloadB64, signature] =>
      if version ≠ CodeText.ofString quoteTokenPrefix then .error .valueError
      else
        match decodePayload payloadB64 with
        | none => .error .valueError
        | some canonicalBytes => readPayload P canonicalBytes key signature
  | _ => .error .valueError

end Tokens

/-! ## The round trip -/

section RoundTrip

variable {P : Platform} {quote : QuoteRecord} {key : Bytes}

theorem serialisable_hashablePayload (P : Platform) (quote : QuoteRecord) :
    Serialisable (hashablePayload P quote) := by
  refine .obj (by simp) fun m member => ?_
  simp only [List.mem_cons, List.not_mem_nil, or_false] at member
  rcases member with rfl | rfl | rfl | rfl | rfl | rfl | rfl | rfl | rfl | rfl | rfl
  · exact .str _
  · exact .str _
  · exact .str _
  · exact .str _
  · exact .int _
  · exact .int _
  · exact .int _
  · exact .str _
  · exact .int _
  · exact .bool _
  · exact .str _

/-- The payload is read back as it was, up to the order of its members. -/
theorem reordered_hashablePayload (P : Platform) (quote : QuoteRecord) :
    Reordered (hashablePayload P quote) (canonical (hashablePayload P quote)) := by
  rw [hashablePayload, canonical]
  refine .obj (List.perm_insertionSort _ _).symm (List.Perm.refl _) rfl ?_
  exact List.forall₂_same.mpr fun value _ => .part rfl

theorem loadPayload_hashablePayload (P : Platform) (quote : QuoteRecord) :
    loadPayload (jcs (hashablePayload P quote)) = .ok (canonical (hashablePayload P quote)) := by
  rw [loadPayload, Audit.parse_jcs (serialisable_hashablePayload P quote)]

/-- Its canonical text is the issued one. -/
theorem jcs_canonical_hashablePayload (P : Platform) (quote : QuoteRecord) :
    jcs (canonical (hashablePayload P quote)) = jcs (hashablePayload P quote) := by
  rw [Audit.jcs_eq_utf8, Audit.jcs_eq_utf8,
    Audit.canonicalText_canonical (serialisable_hashablePayload P quote)]

theorem ofString_ascii {text : String} (ascii : ∀ c ∈ text.toList, c.toNat < 128) :
    CodeText.isAscii (CodeText.ofString text) = true := by
  rw [CodeText.isAscii, CodeText.ofString, CodeText.ofChars, List.all_map, List.all_eq_true]
  exact fun c member => decide_eq_true (ascii c member)

theorem signQuoteHash_ascii (P : Platform) (quoteHash : String) (key : Bytes) :
    CodeText.isAscii (CodeText.ofString (signQuoteHash P quoteHash key)) = true := by
  refine ofString_ascii fun c member => ?_
  obtain ⟨n, small, rfl⟩ := mem_hex member
  exact (by decide : ∀ n < 16, (Nat.digitChar n).toNat < 128) n small

/-- The digits of a payload, as a token carries them. -/
def payloadDigits (canonicalBytes : Bytes) : List Char :=
  Foundation.Base64.stripPadding (Foundation.Base64.encode canonicalBytes)

theorem payloadDigits_digit (canonicalBytes : Bytes) :
    ∀ c ∈ payloadDigits canonicalBytes, ∃ bits < 64, c = Foundation.Base64.digit bits := by
  rw [payloadDigits, Foundation.Base64.stripPadding_encode]
  exact Foundation.Base64.digits_digit canonicalBytes

theorem decodePayload_digits (canonicalBytes : Bytes) :
    decodePayload (CodeText.ofChars (payloadDigits canonicalBytes)) = some canonicalBytes := by
  have ascii : CodeText.isAscii (CodeText.ofChars (payloadDigits canonicalBytes)) = true := by
    rw [CodeText.isAscii, CodeText.ofChars, List.all_map, List.all_eq_true]
    intro c member
    obtain ⟨bits, small, rfl⟩ := payloadDigits_digit canonicalBytes c member
    exact (by decide : ∀ bits < 64,
      decide ((Foundation.Base64.digit bits).toNat < 128) = true) bits small
  rw [decodePayload, if_pos ascii, CodeText.chars?_ofChars]
  exact Foundation.Base64.decode_repadded canonicalBytes

theorem not_mem_ofChars {c : Char} {chars : List Char} (absent : c ∉ chars) :
    CodePoint.char c ∉ CodeText.ofChars chars := by
  intro member
  obtain ⟨c', here, same⟩ := List.mem_map.mp member
  cases same
  exact absent here

/-- A token is its parts with dots between them. -/
theorem buildQuoteToken_eq (P : Platform) (quote : QuoteRecord) (quoteHash : String) (key : Bytes) :
    CodeText.ofString (buildQuoteToken P quote quoteHash key)
      = [CodePoint.char '.'].intercalate [CodeText.ofString quoteTokenPrefix,
        CodeText.ofChars (payloadDigits (jcs (hashablePayload P quote))),
        CodeText.ofString (signQuoteHash P quoteHash key)] := by
  have dot : ".".toList = ['.'] := rfl
  rw [buildQuoteToken]
  simp only [CodeText.ofString, CodeText.ofChars, payloadDigits, String.toList_append, dot,
    String.toList_ofList, List.map_append, List.map_cons, List.map_nil, List.intercalate,
    List.intersperse, List.flatten_cons, List.flatten_nil, List.append_nil, List.append_assoc]

/-- A token comes apart into what it was built of. -/
theorem splitOn_buildQuoteToken (P : Platform) (quote : QuoteRecord) (quoteHash : String)
    (key : Bytes) :
    (CodeText.ofString (buildQuoteToken P quote quoteHash key)).splitOn (.char '.')
      = [CodeText.ofString quoteTokenPrefix,
        CodeText.ofChars (payloadDigits (jcs (hashablePayload P quote))),
        CodeText.ofString (signQuoteHash P quoteHash key)] := by
  have version : CodePoint.char '.' ∉ CodeText.ofString quoteTokenPrefix :=
    not_mem_ofChars (by decide)
  have payload (bytes : Bytes) : CodePoint.char '.' ∉ CodeText.ofChars (payloadDigits bytes) :=
    not_mem_ofChars fun dot => by
      obtain ⟨bits, small, same⟩ := payloadDigits_digit bytes _ dot
      exact Foundation.Base64.digit_ne_dot bits small same.symm
  have signature : CodePoint.char '.' ∉ CodeText.ofString (signQuoteHash P quoteHash key) :=
    not_mem_ofChars fun dot => by
      obtain ⟨n, small, same⟩ := mem_hex dot
      exact (by decide : ∀ n < 16, '.' ≠ Nat.digitChar n) n small same
  rw [buildQuoteToken_eq]
  refine List.splitOn_intercalate (CodePoint.char '.') (fun part member => ?_) (List.cons_ne_nil _ _)
  simp only [List.mem_cons, List.not_mem_nil, or_false] at member
  rcases member with same | same | same
  · rw [same]
    exact version
  · rw [same]
    exact payload _
  · rw [same]
    exact signature

/-- The three ways a payload is read, by its signature. -/
theorem readPayload_cases (P : Platform) (canonicalBytes : Bytes) (key : Bytes)
    (signature : CodeText) :
    (CodeText.isAscii signature = false ∧ readPayload P canonicalBytes key signature
      = .error (.other "comparing strings with non-ASCII characters is not supported")) ∨
    (CodeText.isAscii signature = true ∧
      CodeText.ofString (signQuoteHash P (P.prefixedDigest canonicalBytes) key) ≠ signature ∧
      readPayload P canonicalBytes key signature = .error .valueError) ∨
    (CodeText.isAscii signature = true ∧
      CodeText.ofString (signQuoteHash P (P.prefixedDigest canonicalBytes) key) = signature ∧
      readPayload P canonicalBytes key signature = loadPayload canonicalBytes) := by
  rw [readPayload, verifyQuoteSignature]
  cases ascii : CodeText.isAscii signature with
  | false => exact .inl ⟨rfl, rfl⟩
  | true =>
      by_cases same : CodeText.ofString
          (signQuoteHash P (P.prefixedDigest canonicalBytes) key) = signature
      · refine .inr (.inr ⟨rfl, same, ?_⟩)
        rw [if_pos rfl, decide_eq_true same]
        rfl
      · refine .inr (.inl ⟨rfl, same, ?_⟩)
        rw [if_pos rfl, decide_eq_false same]
        rfl

/-- An issued token is read back as its payload. -/
theorem parse_buildQuoteToken (P : Platform) (quote : QuoteRecord) (key : Bytes) :
    parseAndVerifyQuoteToken P
      (CodeText.ofString (buildQuoteToken P quote (computeQuoteHash P quote) key)) key
        = .ok (canonical (hashablePayload P quote)) := by
  rw [parseAndVerifyQuoteToken, splitOn_buildQuoteToken, computeQuoteHash]
  dsimp only
  rw [if_neg (not_not.mpr rfl), decodePayload_digits]
  dsimp only
  rcases readPayload_cases P (jcs (hashablePayload P quote)) key (CodeText.ofString
      (signQuoteHash P (P.prefixedDigest (jcs (hashablePayload P quote))) key)) with
    ⟨foreign, -⟩ | ⟨-, other, -⟩ | ⟨-, -, read⟩
  · rw [signQuoteHash_ascii] at foreign
    cases foreign
  · exact absurd rfl other
  · rw [read, loadPayload_hashablePayload]

end RoundTrip

/-! ## Untrusted tokens -/

section Untrusted

variable {P : Platform} {key : Bytes} {token : CodeText}

/-- The payload of a text in the form of a token decodes. -/
def Decodes (token : CodeText) (canonicalBytes : Bytes) (signature : CodeText) : Prop :=
  ∃ payloadB64, token.splitOn (.char '.')
    = [CodeText.ofString quoteTokenPrefix, payloadB64, signature] ∧
    decodePayload payloadB64 = some canonicalBytes

/-- What a parse may end in: the payload of an issued quote, or `ValueError`. -/
def ReadsIssued (P : Platform) (issued : Set QuoteRecord) :
    Except Failure JSONValue → Prop
  | .ok payload => ∃ quote ∈ issued, Reordered (hashablePayload P quote) payload ∧
      jcs payload = jcs (hashablePayload P quote)
  | .error failure => failure = .valueError

/-- The ways a parse ends. -/
theorem parse_cases (P : Platform) (token : CodeText) (key : Bytes) :
    ((¬∃ canonicalBytes signature, Decodes token canonicalBytes signature) ∧
      parseAndVerifyQuoteToken P token key = .error .valueError) ∨
    ∃ canonicalBytes signature, Decodes token canonicalBytes signature ∧
      parseAndVerifyQuoteToken P token key = readPayload P canonicalBytes key signature := by
  rw [parseAndVerifyQuoteToken]
  split
  next version payloadB64 signature parts =>
    split
    next other =>
      refine .inl ⟨fun ⟨_, _, _, same, _⟩ => other ?_, rfl⟩
      exact (List.cons.inj (parts.symm.trans same)).1
    next named =>
      obtain rfl := not_not.mp named
      split
      next broken =>
        refine .inl ⟨fun ⟨_, _, payloadB64', same, decoded⟩ => ?_, rfl⟩
        obtain rfl := (List.cons.inj (List.cons.inj (parts.symm.trans same)).2).1
        cases broken.symm.trans decoded
      next canonicalBytes decoded =>
        exact .inr ⟨canonicalBytes, signature, ⟨payloadB64, parts, decoded⟩, rfl⟩
  next other =>
    refine .inl ⟨fun ⟨_, _, _, same, _⟩ => ?_, rfl⟩
    exact other _ _ _ same

theorem Decodes.unique {canonicalBytes canonicalBytes' : Bytes} {signature signature' : CodeText}
    (first : Decodes token canonicalBytes signature)
    (second : Decodes token canonicalBytes' signature') :
    canonicalBytes' = canonicalBytes ∧ signature' = signature := by
  obtain ⟨payloadB64, parts, decoded⟩ := first
  obtain ⟨payloadB64', parts', decoded'⟩ := second
  rw [parts] at parts'
  simp only [List.cons.injEq, and_true, true_and] at parts'
  obtain ⟨rfl, rfl⟩ := parts'
  exact ⟨Option.some.inj (decoded'.symm.trans decoded), rfl⟩

/-- Of a text that is signed as a token is, the payload was issued. -/
theorem issued_of_valid {issued : Set QuoteRecord} {texts : Set Bytes} {canonicalBytes : Bytes}
    (collisionFree : Set.InjOn P.sha256 texts) (here : canonicalBytes ∈ texts)
    (there : ∀ quote ∈ issued, jcs (hashablePayload P quote) ∈ texts)
    (known : ∃ quote ∈ issued, computeQuoteHash P quote = P.prefixedDigest canonicalBytes) :
    ∃ quote ∈ issued, jcs (hashablePayload P quote) = canonicalBytes := by
  obtain ⟨quote, member, same⟩ := known
  exact ⟨quote, member, collisionFree (there quote member) here
    (Audit.prefixedDigest_injective same)⟩

/-- An issued token is read back as the payload of its quote. Any text at all, where no
signature in it was forged and the hash does not collide, is read as the payload of an
issued quote or raises `ValueError`, exactly unless its payload decodes and its signature
is not ASCII. -/
theorem quote_token_iff (P : Platform) (key : Bytes) :
    (∀ quote, ∃ payload, parseAndVerifyQuoteToken P
        (CodeText.ofString (buildQuoteToken P quote (computeQuoteHash P quote) key)) key
          = .ok payload ∧ Reordered (hashablePayload P quote) payload) ∧
    ∀ (issued : Set QuoteRecord) (texts : Set Bytes) (token : CodeText),
      (∀ quoteHash, CodeText.ofString (signQuoteHash P quoteHash key) ∈ token.splitOn (.char '.') →
        ∃ quote ∈ issued, computeQuoteHash P quote = quoteHash) →
      Set.InjOn P.sha256 texts → (∀ quote ∈ issued, jcs (hashablePayload P quote) ∈ texts) →
      (∀ canonicalBytes signature, Decodes token canonicalBytes signature →
        canonicalBytes ∈ texts) →
      (ReadsIssued P issued (parseAndVerifyQuoteToken P token key) ↔
        ∀ canonicalBytes signature, Decodes token canonicalBytes signature →
          CodeText.isAscii signature = true) := by
  refine ⟨fun quote => ⟨_, parse_buildQuoteToken P quote key, reordered_hashablePayload P quote⟩,
    fun issued texts token unforgeable collisionFree there here => ?_⟩
  rcases parse_cases P token key with ⟨malformed, raised⟩ | ⟨canonicalBytes, signature, decodes, read⟩
  · rw [raised]
    exact iff_of_true rfl fun bytes signature decodes => (malformed ⟨bytes, signature, decodes⟩).elim
  · rw [read]
    have sole : (∀ canonicalBytes signature, Decodes token canonicalBytes signature →
        CodeText.isAscii signature = true) ↔ CodeText.isAscii signature = true := by
      refine ⟨fun all => all _ _ decodes, fun ascii bytes signature' decodes' => ?_⟩
      rw [(decodes.unique decodes').2]
      exact ascii
    rw [sole]
    rcases readPayload_cases P canonicalBytes key signature with
      ⟨foreign, raised⟩ | ⟨ascii, -, raised⟩ | ⟨ascii, same, loaded⟩
    · rw [raised, foreign]
      exact iff_of_false (fun clash => by cases clash) Bool.false_ne_true
    · rw [raised]
      exact iff_of_true rfl ascii
    · rw [loaded]
      have presented : CodeText.ofString (signQuoteHash P (P.prefixedDigest canonicalBytes) key)
          ∈ token.splitOn (.char '.') := by
        obtain ⟨payloadB64, parts, -⟩ := decodes
        rw [parts, same]
        exact List.mem_cons_of_mem _ (List.mem_cons_of_mem _ List.mem_cons_self)
      obtain ⟨quote, member, issuedBytes⟩ := issued_of_valid collisionFree (here _ _ decodes) there
        (unforgeable _ presented)
      rw [← issuedBytes, loadPayload_hashablePayload]
      exact iff_of_true ⟨quote, member, reordered_hashablePayload P quote,
        jcs_canonical_hashablePayload P quote⟩ ascii

end Untrusted

namespace Fixture

open Actl.Fixture (platform)

/-- A text in the form of a token, with a signature that is no ASCII text. -/
def accentedToken : CodeText := CodeText.ofString "qt_v1..é"

/-- The exception that a parse raised. -/
def raised? : Except Failure JSONValue → Option Failure
  | .ok _ => none
  | .error failure => some failure

/-- Parsing it raises another exception than `ValueError`. -/
theorem accented_token_raises :
    ¬ReadsIssued platform Set.univ
      (parseAndVerifyQuoteToken platform accentedToken (encode "quote-key")) := by
  have raised : raised? (parseAndVerifyQuoteToken platform accentedToken (encode "quote-key"))
      = some (.other "comparing strings with non-ASCII characters is not supported") := by
    decide +kernel
  intro reads
  cases result : parseAndVerifyQuoteToken platform accentedToken (encode "quote-key") with
  | ok payload =>
      rw [result] at raised
      cases raised
  | error failure =>
      rw [result] at raised reads
      rw [Option.some.inj raised] at reads
      cases reads

/-- A token with a signature made up, which cannot be one of the key. -/
def forgedToken : CodeText := CodeText.ofString "qt_v1.AAAA.00"

theorem forgedToken_parts : forgedToken.splitOn (.char '.')
    = [CodeText.ofString quoteTokenPrefix, CodeText.ofString "AAAA", CodeText.ofString "00"] := by
  decide +kernel

/-- A hexadecimal digest has 64 digits. -/
theorem length_signQuoteHash (P : Platform) (quoteHash : String) (key : Bytes) :
    (CodeText.ofString (signQuoteHash P quoteHash key)).length = 64 := by
  have long := (P.hmacSha256 key (encode quoteHash)).property
  have double (bytes : Bytes) : (bytes.flatMap fun b =>
      [Nat.digitChar (b.toNat / 16), Nat.digitChar (b.toNat % 16)]).length = 2 * bytes.length := by
    induction bytes with
    | nil => rfl
    | cons b bytes ih =>
        rw [List.flatMap_cons, List.length_append, ih, List.length_cons, List.length_cons,
          List.length_cons, List.length_nil]
        omega
  rw [CodeText.ofString, CodeText.ofChars, List.length_map, signQuoteHash, hex,
    String.toList_ofList, double, long]

/-- The texts that are hashed: a quote's payload, and what the token decodes to. -/
def hashedTexts : Set Bytes :=
  {jcs (hashablePayload platform Actl.Fixture.seaViewQuote), [0, 0, 0]}

theorem hashedTexts_injOn : Set.InjOn platform.sha256 hashedTexts := by
  have apart : platform.sha256 (jcs (hashablePayload platform Actl.Fixture.seaViewQuote))
      ≠ platform.sha256 [0, 0, 0] := by decide +kernel
  rintro text (rfl | rfl) text' (rfl | rfl) same
  · rfl
  · exact absurd same apart
  · exact absurd same.symm apart
  · rfl

/-- It is refused. -/
theorem forged_token_refused :
    ReadsIssued platform {Actl.Fixture.seaViewQuote}
      (parseAndVerifyQuoteToken platform forgedToken (encode "quote-key")) := by
  have ascii : CodeText.isAscii (CodeText.ofString "00") = true := by decide
  have decoded : decodePayload (CodeText.ofString "AAAA") = some [0, 0, 0] := by decide +kernel
  have sole : ∀ canonicalBytes signature, Decodes forgedToken canonicalBytes signature →
      canonicalBytes = [0, 0, 0] ∧ signature = CodeText.ofString "00" := fun _ _ decodes =>
    Decodes.unique ⟨_, forgedToken_parts, decoded⟩ decodes
  have unforgeable : ∀ quoteHash, CodeText.ofString
      (signQuoteHash platform quoteHash (encode "quote-key")) ∈ forgedToken.splitOn (.char '.') →
        ∃ quote ∈ ({Actl.Fixture.seaViewQuote} : Set QuoteRecord),
          computeQuoteHash platform quote = quoteHash := by
    intro quoteHash member
    have long := length_signQuoteHash platform quoteHash (encode "quote-key")
    rw [forgedToken_parts] at member
    simp only [List.mem_cons, List.not_mem_nil, or_false] at member
    rcases member with same | same | same
    · rw [same] at long
      cases long
    · rw [same] at long
      cases long
    · rw [same] at long
      cases long
  have there : ∀ quote ∈ ({Actl.Fixture.seaViewQuote} : Set QuoteRecord),
      jcs (hashablePayload platform quote) ∈ hashedTexts := by
    rintro quote rfl
    exact .inl rfl
  have here : ∀ canonicalBytes signature, Decodes forgedToken canonicalBytes signature →
      canonicalBytes ∈ hashedTexts := fun _ _ decodes => .inr (sole _ _ decodes).1
  have decided := (quote_token_iff platform (encode "quote-key")).2 _ _ _ unforgeable
    hashedTexts_injOn there here
  rw [decided]
  intro canonicalBytes signature decodes
  rw [(sole _ _ decodes).2]
  exact ascii

end Fixture

end Actl.Catalog
