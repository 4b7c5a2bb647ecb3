import Actl.Agents.Envelope
import Actl.Catalog.Listing
import Actl.Foundation.Sequential
import Actl.Programs

/-!
# Answering a verified message

`_dispatch` and the end of `post_message` of `interfaces/agent/routes.py` with the
handlers of `application/agents/merchant.py`, and the REST routes of
`interfaces/http/routers/catalog.py`. A message of each type has its own body schema;
validation is a parameter, and what it admits carries the constraints of the schema.

A handler is one transaction, except that `order.propose` is a program. Everything
else that raises, raises through the route.
-/

set_option autoImplicit false

namespace Actl.Agents

open Audit (LoadedValue)
open Catalog (CatalogFeed CatalogItems CatalogQuery Collation QuoteArgs listCatalog maxUnitPriceMinor)
open Policy (ReasonCode)
open Saga (ProposeArgs)

/-! ## Bodies -/

/-- `Field(min_length=1, pattern=_NO_NUL_BYTES)`. -/
structure Key where
  text : String
  minLength : text ≠ ""
  nulFree : NulFree text

structure CapabilityDiscoverBody where
  supportedProtocols : List String
  minLength : supportedProtocols ≠ []

/-- What the agents' and the REST query of the catalog have in common. -/
structure CatalogQueryBody where
  category : Option String
  location : Option String
  maxUnitMinor : Option Int
  cursor : Option String
  limit : Nat
  categoryNulFree : ∀ category' ∈ category, NulFree category'
  locationNulFree : ∀ location' ∈ location, NulFree location'
  maximumInRange : ∀ maximum ∈ maxUnitMinor, 0 < maximum ∧ maximum ≤ maxUnitPriceMinor
  cursorNulFree : ∀ cursor' ∈ cursor, NulFree cursor'
  limitInRange : 0 < limit ∧ limit ≤ 100

structure QuoteRequestBody where
  sku : Key
  mandateId : Key
  nights : Int
  positive : 0 < nights

/-- What `create_quote` is called with for a request. -/
def QuoteRequestBody.args (body : QuoteRequestBody) (actorId traceId : String) :
    Catalog.QuoteArgs where
  mandateId := body.mandateId.text
  sku := body.sku.text
  nights := body.nights
  actorId := actorId
  traceId := traceId

structure OrderProposeBody where
  quoteId : Key
  quoteHash : Key
  mandateId : Key
  mandateSpecHash : Key
  intentHash : Key

structure OrderStatusBody where
  orderId : Key

structure ReceiptIssueBody where
  orderId : Key

/-- What the merchant takes from outside: the validation of bodies, the rendering of
models, and its own key. -/
structure MerchantPlatform extends AgentPlatform where
  collation : Collation
  capabilityDiscoverBody : LoadedValue → Option CapabilityDiscoverBody
  catalogQueryBody : LoadedValue → Option CatalogQueryBody
  quoteRequestBody : LoadedValue → Option QuoteRequestBody
  orderProposeBody : LoadedValue → Option OrderProposeBody
  orderStatusBody : LoadedValue → Option OrderStatusBody
  receiptIssueBody : LoadedValue → Option ReceiptIssueBody
  feedDump : CatalogFeed → JSONValue
  quoteDump : QuoteRecord → JSONValue
  orderStatusText : OrderStatus → String
  merchantAgentId : String
  merchantKeyId : String
  merchantSign : Bytes → Bytes

/-! ## Handlers -/

inductive HandlerOutcome where
  | result (type : MessageType) (body : JSONValue)
  | error (reasonCode : ReasonCode) (message : String) (retryable : Bool)

/-- The ids that the handlers of one request draw. -/
structure Drawn where
  traceId : String
  orderId : String

section Handlers

variable (M : MerchantPlatform)

/-- Texts that are bound to the parameters of a query. -/
def bindTexts {α : Type} (texts : List String) (body : Except Failure α) : Except Failure α :=
  if ∀ text ∈ texts, NulFree text then body else .error .dbapiError

/-- `CAPABILITY_DOCUMENT`. -/
def capabilityDocument : JSONValue :=
  .obj [("protocol", .str "actl.acp/1"), ("currency", .str "INR"),
    ("endpoints", .ofStrings [("catalog", "/agent/v1/catalog"), ("quote", "/agent/v1/quote"),
      ("messages", "/agent/v1/messages")]),
    ("signing", .obj [("algorithms", .arr [.str "Ed25519", .str "HMAC-SHA256"])]),
    ("limits", .obj [("quote_ttl_s", .int M.settings.quoteTtlS)])]

/-- `list_catalog` with its query bound. -/
def listBound (query : CatalogQuery) (actorId traceId : String) (now : Time) (items : CatalogItems)
    (db : Database) : Except Failure (CatalogFeed × Database) :=
  bindTexts (query.category.toList ++ query.locationCity.toList ++ query.locationCountry.toList ++
    query.cursor.toList ++ [actorId]) (listCatalog M.toPlatform M.collation query actorId traceId now items db)

/-- `create_quote` with its texts bound. -/
def quoteBound (args : QuoteArgs) (quoteId : String) (now : Time) (db : Database) :
    Except Failure (QuoteRecord × Database) :=
  bindTexts [args.mandateId, args.sku, args.actorId] (Catalog.createQuote M.toPlatform args quoteId now db)

/-- `handle_catalog_query`. -/
def handleCatalogQuery (query : CatalogQuery) (actorId traceId : String) (items : CatalogItems)
    (input : Input) (w : World) : Except Failure HandlerOutcome × World :=
  let (reply, w) := w.transaction input.dbError
    (listBound M query actorId traceId (input.now 0 0) items)
  (reply.map fun feed => .result .catalogQuery (M.feedDump feed), w)

/-- `handle_quote_request`. -/
def handleQuoteRequest (args : QuoteArgs) (input : Input) (w : World) :
    Except Failure HandlerOutcome × World :=
  let (reply, w) := w.transaction input.dbError (quoteBound M args (input.ids 0) (input.now 0 0))
  (match reply with
    | .ok quote => .ok (.result .quoteRequest (M.quoteDump quote))
    | .error (.mandateNotFound mandateId) =>
        .ok (.error .mandateInvalid ("no mandate " ++ mandateId) false)
    | .error (.skuNotFound sku) => .ok (.error .stalePrice ("no catalog item " ++ sku) false)
    | .error (.skuUnavailable sku) =>
        .ok (.error .stalePrice (sku ++ " has no available units") false)
    | .error failure => .error failure, w)

/-- What a proposal is answered with. -/
def proposalBody (traceId : String) : HandlerResult → JSONValue
  | .accept orderId sagaId =>
      .obj [("decision", .str "accept"), ("order_id", Catalog.optionalText orderId),
        ("saga_id", .str sagaId)]
  | .reject code => .ofStrings [("decision", "reject"), ("reason_code", code.value),
      ("trace_id", traceId)]

/-- `handle_order_propose`, run with an input for each of its actions. -/
def answerProposal (args : ProposeArgs) (orderId : String) (inputs : Nat → Input) (w : World) :
    Except Failure HandlerOutcome × World :=
  let texts := [args.mandateId, args.quoteId, args.traceId, args.actorId]
  if ∀ text ∈ texts, NulFree text then
    let (reply, w) := (handleOrderPropose M.toPlatform args orderId).alone
      (execute M.toPlatform) inputs w
    (reply.map fun result => .result .orderPropose (proposalBody args.traceId result), w)
  else (.error .dbapiError, w)

/-- `get_seq_range_for_order`. -/
def seqRangeForOrder (log : Audit.AuditLog) (orderId : String) : Option (Nat × Nat) :=
  let seqs := (log.entries.zipIdx 1).filterMap fun (entry, seq) =>
    match entry.subject.get? "order_id" with
    | some (.str id) => if id = orderId then some seq else none
    | _ => none
  match seqs.head?, seqs.getLast? with
  | some first, some last => some (first, last)
  | _, _ => none

/-- The ends of a range, or nulls. -/
def seqMembers : Option (Nat × Nat) → List (String × JSONValue)
  | some (first, last) => [("audit_seq_from", .int first), ("audit_seq_to", .int last)]
  | none => [("audit_seq_from", .null), ("audit_seq_to", .null)]

/-- The order and where the audit log has it. -/
def readOrder (orderId : String) (input : Input) (w : World) :
    Except Failure (Option (OrderRecord × Option (Nat × Nat))) × World :=
  w.query input.dbError fun db => bindTexts [orderId]
    (.ok ((db.getOrder orderId).map fun order => (order, seqRangeForOrder db.auditLog orderId)))

/-- `handle_order_status`. -/
def handleOrderStatus (orderId : String) (input : Input) (w : World) :
    Except Failure HandlerOutcome × World :=
  let (reply, w) := readOrder orderId input w
  (reply.map fun
    | none => .error .orderNotFound ("no order " ++ orderId) false
    | some (order, range) => .result .orderStatus (.obj
        ([("order_id", .str order.id), ("status", .str (M.orderStatusText order.status)),
          ("amount_minor", .int order.amountMinor), ("currency", .str order.currency),
          ("provider_payment_id", Catalog.optionalText order.providerPaymentId)]
          ++ seqMembers range)), w)

/-- `handle_receipt_issue`. -/
def handleReceiptIssue (orderId : String) (input : Input) (w : World) :
    Except Failure HandlerOutcome × World :=
  let (reply, w) := readOrder orderId input w
  (reply.map fun
    | none => .error .orderNotFound ("no order " ++ orderId) false
    | some (order, range) =>
        if order.status ≠ .captured then
          .error .orderNotSettled ("order " ++ orderId ++ " is not yet settled") true
        else .result .receiptIssue (.obj
          ([("order_id", .str order.id),
            ("payment_id", Catalog.optionalText order.providerPaymentId),
            ("amount_minor", .int order.amountMinor), ("currency", .str order.currency)]
            ++ seqMembers range)), w)

/-! ## Dispatch -/

def invalidBody (type : MessageType) : HandlerOutcome :=
  .error .malformedRequest ("invalid " ++ type.text ++ " body") false

/-- `a or None` for a text. -/
def orNone (text : String) : Option String := if text = "" then none else some text

/-- What stands behind the first comma. -/
def afterComma (text : String) : String :=
  String.ofList ((text.toList.dropWhile (· ≠ ',')).drop 1)

/-- `_split_location`. -/
def splitLocation (location : Option String) : Option String × Option String :=
  match location with
  | none => (none, none)
  | some text => (orNone (strip (beforeComma text)), orNone (strip (afterComma text)))

/-- The query that a body asks for. -/
def CatalogQueryBody.query (body : CatalogQueryBody) (location : Option String × Option String) :
    CatalogQuery where
  category := body.category
  locationCity := location.1
  locationCountry := location.2
  maxUnitMinor := body.maxUnitMinor
  cursor := body.cursor
  limit := body.limit

/-- `_dispatch`. -/
def dispatch (envelope : AgentEnvelope) (drawn : Drawn) (items : CatalogItems)
    (inputs : Nat → Input) (w : World) : Except Failure HandlerOutcome × World :=
  match envelope.type with
  | .capabilityDiscover =>
      match M.capabilityDiscoverBody envelope.body with
      | none => (.ok (invalidBody .capabilityDiscover), w)
      | some _ => (.ok (.result .capabilityDiscover (capabilityDocument M)), w)
  | .catalogQuery =>
      match M.catalogQueryBody envelope.body with
      | none => (.ok (invalidBody .catalogQuery), w)
      | some body => handleCatalogQuery M (body.query (splitLocation body.location)) envelope.from_
          drawn.traceId items (inputs 0) w
  | .quoteRequest =>
      match M.quoteRequestBody envelope.body with
      | none => (.ok (invalidBody .quoteRequest), w)
      | some body =>
          handleQuoteRequest M (body.args envelope.from_ drawn.traceId) (inputs 0) w
  | .orderPropose =>
      match M.orderProposeBody envelope.body with
      | none => (.ok (invalidBody .orderPropose), w)
      | some body => answerProposal M
          { quoteId := body.quoteId.text, quoteHash := body.quoteHash.text
            mandateId := body.mandateId.text, mandateSpecHash := body.mandateSpecHash.text
            intentHash := body.intentHash.text, traceId := envelope.corrId
            actorId := envelope.from_ } drawn.orderId inputs w
  | .orderStatus =>
      match M.orderStatusBody envelope.body with
      | none => (.ok (invalidBody .orderStatus), w)
      | some body => handleOrderStatus M body.orderId.text (inputs 0) w
  | .receiptIssue =>
      match M.receiptIssueBody envelope.body with
      | none => (.ok (invalidBody .receiptIssue), w)
      | some body => handleReceiptIssue body.orderId.text (inputs 0) w
  | .error =>
      (.ok (.error .malformedRequest ("unhandled message type " ++ M.pyRepr "error") false), w)

/-- `build_response_envelope`. -/
def buildResponseEnvelope (request : AgentEnvelope) (outcome : HandlerOutcome) (msgId : String)
    (now : Time) : Except Failure AgentEnvelope := do
  let draft (type : MessageType) (body : JSONValue) : AgentEnvelope :=
    { protocol := "actl.acp/1", msgId := msgId, ts := .utc now, from_ := M.merchantAgentId
      to_ := request.from_, corrId := request.corrId, type := type, body := .ofJson body
      sig := none }
  let unsigned := match outcome with
    | .error reasonCode message retryable => draft .error (.obj
        [("reason_code", .str reasonCode.value), ("message", .str message),
          ("retryable", .bool retryable)])
    | .result type body => draft type body
  signEnvelopeEd25519 M.toAgentPlatform unsigned M.merchantSign M.merchantKeyId

/-- The part of `post_message` behind `verify_envelope`. -/
def answerMessage (request : AgentEnvelope) (drawn : Drawn) (items : CatalogItems)
    (inputs : Nat → Input) (msgId : String) (now : Time) (w : World) :
    Except Failure AgentEnvelope × World :=
  let (outcome, w) : Except Failure HandlerOutcome × World :=
    if request.type = .error then
      (.ok (.error .malformedRequest (M.pyRepr "error" ++ " is not a request type") false), w)
    else dispatch M request drawn items inputs w
  (outcome.bind fun outcome => buildResponseEnvelope M request outcome msgId now, w)

/-! ## The REST routes -/

/-- `_parse_location`. -/
def parseLocation (location : Option String) : Option String × Option String :=
  match location with
  | none => (none, none)
  | some text => (orNone (beforeComma text), orNone (afterComma text))

/-- `_compute_etag`. -/
def computeEtag (catalogVersion : Int) (query : CatalogQuery) : String :=
  let payload : JSONValue := .obj [
    ("category", Catalog.optionalText query.category),
    ("location_city", Catalog.optionalText query.locationCity),
    ("location_country", Catalog.optionalText query.locationCountry),
    ("max_unit_minor", (query.maxUnitMinor.map JSONValue.int).getD .null),
    ("cursor", Catalog.optionalText query.cursor),
    ("limit", .int query.limit)]
  "\"cat-v" ++ toString catalogVersion ++ "-" ++
    String.ofList ((M.hexdigest (Audit.jcs payload)).toList.take 4) ++ "\""

/-- `_if_none_match_hits`. -/
def ifNoneMatchHits (header etag : String) : Bool :=
  let candidates := (header.toList.splitOn ',').map fun part => strip (String.ofList part)
  candidates.contains "*" || candidates.contains etag

/-- The header is there and names the entity tag. -/
def isNotModified (ifNoneMatch : Option String) (etag : String) : Bool :=
  match ifNoneMatch with
  | none => false
  | some header => header ≠ "" && ifNoneMatchHits header etag

/-- A response of a REST route. -/
inductive Response where
  | content (status : Nat) (body : JSONValue)
  | notModified (etag : String)
  | httpException (status : Nat) (detail : String)

/-- `get_catalog`. -/
def getCatalog (body : CatalogQueryBody) (ifNoneMatch : Option String) (actorId traceId : String)
    (items : CatalogItems) (input : Input) (w : World) : Except Failure Response × World :=
  let query := body.query (parseLocation body.location)
  let etag := computeEtag M w.db.catalogVersion query
  if isNotModified ifNoneMatch etag then (.ok (.notModified etag), w)
  else
    let (reply, w) := w.transaction input.dbError
      (listBound M query actorId traceId (input.now 0 0) items)
    (match reply with
      | .ok feed => .ok (.content 200 (M.feedDump feed))
      | .error .valueError => .ok (.httpException 400 "malformed cursor")
      | .error failure => .error failure, w)

/-- `post_quote`. -/
def postQuote (body : QuoteRequestBody) (actorId traceId : String) (input : Input) (w : World) :
    Except Failure Response × World :=
  let (reply, w) := w.transaction input.dbError (quoteBound M (body.args actorId traceId)
    (input.ids 0) (input.now 0 0))
  (match reply with
    | .ok quote => .ok (.content 201 (M.quoteDump quote))
    | .error (.mandateNotFound mandateId) =>
        .ok (.httpException 404 ("no mandate " ++ mandateId))
    | .error (.skuNotFound sku) => .ok (.httpException 404 ("no catalog item " ++ sku))
    | .error (.skuUnavailable sku) => .ok (.httpException 409 (sku ++ " has no available units"))
    | .error failure => .error failure, w)

end Handlers

end Actl.Agents
