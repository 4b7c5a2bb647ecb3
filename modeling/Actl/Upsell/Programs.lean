import Actl.Programs
import Actl.Upsell.Transactions

/-!
# The calls of the shop

`list_eligible_offers`, `decline_upsell` and `purchase_upsell`, and the two catalog
transactions, as programs over the statements. A purchase goes through the pipeline
every other purchase does: `handle_order_propose` and `complete_purchase` are the
programs of the application, and other calls of the application come in beside them.

Ids and clock readings that the code draws are arguments of the call.
-/

set_option autoImplicit false

namespace Actl.Upsell

open Foundation (Code Program System)
open Audit (AppendRequest)
open Agents (CatalogItemRow)
open Catalog (QuoteArgs PriceArgs draftQuote)
open Mandates (Mandate MandateStatus computeSpecHash signSpecHash)
open Policy (PurchaseIntent ReasonCode computeIntentHash)

abbrev ShopProg (α : Type) : Type := Code ShopAction ShopReply Failure α

/-- Issuing one action. -/
def issue (action : ShopAction) : ShopProg (ShopValue action) := Code.perform action id

def send (n : Nat) (statement : Statement) : ShopProg statement.Value :=
  issue (.statement n statement)

/-- A program of the application, as the part of a purchase. -/
def lift {α : Type} (part : Part) : Program Action Reply α → Program ShopAction ShopReply α
  | .done value => .done value
  | .act action next => .act (.within part action) fun reply => lift part (next reply)

/-- `async with UnitOfWork`: whatever is not committed at the end is rolled back. -/
def unitOfWork {α : Type} (body : Nat → ShopProg α) : ShopProg α := do
  let n ← issue .startTransaction
  let outcome ← (body n).outcome
  issue (.endTransaction n)
  match outcome with
  | .ok value => return value
  | .error failure => throw failure

/-! ## Catalog transactions -/

/-- The audit entry of an issued quote. -/
def quoteIssued (P : Platform) (args : QuoteArgs) (quote : QuoteRecord) : AppendRequest where
  traceId := args.traceId
  actorType := "agent"
  actorId := args.actorId
  action := .quoteIssued
  subject := .ofStrings [("sku", quote.sku), ("quote_id", quote.id)]
  payload := .obj [("sku", .str quote.sku), ("price_minor", .int quote.unitPriceMinor),
    ("catalog_version", .int quote.catalogVersion),
    ("expires_at", .str (P.isoformat quote.expiresAt))]

/-- `create_quote`. -/
def createQuote (P : Platform) (n : Nat) (args : QuoteArgs) (quoteId : String) (now : Time) :
    ShopProg QuoteRecord := do
  match ← send n (.getMandate args.mandateId) with
  | none => throw (.mandateNotFound args.mandateId)
  | some _ =>
      match ← send n (.getItem args.sku) with
      | none => throw (.skuNotFound args.sku)
      | some item =>
          if item.availableUnits ≤ 0 then throw (.skuUnavailable args.sku)
          else
            let version ← send n .currentVersion
            let quote := draftQuote P args item.toCatalogItemRecord version quoteId now
            send n (.addQuote quote)
            send n (.appendEntry (quoteIssued P args quote))
            issue (.commit n)
            return quote

/-- The audit entry of a new price. -/
def priceMutated (args : PriceArgs) (version : Int) : AppendRequest where
  traceId := args.traceId
  actorType := "admin"
  actorId := args.actorId
  action := .catalogPriceMutated
  subject := .ofStrings [("sku", args.sku)]
  payload := .obj [("sku", .str args.sku), ("new_unit_price_minor", .int args.newUnitPriceMinor),
    ("catalog_version", .int version)]

/-- `mutate_price_demo_only`. A price that is set to what was read is not written. -/
def mutatePriceDemoOnly (n : Nat) (args : PriceArgs) : ShopProg Unit := do
  if args.newUnitPriceMinor ≤ 0 then throw .invalidPriceMutation
  else
    match ← send n (.getItem args.sku) with
    | none => throw (.skuNotFound args.sku)
    | some item =>
        let version ← send n .bumpVersion
        if item.unitPriceMinor ≠ args.newUnitPriceMinor then
          send n (.setPrice args.sku args.newUnitPriceMinor)
        send n (.appendEntry (priceMutated args version))
        issue (.commit n)

/-! ## Offers -/

/-- `_load_base_context`. -/
def loadBaseContext (n : Nat) (baseOrderId : String) : ShopProg (Option BaseOrderContext) := do
  match ← send n (.getOrder baseOrderId) with
  | none => return none
  | some order =>
      if order.status ≠ .captured then return none
      else
        match ← send n (.getQuote order.quoteId) with
        | none => return none
        | some quote =>
            match ← send n (.getItem quote.sku) with
            | none => return none
            | some item =>
                if item.category ≠ hotelCategory then return none
                else
                  match ← send n (.getMandate order.mandateId) with
                  | none => return none
                  | some row =>
                      return some
                        { mandateId := row.mandate.mandateId
                          nights := row.mandate.intent.nights
                          rooms := row.mandate.intent.rooms
                          locationCity := item.locationCity
                          locationCountry := item.locationCountry }

/-- The loop of `list_eligible_offers` over the add-ons. -/
def eligibleOffers (n : Nat) (baseOrderId : String) (ctx : BaseOrderContext) :
    List CatalogItemRow → ShopProg (List EligibleOffer)
  | [] => return []
  | addon :: addons => do
      if addon.availableUnits ≤ 0 then eligibleOffers n baseOrderId ctx addons
      else
        let existing ← send n (.getAddonPurchase (baseOrderId, addon.sku))
        let offers ← eligibleOffers n baseOrderId ctx addons
        if existing.any fun row => row.status ≠ .offered then return offers
        else return (toOffer addon ctx.nights ctx.rooms).toList ++ offers

/-- The loop that records what is shown, with the ids it draws. -/
def recordOffers (n : Nat) (baseOrderId : String) (ids : Nat → String) :
    List EligibleOffer → ShopProg Unit
  | [] => return ()
  | offer :: offers => do
      send n (.recordOffered (ids offers.length) (baseOrderId, offer.sku) offer.totalMinor
        offer.currency)
      recordOffers n baseOrderId ids offers

/-- `list_eligible_offers`. -/
def listEligibleOffers (n : Nat) (baseOrderId : String) (ids : Nat → String) :
    ShopProg (Option (List EligibleOffer)) := do
  match ← loadBaseContext n baseOrderId with
  | none => return none
  | some ctx =>
      let items ← send n (.listItems ctx.locationCity ctx.locationCountry 50)
      let offers ← eligibleOffers n baseOrderId ctx (items.filter isAddon)
      if offers ≠ [] then
        recordOffers n baseOrderId ids offers
        issue (.commit n)
      return some offers

/-- `price_offer_for_purchase`. -/
def priceOfferForPurchase (n : Nat) (baseOrderId offerSku : String) :
    ShopProg (Option EligibleOffer) := do
  match ← loadBaseContext n baseOrderId with
  | none => return none
  | some ctx =>
      match ← send n (.getItem offerSku) with
      | none => return none
      | some addon =>
          if ¬ isAddon addon then return none
          else if addon.availableUnits ≤ 0 then return none
          else return toOffer addon ctx.nights ctx.rooms

/-! ## Purchases -/

/-- What `purchase_upsell` is called with, and what it draws. -/
structure PurchaseArgs where
  baseOrderId : String
  offerSku : String
  now : Time
  mandateDefaultTtlS : Int
  traceId : String
  addonMandateId : String
  addonPurchaseId : String
  quoteTraceId : String
  quoteId : String
  quotedAt : Time
  orderId : String
  completeTraceId : String
  deriving DecidableEq

def PurchaseArgs.key (args : PurchaseArgs) : AddonKey := (args.baseOrderId, args.offerSku)

/-- The mandate for one add-on, within the offer it was priced at. -/
def addonMandate (P : Platform) (args : PurchaseArgs) (offer : EligibleOffer) : Mandate :=
  let draft : Mandate :=
    { mandateId := args.addonMandateId
      version := 1
      principal := ⟨"human", "usr_web_buyer"⟩
      delegate := ⟨"agent", "agt_web_buyer", "ed25519:web-buyer"⟩
      intent := ⟨offer.category, "Goa, IN", "addon", offer.quantity, 1⟩
      bounds :=
        { currency := offer.currency
          maxTotalMinor := offer.totalMinor
          maxUnitMinor := max (Int.fdiv offer.totalMinor offer.quantity) 1
          maxTransactions := 1
          allowedCategories := [offer.category]
          blockedMerchants := []
          requireRefundable := offer.refundable
          maxPriceDeltaBps := 1000 }
      temporal := ⟨args.now, args.now + seconds args.mandateDefaultTtlS, P.settings.quoteTtlS⟩
      controls := ⟨true, true⟩ }
  let specHash := computeSpecHash P draft
  { draft with
    specHash := some specHash
    signature := some
      ⟨"HMAC-SHA256", "mk_web_buyer", signSpecHash P specHash P.settings.mandateSigningKey⟩ }

def addonQuoteArgs (args : PurchaseArgs) (offer : EligibleOffer) : QuoteArgs where
  mandateId := args.addonMandateId
  sku := args.offerSku
  nights := offer.quantity
  actorId := "web_buyer"
  traceId := args.quoteTraceId

def pendingArgs (args : PurchaseArgs) (offer : EligibleOffer) : PendingArgs where
  id := args.addonPurchaseId
  key := args.key
  addonMandateId := args.addonMandateId
  priceMinor := offer.totalMinor
  currency := offer.currency

/-- The first transaction of a purchase: the row is taken up, and the mandate and the
quote of the add-on are made. -/
def openPurchase (P : Platform) (args : PurchaseArgs) (n : Nat) :
    ShopProg (Mandate × QuoteRecord) := do
  match ← priceOfferForPurchase n args.baseOrderId args.offerSku with
  | none => throw (.httpException 409)
  | some offer =>
      if ← send n (.tryMarkPending (pendingArgs args offer)) then
        send n (.addMandate (addonMandate P args offer))
        let quote ← createQuote P n (addonQuoteArgs args offer) args.quoteId args.quotedAt
        issue (.commit n)
        return (addonMandate P args offer, quote)
      else throw (.httpException 409)

/-- The proposal a purchase makes of its own mandate, quote and item. -/
def addonProposal (P : Platform) (args : PurchaseArgs) (mandate : Mandate) (quote : QuoteRecord)
    (item : CatalogItemRow) : Saga.ProposeArgs :=
  let draft : PurchaseIntent :=
    { currency := mandate.bounds.currency
      category := item.category
      merchant := item.merchantId
      unitPriceMinor := quote.unitPriceMinor
      totalMinor := quote.totalMinor
      nights := quote.nights
      rooms := mandate.intent.rooms
      refundable := quote.refundable
      quotedTotalMinor := quote.totalMinor
      currentTotalMinor := item.unitPriceMinor * quote.nights
      catalogVersion := quote.catalogVersion
      mandateSpecHash := mandate.specHash.getD ""
      intentHash := "" }
  { quoteId := quote.id
    quoteHash := quote.quoteHash
    mandateId := mandate.mandateId
    mandateSpecHash := mandate.specHash.getD ""
    intentHash := computeIntentHash P draft
    traceId := args.traceId
    actorId := "web_buyer" }

/-- The answer of `purchase_upsell`. -/
structure PurchaseAnswer where
  accepted : Bool
  reasonCode : Option ReasonCode
  addonOrderId : Option String
  deriving DecidableEq

def rejected (reasonCode : Option ReasonCode) : PurchaseAnswer := ⟨false, reasonCode, none⟩

/-- The row fails and the purchase is refused. -/
def refusePurchase (args : PurchaseArgs) : ShopProg PurchaseAnswer := do
  issue (.mark args.key .failed)
  throw (.httpException 409)

/-- The purchase of an order that was accepted, from its payment on. -/
def payPurchase (P : Platform) (args : PurchaseArgs) (orderId sagaId : String) :
    ShopProg PurchaseAnswer := do
  match (← issue (.getOrder orderId)).bind OrderRecord.providerOrderId with
  | none => refusePurchase args
  | some providerOrderId =>
      let payments ← issue (.fetchPayments providerOrderId)
      match P.buildCheckoutPayload, payments with
      | some build, payment :: _ =>
          let complete : CompleteArgs :=
            { sagaId := sagaId, providerOrderId := providerOrderId
              providerPaymentId := payment.id
              providerSignature := build providerOrderId payment.id
              actorId := "web_buyer", traceId := args.completeTraceId }
          let snapshot ← (lift .completing (completePurchase P complete) :
            ShopProg Saga.SagaSnapshot)
          if snapshot.status = .completed then
            issue (.mark args.key (.settled orderId))
            return ⟨true, snapshot.reasonCode, some orderId⟩
          else
            issue (.mark args.key .failed)
            return rejected snapshot.reasonCode
      | _, _ => refusePurchase args

/-- `purchase_upsell`. -/
def purchaseUpsell (P : Platform) (args : PurchaseArgs) : ShopProg PurchaseAnswer := do
  let (mandate, quote) ← unitOfWork (openPurchase P args)
  match ← unitOfWork fun n => send n (.getItem quote.sku) with
  | none => throw .assertionError
  | some item =>
      let result ← (lift .proposing
        (handleOrderPropose P (addonProposal P args mandate quote item) args.orderId) :
          ShopProg HandlerResult)
      match result with
      | .reject code =>
          issue (.mark args.key .failed)
          return rejected (some code)
      -- `str()` of a missing id is the text `None`.
      | .accept orderId sagaId => payPurchase P args (orderId.getD "None") sagaId

/-! ## The system -/

/-- The calls of the application that come in beside those of the shop. Catalog
transactions are calls of the shop, and money moves by proposals only. -/
def inPipeline : Call → Bool
  | .createProviderOrder _ | .executeMoneyAction .. | .beginPurchase .. => false
  | .createQuote _ | .mutatePrice _ | .upsertItem _ => false
  | _ => true

abbrev PipelineCall : Type := { call : Call // inPipeline call = true }

inductive ShopCall where
  | listEligibleOffers (baseOrderId : String) (ids : Nat → String)
  | declineUpsell (baseOrderId : String)
  | purchaseUpsell (args : PurchaseArgs)
  | createQuote (args : QuoteArgs) (quoteId : String) (now : Time)
  | mutatePriceDemoOnly (args : PriceArgs)
  | pipeline (call : PipelineCall)
  /-- The database has lost the connection of a transaction. -/
  | disconnect (n : Nat)

inductive ShopOutcome where
  | offers (offers : Option (List EligibleOffer))
  | purchased (answer : PurchaseAnswer)
  | quoted (quote : QuoteRecord)
  | applied (outcome : Outcome)
  | nothing
  deriving DecidableEq

def ShopCall.code (P : Platform) : ShopCall → ShopProg ShopOutcome
  | .listEligibleOffers baseOrderId ids => do
      return .offers (← unitOfWork fun n => Upsell.listEligibleOffers n baseOrderId ids)
  | .declineUpsell baseOrderId => do
      issue (.declineAllOffered baseOrderId)
      return .nothing
  | .purchaseUpsell args => do return .purchased (← Upsell.purchaseUpsell P args)
  | .createQuote args quoteId now => do
      return .quoted (← unitOfWork fun n => Upsell.createQuote P n args quoteId now)
  | .mutatePriceDemoOnly args => do
      unitOfWork fun n => Upsell.mutatePriceDemoOnly n args
      return .nothing
  | .pipeline call => do
      return .applied (← (lift .proposing (Call.code P call.1) : ShopProg Outcome))
  | .disconnect n => do
      issue (.endTransaction n)
      return .nothing

/-- The shop: any number of calls on one store and one provider. -/
def shop (P : Platform) : System where
  Action := ShopAction
  Reply := ShopReply
  Input := ShopInput
  State := Shop
  Call := ShopCall
  Result := Except Failure ShopOutcome
  execute := Shop.execute P
  code := ShopCall.code P

end Actl.Upsell
