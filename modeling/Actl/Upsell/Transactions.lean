import Mathlib.Data.String.Basic
import Actl.Audit.Append
import Actl.Catalog.Listing
import Actl.Upsell.Addons
import Actl.Upsell.Offers
import Actl.World

/-!
# Transactions of the shop, statement by statement

The shop is the world together with the add-on purchases and the transactions that
are open on them. A transaction sends one statement at a time. A statement sees what
is committed at its own time and what its own transaction has written
(READ COMMITTED); writes become visible to others when the transaction commits.

A row that is written, the catalog's version and the head of the audit chain stay
locked until the transaction ends. A statement that finds a lock taken fails. That it
waits instead is a run in which it is sent later.

The session keeps the catalog rows it has read, but only as long as something refers
to them; the input of a step says whether a row is still kept.
-/

set_option autoImplicit false

namespace Actl.Upsell

open Audit (AppendRequest)
open Agents (CatalogItemRow CatalogLocation)
open Catalog (Collation FitsBigint rowKey)
open Foundation (Keyset.above)
open Mandates (Mandate)
open Payments (ProviderPayment)

/-! ## Open transactions -/

/-- What can be locked. -/
inductive Lock where
  | addon (key : AddonKey)
  | catalog
  | chain
  deriving DecidableEq

/-- What a transaction has read and written, the latest first. -/
structure Transaction where
  items : List CatalogItemRow
  locks : List Lock
  addons : List AddonPurchaseRecord
  mandates : List MandateRow
  quotes : List QuoteRecord
  prices : List (String × Int)
  version : Option Int
  entries : List AppendRequest

def Transaction.fresh : Transaction := ⟨[], [], [], [], [], [], none, []⟩

/-- The store, the open transactions by their numbers, where each item is, and the
database's order of texts. -/
structure Shop where
  world : World
  addons : AddonPurchases
  transactions : List (Option Transaction)
  location : String → CatalogLocation
  textOrder : LinearOrder String

namespace Shop

variable (shop : Shop)

/-- The transaction with the number, if it is open. -/
def transaction? (n : Nat) : Option Transaction := shop.transactions[n]?.join

def replace (n : Nat) (t : Transaction) : Shop :=
  { shop with transactions := shop.transactions.set n (some t) }

/-- No transaction but the given one has the lock. -/
def free (n : Nat) (lock : Lock) : Bool :=
  (List.range shop.transactions.length).all fun m =>
    m = n || (shop.transaction? m).all fun t => lock ∉ t.locks

/-- No transaction has the lock. -/
def unlocked (lock : Lock) : Bool := shop.free shop.transactions.length lock

/-- The row of an item with all its columns. -/
def itemRow (item : CatalogItemRecord) : CatalogItemRow where
  toCatalogItemRecord := item
  locationCity := (shop.location item.sku).city
  locationCountry := (shop.location item.sku).country

/-- The add-on row that a transaction sees under a key. -/
def addonRow? (t : Transaction) (key : AddonKey) : Option AddonPurchaseRecord :=
  (t.addons.find? fun row => row.key = key).or (shop.addons.get? key)

/-- The order of texts, as the catalog's query takes it. -/
def collation : Collation := ⟨String, shop.textOrder, id, Function.injective_id⟩

/-- The items at a place. -/
def located (city country : String) : List CatalogItemRow :=
  (shop.world.db.items.rows.map shop.itemRow).filter fun row =>
    row.locationCity = city ∧ row.locationCountry = country

/-- `list_items`: by price and sku, at most the given number. -/
def listItems (city country : String) (limit : Nat) : List CatalogItemRow :=
  (Keyset.above (rowKey shop.collation) none (shop.located city country)).take limit

end Shop

/-! ## Statements -/

inductive Statement where
  | getOrder (orderId : String)
  | getQuote (quoteId : String)
  | getMandate (mandateId : String)
  | getItem (sku : String)
  | listItems (city country : String) (limit : Nat)
  | currentVersion
  | getAddonPurchase (key : AddonKey)
  | recordOffered (id : String) (key : AddonKey) (priceMinor : Int) (currency : String)
  | tryMarkPending (args : PendingArgs)
  | addMandate (mandate : Mandate)
  | addQuote (quote : QuoteRecord)
  | bumpVersion
  | setPrice (sku : String) (unitPriceMinor : Int)
  | appendEntry (request : AppendRequest)

/-- What a statement that does not fail answers. -/
@[reducible] def Statement.Value : Statement → Type
  | .getOrder _ => Option OrderRecord
  | .getQuote _ => Option QuoteRecord
  | .getMandate _ => Option MandateRow
  | .getItem _ => Option CatalogItemRow
  | .listItems .. => List CatalogItemRow
  | .currentVersion | .bumpVersion => Int
  | .getAddonPurchase _ => Option AddonPurchaseRecord
  | .tryMarkPending _ => Bool
  | _ => Unit

/-- The locks a statement needs. An insertion that finds its row needs none. -/
def Statement.locks (shop : Shop) (t : Transaction) : Statement → List Lock
  | .recordOffered _ key _ _ => if (shop.addonRow? t key).isSome then [] else [.addon key]
  | .tryMarkPending args => [.addon args.key]
  | .bumpVersion => [.catalog]
  | .appendEntry _ => [.chain]
  | _ => []

/-- The row `mandates.add` inserts for a mandate that is locked, with the checks of its
table. -/
def lockedRow? (mandate : Mandate) : Option MandateRow :=
  if plain : ':' ∉ mandate.mandateId.toList then
    if positive : 0 < mandate.bounds.maxTotalMinor then some ⟨mandate, .locked, plain, positive⟩
    else none
  else none

/-- A catalog row comes back from the database, unless the session has kept it. -/
def Transaction.loadItem (shop : Shop) (t : Transaction) (kept : Bool) (sku : String) :
    Option CatalogItemRow × Transaction :=
  match t.items.find? fun row => kept ∧ row.sku = sku with
  | some row => (some row, t)
  | none =>
      match shop.world.db.items.get? CatalogItemRecord.sku sku with
      | none => (none, t)
      | some item => (some (shop.itemRow item), { t with items := shop.itemRow item :: t.items })

/-- The row that an insertion or an update writes under its key, if it writes one. -/
def Transaction.writeAddon (t : Transaction) : Option AddonPurchaseRecord → Transaction
  | none => t
  | some row => { t with addons := row :: t.addons }

/-- A statement that has the locks it needs. -/
def Statement.perform (shop : Shop) (kept : Bool) (t : Transaction) :
    (statement : Statement) → Except Failure (statement.Value × Transaction)
  | .getOrder orderId => .ok (shop.world.db.getOrder orderId, t)
  | .getQuote quoteId =>
      .ok ((t.quotes.find? fun q => q.id = quoteId).or
        (shop.world.db.quotes.get? QuoteRecord.id quoteId), t)
  | .getMandate mandateId =>
      .ok ((t.mandates.find? fun row => row.id = mandateId).or
        (shop.world.db.getMandate mandateId), t)
  | .getItem sku => .ok (t.loadItem shop kept sku)
  | .listItems city country limit => .ok (shop.listItems city country limit, t)
  | .currentVersion => .ok (t.version.getD shop.world.db.catalogVersion, t)
  | .getAddonPurchase key => .ok (shop.addonRow? t key, t)
  | .recordOffered id key priceMinor currency =>
      if FitsBigint priceMinor then
        .ok ((), t.writeAddon (recordOfferedRow id key priceMinor currency (shop.addonRow? t key)))
      else .error .dbapiError
  | .tryMarkPending args =>
      if FitsBigint args.priceMinor then
        let written := tryMarkPendingRow args (shop.addonRow? t args.key)
        .ok (written.isSome, t.writeAddon written)
      else .error .dbapiError
  | .addMandate mandate =>
      if mandate.specHash = none then .error .valueError
      else
        match lockedRow? mandate with
        | none => .error .dbapiError
        | some row => .ok ((), { t with mandates := row :: t.mandates })
  | .addQuote quote =>
      if 0 < quote.unitPriceMinor ∧ 0 < quote.totalMinor then
        .ok ((), { t with quotes := quote :: t.quotes })
      else .error .dbapiError
  | .bumpVersion =>
      let version := t.version.getD shop.world.db.catalogVersion + 1
      .ok (version, { t with version := some version })
  | .setPrice sku unitPriceMinor =>
      .ok ((), { t with prices := (sku, unitPriceMinor) :: t.prices })
  | .appendEntry request => .ok ((), { t with entries := request :: t.entries })

/-! ## Committing -/

/-- A new price leaves the sku alone. -/
theorem price_keeps (unitPriceMinor : Int) : ∀ col ∈ [CatalogItemRecord.sku],
    ∀ item : CatalogItemRecord, col { item with unitPriceMinor := unitPriceMinor } = col item := by
  simp

/-- What is committed of a transaction in the database of the world; nothing, when a
row has an id that is taken. -/
def Transaction.publish (P : Platform) (t : Transaction) (db : Database) : Option Database := do
  let mandates ← t.mandates.foldrM (fun row mandates => mandates.insert? row) db.mandates
  let quotes ← t.quotes.foldrM (fun quote quotes => quotes.insert? quote) db.quotes
  let items := t.prices.foldr (fun price items =>
    items.modify (fun item => item.sku = price.1)
      (fun item => { item with unitPriceMinor := price.2 }) (price_keeps price.2)) db.items
  let auditLog := t.entries.foldr (fun request log => log.append P request) db.auditLog
  return { db with
    mandates := mandates
    quotes := quotes
    items := items
    catalogVersion := t.version.getD db.catalogVersion
    auditLog := auditLog }

/-! ## Actions -/

/-- What the environment decides about one step. -/
structure ShopInput extends Input where
  kept : Bool

/-- The two parts of the pipeline that a purchase goes through:
`handle_order_propose` and `complete_purchase`. A call of the application runs as the
first. -/
inductive Part where
  | proposing
  | completing
  deriving DecidableEq

/-- A transaction is started, sends statements, commits and is ended. The transaction
of a single update is one action, and the pipeline acts on the world. -/
inductive ShopAction where
  | startTransaction
  | statement (n : Nat) (statement : Statement)
  | commit (n : Nat)
  | endTransaction (n : Nat)
  | mark (key : AddonKey) (mark : Mark)
  | declineAllOffered (baseOrderId : String)
  | getOrder (orderId : String)
  | fetchPayments (providerOrderId : String)
  | within (part : Part) (action : Action)

@[reducible] def ShopValue : ShopAction → Type
  | .startTransaction => Nat
  | .statement _ statement => statement.Value
  | .getOrder _ => Option OrderRecord
  | .fetchPayments _ => List ProviderPayment
  | .within _ action => Value action
  | _ => Unit

abbrev ShopReply (action : ShopAction) : Type := Except Failure (ShopValue action)

namespace Shop

/-- A statement of an open transaction. -/
def send (shop : Shop) (n : Nat) (statement : Statement) (input : ShopInput) :
    Except Failure statement.Value × Shop :=
  match shop.transaction? n with
  | none => (.error .dbapiError, shop)
  | some t =>
      if input.dbError ∨ ¬ (statement.locks shop t).all (shop.free n) then (.error .dbapiError, shop)
      else
        match statement.perform shop input.kept t with
        | .error failure => (.error failure, shop)
        | .ok (value, t') =>
            (.ok value, shop.replace n { t' with locks := statement.locks shop t ++ t'.locks })

/-- The writes of a transaction become what is committed. -/
def commit (P : Platform) (shop : Shop) (n : Nat) (input : ShopInput) :
    Except Failure Unit × Shop :=
  match shop.transaction? n with
  | none => (.error .dbapiError, shop)
  | some t =>
      if input.dbError then (.error .dbapiError, shop)
      else
        match t.publish P shop.world.db with
        | none => (.error .dbapiError, shop)
        | some db =>
            (.ok (),
              { shop with
                world := { shop.world with db := db }
                addons := shop.addons.putAll t.addons
                transactions := shop.transactions.set n (some .fresh) })

/-- An action on the world. -/
def act (P : Platform) (shop : Shop) (action : Action) (input : ShopInput) :
    Reply action × Shop :=
  let performed := Actl.execute P action input.toInput shop.world
  (performed.1, { shop with world := performed.2 })

/-- Performing an action. -/
def execute (P : Platform) : (action : ShopAction) → ShopInput → Shop → ShopReply action × Shop
  | .startTransaction, _, shop =>
      (.ok shop.transactions.length,
        { shop with transactions := shop.transactions ++ [some .fresh] })
  | .statement n statement, input, shop => shop.send n statement input
  | .commit n, input, shop => shop.commit P n input
  | .endTransaction n, _, shop =>
      (.ok (), { shop with transactions := shop.transactions.set n none })
  | .mark key mark, input, shop =>
      if input.dbError ∨ ¬ shop.unlocked (.addon key) then (.error .dbapiError, shop)
      else (.ok (), { shop with addons := markRow shop.addons key mark })
  | .declineAllOffered baseOrderId, input, shop =>
      let rows := shop.addons.rows.filter (declinable baseOrderId)
      if input.dbError ∨ ¬ rows.all fun row => shop.unlocked (.addon row.key) then
        (.error .dbapiError, shop)
      else (.ok (), { shop with addons := declineAllOffered shop.addons baseOrderId })
  | .getOrder orderId, input, shop =>
      (if input.dbError then .error .dbapiError else .ok (shop.world.db.getOrder orderId), shop)
  | .fetchPayments providerOrderId, input, shop => shop.act P (.fetchPayments providerOrderId) input
  | .within _ action, input, shop => shop.act P action input

end Shop

end Actl.Upsell
