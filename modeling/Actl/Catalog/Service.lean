import Actl.Foundation.Program
import Actl.Store

/-!
# Catalog transactions

The transactions of `application/catalog_service.py` that write, and the seeding
of an item. A quote pins the price of its item and the version of the whole
catalog; changing a price moves the version on, seeding an item does not.
-/

set_option autoImplicit false

namespace Actl.Catalog

open Audit (jcs)

/-- What `create_quote` is called with, and the trace id it draws. -/
structure QuoteArgs where
  mandateId : String
  sku : String
  nights : Int
  actorId : String
  traceId : String
  deriving DecidableEq

/-- `_hashable_payload`. -/
def hashablePayload (P : Platform) (quote : QuoteRecord) : JSONValue :=
  .obj [
    ("schema", .str "actl.quote/v1"),
    ("quote_id", .str quote.id),
    ("sku", .str quote.sku),
    ("mandate_id", .str quote.mandateId),
    ("unit_price_minor", .int quote.unitPriceMinor),
    ("nights", .int quote.nights),
    ("total_minor", .int quote.totalMinor),
    ("currency", .str quote.currency),
    ("catalog_version", .int quote.catalogVersion),
    ("refundable", .bool quote.refundable),
    ("expires_at", .str (P.jsonTime quote.expiresAt))]

def computeQuoteHash (P : Platform) (quote : QuoteRecord) : String :=
  P.prefixedDigest (jcs (hashablePayload P quote))

/-- The quote `create_quote` makes of an item at one version of the catalog. The
currency of a quote has only the one value. -/
def draftQuote (P : Platform) (args : QuoteArgs) (item : CatalogItemRecord) (version : Int)
    (quoteId : String) (now : Time) : QuoteRecord :=
  let draft : QuoteRecord :=
    { id := quoteId
      mandateId := args.mandateId
      sku := item.sku
      unitPriceMinor := item.unitPriceMinor
      nights := args.nights
      totalMinor := item.unitPriceMinor * args.nights
      currency := "INR"
      catalogVersion := version
      refundable := item.refundable
      quoteHash := ""
      expiresAt := now + seconds P.settings.quoteTtlS }
  { draft with quoteHash := computeQuoteHash P draft }

/-- `MAX_UNIT_PRICE_MINOR`. -/
def maxUnitPriceMinor : Int := 9223372036854775807

/-- The integer fits a `bigint`. -/
def FitsBigint (n : Int) : Prop := -maxUnitPriceMinor - 1 ≤ n ∧ n ≤ maxUnitPriceMinor

instance (n : Int) : Decidable (FitsBigint n) := inferInstanceAs (Decidable (_ ∧ _))

/-- The integer fits an `integer`. -/
def FitsInteger (n : Int) : Prop := -2147483648 ≤ n ∧ n ≤ 2147483647

instance (n : Int) : Decidable (FitsInteger n) := inferInstanceAs (Decidable (_ ∧ _))

/-- The checks and the column types of the table of quotes. The version of the catalog
comes from a column of the same type. -/
structure Storable (quote : QuoteRecord) : Prop where
  pricePositive : 0 < quote.unitPriceMinor
  totalPositive : 0 < quote.totalMinor
  price : FitsBigint quote.unitPriceMinor
  nights : FitsInteger quote.nights
  total : FitsBigint quote.totalMinor

instance (quote : QuoteRecord) : Decidable (Storable quote) :=
  decidable_of_iff (0 < quote.unitPriceMinor ∧ 0 < quote.totalMinor ∧
      FitsBigint quote.unitPriceMinor ∧ FitsInteger quote.nights ∧ FitsBigint quote.totalMinor)
    ⟨fun ⟨pricePositive, totalPositive, price, nights, total⟩ =>
      ⟨pricePositive, totalPositive, price, nights, total⟩,
      fun fits => ⟨fits.pricePositive, fits.totalPositive, fits.price, fits.nights, fits.total⟩⟩

/-- `quotes.add`. -/
def addQuote (quote : QuoteRecord) (db : Database) : Except Failure Database :=
  if Storable quote then
    match db.quotes.insert? quote with
    | some quotes => .ok { db with quotes }
    | none => .error .dbapiError
  else .error .dbapiError

/-- `create_quote`. -/
def createQuote (P : Platform) (args : QuoteArgs) (quoteId : String) (now : Time) (db : Database) :
    Except Failure (QuoteRecord × Database) :=
  match db.getMandate args.mandateId with
  | none => .error (.mandateNotFound args.mandateId)
  | some _ =>
      match db.items.get? CatalogItemRecord.sku args.sku with
      | none => .error (.skuNotFound args.sku)
      | some item =>
          if item.availableUnits ≤ 0 then .error (.skuUnavailable args.sku)
          else do
            let quote := draftQuote P args item db.catalogVersion quoteId now
            let db ← addQuote quote db
            return (quote, db.appendEntry P args.traceId "agent" args.actorId .quoteIssued
              (.ofStrings [("sku", quote.sku), ("quote_id", quote.id)])
              (.obj [("sku", .str quote.sku), ("price_minor", .int quote.unitPriceMinor),
                ("catalog_version", .int quote.catalogVersion),
                ("expires_at", .str (P.isoformat quote.expiresAt))]))

/-- What `mutate_price_demo_only` is called with, and the trace id it draws. -/
structure PriceArgs where
  sku : String
  newUnitPriceMinor : Int
  actorId : String
  traceId : String
  deriving DecidableEq

/-- `mutate_price_demo_only`: the price and the version change together. -/
def mutatePriceDemoOnly (P : Platform) (args : PriceArgs) (db : Database) :
    Except Failure Database :=
  if args.newUnitPriceMinor ≤ 0 then .error .invalidPriceMutation
  else
    match db.items.get? CatalogItemRecord.sku args.sku with
    | none => .error (.skuNotFound args.sku)
    | some _ =>
        let items := db.items.modify (fun item => item.sku = args.sku)
          (fun item => { item with unitPriceMinor := args.newUnitPriceMinor }) (by simp)
        let db := { db with items, catalogVersion := db.catalogVersion + 1 }
        .ok (db.appendEntry P args.traceId "admin" args.actorId .catalogPriceMutated
          (.ofStrings [("sku", args.sku)])
          (.obj [("sku", .str args.sku), ("new_unit_price_minor", .int args.newUnitPriceMinor),
            ("catalog_version", .int db.catalogVersion)]))

/-- `upsert_item`, with the checks of its table. The version stays. -/
def upsertItem (item : CatalogItemRecord) (db : Database) : Except Failure Database :=
  if 0 < item.unitPriceMinor ∧ 0 ≤ item.availableUnits then
    match db.items.insert? item with
    | some items => .ok { db with items }
    | none =>
        let items := db.items.modify (fun row => row.sku = item.sku)
          (fun row => { item with sku := row.sku }) (by simp)
        .ok { db with items }
  else .error .dbapiError

/-! ## What they leave alone -/

/-- A catalog transaction writes items and the version, adds quotes, and appends
at most one entry to the audit log. -/
structure Catalogued (P : Platform) (db db' : Database) : Prop where
  mandates : db'.mandates = db.mandates
  decisions : db'.decisions = db.decisions
  orders : db'.orders = db.orders
  ledgerEntries : db'.ledgerEntries = db.ledgerEntries
  sagas : db'.sagas = db.sagas
  idempotencyKeys : db'.idempotencyKeys = db.idempotencyKeys
  webhookEvents : db'.webhookEvents = db.webhookEvents
  integrity : db'.integrity = db.integrity
  quotes : ∀ quote ∈ db.quotes, quote ∈ db'.quotes
  audit : db'.auditLog = db.auditLog ∨ ∃ traceId actorType actorId action subject payload,
    db'.auditLog = db.auditLog.appendEntry P traceId actorType actorId action subject payload

theorem addQuote_ok {quote : QuoteRecord} {db db' : Database} (done : addQuote quote db = .ok db') :
    ∃ quotes, db.quotes.insert? quote = some quotes ∧ db' = { db with quotes } := by
  unfold addQuote at done
  split at done
  · split at done
    · rename_i quotes inserted
      cases done
      exact ⟨quotes, inserted, rfl⟩
    · cases done
  · cases done

theorem createQuote_ok {P : Platform} {args : QuoteArgs} {quoteId : String} {now : Time}
    {db db' : Database} {quote : QuoteRecord}
    (done : createQuote P args quoteId now db = .ok (quote, db')) :
    quote ∉ db.quotes ∧ (∀ q, q ∈ db'.quotes ↔ q ∈ db.quotes ∨ q = quote) ∧
      Catalogued P db db' := by
  unfold createQuote at done
  split at done
  · cases done
  · split at done
    · cases done
    · split at done
      · cases done
      · obtain ⟨middle, added, ends⟩ := Foundation.bind_eq_ok.mp done
        cases ends
        obtain ⟨quotes, inserted, rfl⟩ := addQuote_ok added
        have member := fun q => Foundation.Table.mem_of_insert? inserted (x := q)
        refine ⟨fun present => ?_, member, ?_⟩
        · exact Foundation.Table.not_clashes_of_insert? inserted QuoteRecord.id (by simp)
            present rfl
        · exact ⟨rfl, rfl, rfl, rfl, rfl, rfl, rfl, rfl, fun q present => (member q).mpr (.inl present),
            .inr ⟨_, _, _, _, _, _, rfl⟩⟩

/-- A quote that was made pins an available item at the catalog's version. -/
theorem createQuote_quote {P : Platform} {args : QuoteArgs} {quoteId : String} {now : Time}
    {db db' : Database} {quote : QuoteRecord}
    (done : createQuote P args quoteId now db = .ok (quote, db')) :
    ∃ item, db.items.get? CatalogItemRecord.sku args.sku = some item ∧ 0 < item.availableUnits ∧
      quote = draftQuote P args item db.catalogVersion quoteId now := by
  unfold createQuote at done
  split at done
  · cases done
  · split at done
    · cases done
    · next item found =>
      split at done
      · cases done
      · next available =>
        obtain ⟨middle, -, ends⟩ := Foundation.bind_eq_ok.mp done
        cases ends
        exact ⟨item, found, Int.not_le.mp available, rfl⟩

/-- A quote leaves the items and the version of the catalog. -/
theorem createQuote_catalog {P : Platform} {args : QuoteArgs} {quoteId : String} {now : Time}
    {db db' : Database} {quote : QuoteRecord}
    (done : createQuote P args quoteId now db = .ok (quote, db')) :
    db'.items = db.items ∧ db'.catalogVersion = db.catalogVersion := by
  unfold createQuote at done
  split at done
  · cases done
  · split at done
    · cases done
    · split at done
      · cases done
      · obtain ⟨middle, added, ends⟩ := Foundation.bind_eq_ok.mp done
        cases ends
        obtain ⟨quotes, -, rfl⟩ := addQuote_ok added
        exact ⟨rfl, rfl⟩

/-- A quote that was made fits its table. -/
theorem createQuote_storable {P : Platform} {args : QuoteArgs} {quoteId : String} {now : Time}
    {db db' : Database} {quote : QuoteRecord}
    (done : createQuote P args quoteId now db = .ok (quote, db')) : Storable quote := by
  unfold createQuote at done
  split at done
  · cases done
  · split at done
    · cases done
    · split at done
      · cases done
      · obtain ⟨middle, added, ends⟩ := Foundation.bind_eq_ok.mp done
        cases ends
        unfold addQuote at added
        split at added
        · assumption
        · cases added

/-- For a mandate and an available item a quote with a new id is made when it fits its
table. -/
theorem createQuote_of_available (P : Platform) {args : QuoteArgs} {quoteId : String}
    {now : Time} {db : Database} {row : MandateRow} {item : CatalogItemRecord}
    (mandate : db.getMandate args.mandateId = some row)
    (found : db.items.get? CatalogItemRecord.sku args.sku = some item)
    (available : 0 < item.availableUnits) (fresh : ∀ quote ∈ db.quotes, quote.id ≠ quoteId) :
    (Storable (draftQuote P args item db.catalogVersion quoteId now) →
        ∃ db', createQuote P args quoteId now db
          = .ok (draftQuote P args item db.catalogVersion quoteId now, db')) ∧
      (¬ Storable (draftQuote P args item db.catalogVersion quoteId now) →
        createQuote P args quoteId now db = .error .dbapiError) := by
  unfold createQuote
  rw [mandate]
  dsimp only
  rw [found]
  dsimp only
  rw [if_neg (Int.not_le.mpr available)]
  refine ⟨fun storable => ?_, fun unfit => ?_⟩
  · cases inserted : db.quotes.insert? (draftQuote P args item db.catalogVersion quoteId now) with
    | some quotes =>
        rw [addQuote, if_pos storable, inserted]
        exact ⟨_, rfl⟩
    | none =>
        obtain ⟨col, unique, listed⟩ := Foundation.Table.insert?_eq_none_iff.mp inserted
        obtain ⟨quote, stored, same⟩ := List.mem_map.mp listed
        rw [List.mem_singleton.mp unique] at same
        exact absurd same (fresh quote stored)
  · rw [addQuote, if_neg unfit]
    rfl

theorem mutatePriceDemoOnly_ok {P : Platform} {args : PriceArgs} {db db' : Database}
    (done : mutatePriceDemoOnly P args db = .ok db') :
    db'.quotes = db.quotes ∧ Catalogued P db db' := by
  unfold mutatePriceDemoOnly at done
  split at done
  · cases done
  · split at done
    · cases done
    · cases done
      exact ⟨rfl, rfl, rfl, rfl, rfl, rfl, rfl, rfl, rfl, fun _ present => present,
        .inr ⟨_, _, _, _, _, _, rfl⟩⟩

/-- A new price is positive, and it and the next version are what the store then has. -/
theorem mutatePriceDemoOnly_price {P : Platform} {args : PriceArgs} {db db' : Database}
    (done : mutatePriceDemoOnly P args db = .ok db') :
    0 < args.newUnitPriceMinor ∧ db'.catalogVersion = db.catalogVersion + 1 ∧
      ∀ item, db.items.get? CatalogItemRecord.sku args.sku = some item →
        db'.items.get? CatalogItemRecord.sku args.sku
          = some { item with unitPriceMinor := args.newUnitPriceMinor } := by
  unfold mutatePriceDemoOnly at done
  split at done
  · cases done
  · next positive =>
    split at done
    · cases done
    · next item found =>
      cases done
      refine ⟨Int.not_le.mp positive, rfl, fun item' found' => ?_⟩
      rw [found] at found'
      cases found'
      have named := (Foundation.Table.get?_mem found).2
      change (Foundation.Table.modify _ _ _ (by simp)).get? _ _ = _
      rw [Foundation.Table.get?_modify (by simp), found, Option.map_some,
        if_pos (decide_eq_true named)]

theorem upsertItem_ok {P : Platform} {item : CatalogItemRecord} {db db' : Database}
    (done : upsertItem item db = .ok db') : db'.quotes = db.quotes ∧ Catalogued P db db' := by
  unfold upsertItem at done
  split at done
  · split at done
    · cases done
      exact ⟨rfl, rfl, rfl, rfl, rfl, rfl, rfl, rfl, rfl, fun _ present => present, .inl rfl⟩
    · cases done
      exact ⟨rfl, rfl, rfl, rfl, rfl, rfl, rfl, rfl, rfl, fun _ present => present, .inl rfl⟩
  · cases done

end Actl.Catalog
