import Mathlib.Data.Prod.Lex
import Actl.Agents.Buyer
import Actl.Foundation.Keyset
import Actl.Foundation.Numerals

/-!
# Listing the catalog

`list_catalog` of `application/catalog_service.py` and the query behind it: the items
that match, in the order of price and sku, up to a limit and above a cursor. The
cursor is a text, the price and the sku of the item that the page before ended with.

The order of texts is the database's own (`Collation`). An integer that the database
is given has to fit a `bigint`.
-/

set_option autoImplicit false

namespace Actl.Catalog

open Foundation (Table Keyset.above decimal decimalDigit?)
open Agents (CatalogItemRow CatalogItem toDomainItem)

/-! ## Cursors -/

/-- How many digits an integer may have to be read or written as a text. -/
def maxStrDigits : Nat := 4300

/-- `str(n)`. -/
def intText (n : Int) : Except Failure String :=
  if n.natAbs < 10 ^ maxStrDigits then .ok (toString n) else .error .valueError

/-- `_encode_cursor`. -/
def encodeCursor (unitPriceMinor : Int) (sku : String) : Except Failure String := do
  return (← intText unitPriceMinor) ++ ":" ++ sku

/-- `_decode_cursor`. Digits that `isdigit` lets pass and `int` does not read make for
the same exception. -/
def decodeCursor (cursor : String) : Except Failure (Int × String) :=
  let price := cursor.toList.takeWhile (· ≠ ':')
  let sku := (cursor.toList.dropWhile (· ≠ ':')).drop 1
  match price.mapM decimalDigit? with
  | none => .error .valueError
  | some digits =>
      if digits = [] ∨ sku = [] ∨ maxStrDigits < digits.length then .error .valueError
      else .ok (decimal digits, String.ofList sku)

/-! ## The query -/

/-- The order of texts in the database: they compare as their sort keys do, and
different texts have different keys. -/
structure Collation where
  Key : Type
  order : LinearOrder Key
  key : String → Key
  injective : Function.Injective key

instance (collation : Collation) : LinearOrder collation.Key := collation.order

/-- The rows of `catalog_items`, with the check and the type of the price's column. -/
structure CatalogItems where
  table : Table CatalogItemRow [fun row => row.sku]
  positive : ∀ row ∈ table, 0 < row.unitPriceMinor
  bigint : ∀ row ∈ table, row.unitPriceMinor ≤ maxUnitPriceMinor

structure CatalogQuery where
  category : Option String := none
  locationCity : Option String := none
  locationCountry : Option String := none
  maxUnitMinor : Option Int := none
  isBuyerListable : Option Bool := none
  cursor : Option String := none
  limit : Nat := 20
  deriving DecidableEq

/-- The row passes all the filters that are set. -/
def CatalogQuery.selects (query : CatalogQuery) (row : CatalogItemRow) : Bool :=
  (query.category.all fun category => row.category = category) &&
  (query.locationCity.all fun city => row.locationCity = city) &&
  (query.locationCountry.all fun country => row.locationCountry = country) &&
  (query.maxUnitMinor.all fun maximum => row.unitPriceMinor ≤ maximum) &&
  (query.isBuyerListable.all fun listable => row.isBuyerListable = listable)

/-- The place of a price and a sku in the order of the items. -/
def sortKey (collation : Collation) (unitPriceMinor : Int) (sku : String) :
    Int ×ₗ collation.Key :=
  toLex (unitPriceMinor, collation.key sku)

def rowKey (collation : Collation) (row : CatalogItemRow) : Int ×ₗ collation.Key :=
  sortKey collation row.unitPriceMinor row.sku

/-- Rows with different skus have different places. -/
theorem distinct_rowKey (collation : Collation) {rows : List CatalogItemRow}
    (skus : (rows.map fun row => row.sku).Nodup) : (rows.map (rowKey collation)).Nodup := by
  refine List.Nodup.of_map (fun k => (ofLex k).2) ?_
  rw [List.map_map]
  have keys : (fun k => (ofLex k).2) ∘ rowKey collation
      = collation.key ∘ fun row : CatalogItemRow => row.sku := rfl
  rw [keys, ← List.map_map]
  exact skus.map collation.injective

/-- `list_items`. -/
def listItems (collation : Collation) (query : CatalogQuery) (cursor : Option (Int × String))
    (limit : Nat) (items : CatalogItems) : Except Failure (List CatalogItemRow) :=
  if (∀ maximum ∈ query.maxUnitMinor, FitsBigint maximum) ∧ (∀ edge ∈ cursor, FitsBigint edge.1) ∧
      FitsBigint limit then
    .ok ((Keyset.above (rowKey collation) (cursor.map fun edge => sortKey collation edge.1 edge.2)
      (items.table.rows.filter query.selects)).take limit)
  else .error .dbapiError

/-! ## The feed -/

structure CatalogFeed where
  catalogVersion : Int
  generatedAt : Time
  items : List CatalogItem
  nextCursor : Option String
  deriving DecidableEq

/-- The cursor of a query; an empty text is none. -/
def CatalogQuery.decodedCursor (query : CatalogQuery) :
    Except Failure (Option (Int × String)) :=
  match query.cursor with
  | none => .ok none
  | some cursor => if cursor = "" then .ok none else (decodeCursor cursor).map some

/-- The cursor that is handed out when there are more rows than the page shows. -/
def cursorBehind (limit : Nat) (rows : List CatalogItemRow) : Except Failure (Option String) :=
  if limit < rows.length then
    match (rows.take limit).getLast? with
    | none => .ok none
    | some edge => (encodeCursor edge.unitPriceMinor edge.sku).map some
  else .ok none

def optionalText : Option String → JSONValue
  | none => .null
  | some text => .str text

/-- The filters as they go to the audit log. -/
def CatalogQuery.filters (query : CatalogQuery) : JSONValue :=
  .obj [
    ("category", optionalText query.category),
    ("location_city", optionalText query.locationCity),
    ("location_country", optionalText query.locationCountry),
    ("max_unit_minor", (query.maxUnitMinor.map JSONValue.int).getD .null),
    ("is_buyer_listable", (query.isBuyerListable.map JSONValue.bool).getD .null)]

/-- `list_catalog`, with the trace id it draws. -/
def listCatalog (P : Platform) (collation : Collation) (query : CatalogQuery)
    (actorId traceId : String) (now : Time) (items : CatalogItems) (db : Database) :
    Except Failure (CatalogFeed × Database) := do
  let cursor ← query.decodedCursor
  let rows ← listItems collation query cursor (query.limit + 1) items
  let page := rows.take query.limit
  let nextCursor ← cursorBehind query.limit rows
  return ({ catalogVersion := db.catalogVersion, generatedAt := now
            items := page.map toDomainItem, nextCursor },
    db.appendEntry P traceId "agent" actorId .catalogQueried
      (.obj [("category", optionalText query.category),
        ("location", optionalText query.locationCity)])
      (.obj [("filters", query.filters), ("catalog_version", .int db.catalogVersion),
        ("result_count", .int page.length)]))

end Actl.Catalog
