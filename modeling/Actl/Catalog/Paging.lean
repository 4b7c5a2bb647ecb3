import Mathlib.Data.String.Basic
import Actl.Audit.RoundTrip
import Actl.Catalog.Listing

/-!
# Paging through the catalog

A client follows the cursors from the first page until there is none (`Follows`). Each
page is read from the catalog as it is then; between two pages anything may happen to
it. The pages are a walk by key (`follows_walk`), because a cursor that was handed out
is decoded to the very price and sku it was made of (`decodeCursor_encoded`).
-/

set_option autoImplicit false

namespace Actl.Catalog

open Foundation (Table filter_eq_singleton decimal decimalDigit? decimalDigit?_of_ascii
  asciiDigit?_of_isDigit mapM_of_forall Keyset.Walk)
open Agents (CatalogItemRow CatalogItem toDomainItem)

/-! ## Cursors -/

/-- The digits of a number, read again. -/
theorem mapM_toDigits (n : Nat) :
    (Nat.toDigits 10 n).mapM decimalDigit? = some ((Nat.toDigits 10 n).map fun c => c.toNat - 48) :=
  mapM_of_forall fun c member => decimalDigit?_of_ascii
    (asciiDigit?_of_isDigit (Audit.isDigit_toDigits n c member))

theorem decimal_toDigits (n : Nat) :
    decimal ((Nat.toDigits 10 n).map fun c => c.toNat - 48) = n := by
  rw [decimal, List.foldl_map]
  exact Audit.natOf_toDigits n

/-- A cursor is decoded to what it was made of, unless the sku is empty. -/
theorem decodeCursor_encoded {unitPriceMinor : Int} {sku text : String}
    (positive : 0 < unitPriceMinor) (encoded : encodeCursor unitPriceMinor sku = .ok text) :
    decodeCursor text
      = if sku = "" then .error .valueError else .ok (unitPriceMinor, sku) := by
  obtain ⟨n, rfl⟩ := Int.eq_ofNat_of_zero_le positive.le
  obtain ⟨price, written, done⟩ := Foundation.bind_eq_ok.mp encoded
  cases done
  rw [intText] at written
  split at written
  next short =>
    cases written
    have digits : (toString (n : Int)).toList = Nat.toDigits 10 n := by
      rw [Audit.toList_toString, if_pos (Int.natCast_nonneg n), Int.toNat_natCast]
    have chars : ((toString (n : Int)) ++ ":" ++ sku).toList
        = Nat.toDigits 10 n ++ ':' :: sku.toList := by
      rw [String.toList_append, String.toList_append, digits]
      simp
    have plain : ∀ c ∈ Nat.toDigits 10 n, decide (c ≠ ':') = true := by
      intro c member
      have digit := Audit.isDigit_toDigits n c member
      refine decide_eq_true fun colon => ?_
      rw [colon] at digit
      exact absurd digit (by decide)
    have front : (((toString (n : Int)) ++ ":" ++ sku).toList.takeWhile (· ≠ ':'))
        = Nat.toDigits 10 n := by
      rw [chars, List.takeWhile_append_of_pos plain]
      simp
    have back : (((toString (n : Int)) ++ ":" ++ sku).toList.dropWhile (· ≠ ':'))
        = ':' :: sku.toList := by
      rw [chars, List.dropWhile_append_of_pos plain]
      simp
    have few : (Nat.toDigits 10 n).length ≤ maxStrDigits :=
      (Nat.length_toDigits_le_iff (by decide) (by decide)).mpr (by simpa using short)
    have some' : Nat.toDigits 10 n ≠ [] := by
      have := @Nat.length_toDigits_pos 10 n
      exact List.length_pos_iff.mp this
    rw [decodeCursor]
    simp only [front, back, mapM_toDigits, List.drop_one, List.tail_cons]
    by_cases empty : sku = ""
    · rw [if_pos (.inr (.inl (by rw [empty]; rfl))), if_pos empty]
    · have named : sku.toList ≠ [] := fun none => empty (String.toList_inj.mp none)
      rw [if_neg, if_neg empty, decimal_toDigits, String.ofList_toList]
      rintro (none | none | many)
      · exact some' (List.map_eq_nil_iff.mp none)
      · exact named none
      · rw [List.length_map] at many
        omega
  next => cases written

/-- A price that fits its column can be written. -/
theorem encodeCursor_ok {unitPriceMinor : Int}
    (short : unitPriceMinor.natAbs < 10 ^ maxStrDigits) (sku : String) :
    encodeCursor unitPriceMinor sku = .ok (toString unitPriceMinor ++ ":" ++ sku) := by
  rw [encodeCursor, intText, if_pos short]
  rfl

/-! ## The walk -/

/-- A request for a page: who makes it and when, and the catalog and the store then. -/
structure Visit where
  actorId : String
  traceId : String
  now : Time
  items : CatalogItems
  db : Database

section Pages

variable (P : Platform) (collation : Collation) (query : CatalogQuery)

/-- The answer to a request for the page behind a cursor. -/
def Visit.answer (cursor : Option String) (visit : Visit) :
    Except Failure (CatalogFeed × Database) :=
  listCatalog P collation { query with cursor } visit.actorId visit.traceId visit.now visit.items
    visit.db

/-- The pages from a cursor on, until there is no next cursor. -/
inductive Follows : Option String → List Visit → List CatalogFeed → Prop where
  | last {cursor : Option String} {visit : Visit} {feed : CatalogFeed} {db : Database}
      (answered : visit.answer P collation query cursor = .ok (feed, db))
      (ends : feed.nextCursor = none) : Follows cursor [visit] [feed]
  | more {cursor : Option String} {visit : Visit} {visits : List Visit} {feed : CatalogFeed}
      {feeds : List CatalogFeed} {db : Database} {next : String}
      (answered : visit.answer P collation query cursor = .ok (feed, db))
      (goes : feed.nextCursor = some next) (rest : Follows (some next) visits feeds) :
      Follows cursor (visit :: visits) (feed :: feeds)

/-- The rows that a request is about. -/
def Visit.selected (visit : Visit) : List CatalogItemRow :=
  visit.items.table.rows.filter query.selects

/-- The rows of the catalog above the edge of the page before. -/
def Visit.rowsAbove (visit : Visit) (edge : Option (Int × String)) : List CatalogItemRow :=
  Foundation.Keyset.above (rowKey collation) (edge.map fun edge => sortKey collation edge.1 edge.2)
    (visit.selected query)

/-- The integers of the query fit a `bigint`. -/
structure CatalogQuery.Fits (query : CatalogQuery) : Prop where
  maximum : ∀ maximum ∈ query.maxUnitMinor, FitsBigint maximum
  limit : FitsBigint (query.limit + 1)

variable {P collation query}

theorem distinct_selected (visit : Visit) :
    ((visit.selected query).map (rowKey collation)).Nodup :=
  distinct_rowKey collation
    (((List.filter_sublist).map _).nodup (visit.items.table.unique _ List.mem_cons_self))

/-- What an answered request has shown: the first rows above the edge that its cursor
is decoded to, and a cursor exactly when there are more. -/
theorem answer_ok (positive : 1 ≤ query.limit) {cursor : Option String} {visit : Visit}
    {feed : CatalogFeed} {db : Database}
    (answered : visit.answer P collation query cursor = .ok (feed, db)) :
    ∃ edge, CatalogQuery.decodedCursor { query with cursor } = .ok edge ∧
      feed.items = ((visit.rowsAbove collation query edge).take query.limit).map toDomainItem ∧
      ((visit.rowsAbove collation query edge).length ≤ query.limit ∧ feed.nextCursor = none ∨
        query.limit < (visit.rowsAbove collation query edge).length ∧
          ∃ final text, ((visit.rowsAbove collation query edge).take query.limit).getLast?
              = some final ∧ encodeCursor final.unitPriceMinor final.sku = .ok text ∧
            feed.nextCursor = some text) := by
  obtain ⟨edge, decoded, answered⟩ := Foundation.bind_eq_ok.mp answered
  obtain ⟨rows, listed, answered⟩ := Foundation.bind_eq_ok.mp answered
  obtain ⟨nextCursor, behind, answered⟩ := Foundation.bind_eq_ok.mp answered
  cases answered
  rw [listItems] at listed
  split at listed
  next =>
    cases listed
    refine ⟨edge, decoded, ?_, ?_⟩
    · dsimp only
      rw [List.take_take, Nat.min_eq_left (Nat.le_succ _)]
      rfl
    · dsimp only at behind ⊢
      rw [cursorBehind, List.take_take, Nat.min_eq_left (Nat.le_succ _), List.length_take] at behind
      split at behind
      next more =>
        have full : query.limit < (visit.rowsAbove collation query edge).length :=
          (lt_min_iff.mp more).2
        refine .inr ⟨full, ?_⟩
        split at behind
        next nothing =>
          have empty := List.length_eq_zero_iff.mpr (List.getLast?_eq_none_iff.mp nothing)
          rw [List.length_take] at empty
          change min _ (visit.rowsAbove collation query edge).length = 0 at empty
          omega
        next final here =>
          cases encoded : encodeCursor final.unitPriceMinor final.sku with
          | error failure =>
              rw [encoded] at behind
              cases behind
          | ok text =>
              rw [encoded] at behind
              cases behind
              exact ⟨final, text, here, encoded, rfl⟩
      next few =>
        cases behind
        refine .inl ⟨?_, rfl⟩
        have least : min (query.limit + 1) (visit.rowsAbove collation query edge).length
          ≤ query.limit := not_lt.mp few
        omega
  next => cases listed

/-- A row that is on a page is one of its catalog and has a price. -/
theorem Visit.mem_rowsAbove {visit : Visit} {edge : Option (Int × String)} {row : CatalogItemRow}
    (member : row ∈ visit.rowsAbove collation query edge) :
    row ∈ visit.items.table ∧ query.selects row = true :=
  List.mem_filter.mp (Foundation.Keyset.mem_above.mp member).1

/-- The cursor that was handed out is decoded to the row that the page ends with. -/
theorem decoded_next {final : CatalogItemRow} {text : String} {edge : Option (Int × String)}
    (priced : 0 < final.unitPriceMinor)
    (encoded : encodeCursor final.unitPriceMinor final.sku = .ok text)
    (decoded : CatalogQuery.decodedCursor { query with cursor := some text } = .ok edge) :
    edge = some (final.unitPriceMinor, final.sku) ∧
      decodeCursor text = .ok (final.unitPriceMinor, final.sku) := by
  have read := decodeCursor_encoded priced encoded
  have visible : text ≠ "" := by
    rintro rfl
    obtain ⟨price, -, done⟩ := Foundation.bind_eq_ok.mp encoded
    have chars := congrArg String.toList (Except.ok.inj done)
    rw [String.toList_append, String.toList_append] at chars
    simp at chars
  rw [CatalogQuery.decodedCursor] at decoded
  simp only [visible, if_false, read] at decoded
  split at decoded
  next => cases decoded
  next named =>
    rw [if_neg named] at read
    cases decoded
    exact ⟨rfl, read⟩

/-- The cursor stands for a place above the edge. -/
def Beyond (collation : Collation) (edge : Option (Int × String)) (cursor : String) : Prop :=
  ∃ price sku, decodeCursor cursor = .ok (price, sku) ∧
    ∀ place ∈ edge, sortKey collation place.1 place.2 < sortKey collation price sku

/-- Following the cursors is a walk by key, and the cursors stand for rising places. -/
theorem follows_walk (positive : 1 ≤ query.limit) {cursor : Option String} {visits : List Visit}
    {feeds : List CatalogFeed} (follows : Follows P collation query cursor visits feeds)
    {edge : Option (Int × String)}
    (decoded : CatalogQuery.decodedCursor { query with cursor } = .ok edge) :
    (∃ pages, Keyset.Walk (rowKey collation) query.limit
        (edge.map fun edge => sortKey collation edge.1 edge.2)
        (visits.map (Visit.selected query)) pages ∧
      feeds.map CatalogFeed.items = pages.map (List.map toDomainItem)) ∧
    (∀ next ∈ feeds.filterMap CatalogFeed.nextCursor, Beyond collation edge next) ∧
    (feeds.filterMap CatalogFeed.nextCursor).Pairwise fun next later =>
      ∃ price sku, decodeCursor next = .ok (price, sku) ∧
        Beyond collation (some (price, sku)) later := by
  induction follows generalizing edge with
  | last answered ends =>
      obtain ⟨edge', decoded', shown, few | ⟨-, final, text, -, -, goes⟩⟩ :=
        answer_ok positive answered
      · cases decoded.symm.trans decoded'
        refine ⟨⟨_, .last few.1, ?_⟩, ?_, ?_⟩
        · rw [List.map_singleton, List.map_singleton, shown, List.take_of_length_le few.1]
          rfl
        · simp [ends]
        · simp [ends]
      · cases ends.symm.trans goes
  | @more cursor visit visits feed feeds db text answered goes rest ih =>
      obtain ⟨edge', decoded', shown, few | ⟨full, final, text', here, encoded, goes'⟩⟩ :=
        answer_ok positive answered
      · cases goes.symm.trans few.2
      · cases decoded.symm.trans decoded'
        obtain rfl : text' = text := Option.some.inj (goes'.symm.trans goes)
        have row := List.mem_of_mem_take (List.mem_of_getLast? here)
        have inside := Visit.mem_rowsAbove row
        have above := (Foundation.Keyset.mem_above.mp row).2
        have later : ∃ edge, CatalogQuery.decodedCursor { query with cursor := some text' }
            = .ok edge := by
          cases rest with
          | last answered _ =>
              obtain ⟨edge, decoded, -⟩ := answer_ok positive answered
              exact ⟨edge, decoded⟩
          | more answered _ _ =>
              obtain ⟨edge, decoded, -⟩ := answer_ok positive answered
              exact ⟨edge, decoded⟩
        obtain ⟨next, decodedNext⟩ := later
        obtain ⟨rfl, read⟩ := decoded_next (CatalogItems.positive _ _ inside.1) encoded decodedNext
        obtain ⟨⟨pages, walk, rows⟩, beyond, rising⟩ := ih decodedNext
        refine ⟨⟨_, .more full here walk, ?_⟩, ?_, ?_⟩
        · rw [List.map_cons, List.map_cons, shown, rows]
          rfl
        · intro next member
          rw [List.filterMap_cons_some goes] at member
          rcases List.mem_cons.mp member with rfl | member
          · refine ⟨_, _, read, fun place below => ?_⟩
            exact above _ (Option.mem_map_of_mem _ below)
          · obtain ⟨price, sku, read', higher⟩ := beyond next member
            refine ⟨price, sku, read', fun place below => ?_⟩
            exact (above _ (Option.mem_map_of_mem _ below)).trans (higher _ rfl)
        · rw [List.filterMap_cons_some goes, List.pairwise_cons]
          exact ⟨fun later member => ⟨_, _, read, beyond later member⟩, rising⟩

/-! ## What paging gives -/

/-- What the pages of one walk show. -/
structure Paged (collation : Collation) (query : CatalogQuery) (visits : List Visit)
    (feeds : List CatalogFeed) : Prop where
  once : ∀ row, (∀ visit ∈ visits, row ∈ visit.items.table) → query.selects row = true →
    (feeds.flatMap CatalogFeed.items).filter (fun item => item.sku = row.sku) = [toDomainItem row]
  ordered : (feeds.flatMap CatalogFeed.items).Pairwise fun item item' =>
    sortKey collation item.unitPriceMinor item.sku
      < sortKey collation item'.unitPriceMinor item'.sku
  rising : (feeds.filterMap CatalogFeed.nextCursor).Pairwise fun next later =>
    ∃ price sku price' sku', decodeCursor next = .ok (price, sku) ∧
      decodeCursor later = .ok (price', sku') ∧
      sortKey collation price sku < sortKey collation price' sku'

theorem paged_of_follows (positive : 1 ≤ query.limit) {visits : List Visit}
    {feeds : List CatalogFeed} (follows : Follows P collation query none visits feeds) :
    Paged collation query visits feeds := by
  have first : CatalogQuery.decodedCursor { query with cursor := none } = .ok none := rfl
  obtain ⟨⟨pages, walk, shown⟩, -, rising⟩ := follows_walk positive follows first
  have distinct : ∀ rows ∈ visits.map (Visit.selected query),
      (rows.map (rowKey collation)).Nodup := by
    intro rows member
    obtain ⟨visit, -, rfl⟩ := List.mem_map.mp member
    exact distinct_selected visit
  have items : feeds.flatMap CatalogFeed.items = pages.flatten.map toDomainItem := by
    rw [List.flatMap_def, shown, List.map_flatten]
  have sorted := walk.sorted distinct
  refine ⟨?_, ?_, ?_⟩
  · intro row steady selected
    have member : row ∈ pages.flatten := by
      refine walk.mem_of_steady distinct ?_ (fun edge below => by cases below)
      intro rows there
      obtain ⟨visit, here, rfl⟩ := List.mem_map.mp there
      exact List.mem_filter.mpr ⟨steady visit here, selected⟩
    have read : ∀ row' ∈ pages.flatten, ∃ visit ∈ visits, row' ∈ visit.items.table := by
      intro row' member'
      obtain ⟨version, versionMember, here⟩ := walk.mem_version row' member'
      obtain ⟨visit, visited, rfl⟩ := List.mem_map.mp versionMember
      exact ⟨visit, visited, (List.mem_filter.mp here).1⟩
    have nodup : pages.flatten.Nodup := sorted.imp fun below same => by
      rw [same] at below
      exact lt_irrefl _ below
    rw [items, List.filter_map]
    refine (congrArg (List.map toDomainItem) (filter_eq_singleton nodup member ?_ ?_)).trans rfl
    · exact decide_eq_true rfl
    · intro row' member' same
      obtain ⟨visit, visited, here⟩ := read row' member'
      exact visit.items.table.eq_of_col_eq _ List.mem_cons_self here (steady visit visited)
        (of_decide_eq_true same)
  · rw [items, List.pairwise_map]
    exact sorted
  · refine rising.imp ?_
    rintro next later ⟨price, sku, read, price', sku', read', higher⟩
    exact ⟨price, sku, price', sku', read, read', higher _ rfl⟩

/-! ## Answers -/

theorem short_of_bigint {n : Int} (fits : FitsBigint n) : n.natAbs < 10 ^ maxStrDigits := by
  have small : n.natAbs < 10 ^ 19 := by
    have low : -9223372036854775807 - 1 ≤ n := fits.1
    have high : n ≤ 9223372036854775807 := fits.2
    omega
  exact small.trans_le (Nat.pow_le_pow_right (by decide) (by decide))

theorem fitsBigint_price {items : CatalogItems} {row : CatalogItemRow} (member : row ∈ items.table) :
    FitsBigint row.unitPriceMinor := by
  have positive := items.positive row member
  exact ⟨le_trans (by decide) positive.le, items.bigint row member⟩

/-- A request is answered when its cursor stands for a price that a column can have. -/
theorem answer_of_decoded (fits : query.Fits) {cursor : Option String}
    {edge : Option (Int × String)}
    (decoded : CatalogQuery.decodedCursor { query with cursor } = .ok edge)
    (bigint : ∀ place ∈ edge, FitsBigint place.1) (visit : Visit) :
    ∃ feed db, visit.answer P collation query cursor = .ok (feed, db) := by
  have listed : listItems collation { query with cursor } edge (query.limit + 1) visit.items
      = .ok ((visit.rowsAbove collation query edge).take (query.limit + 1)) :=
    if_pos ⟨fits.maximum, bigint, by exact_mod_cast fits.limit⟩
  obtain ⟨next, behind⟩ : ∃ next, cursorBehind query.limit
      ((visit.rowsAbove collation query edge).take (query.limit + 1)) = .ok next := by
    unfold cursorBehind
    split
    next =>
      split
      next => exact ⟨_, rfl⟩
      next final here =>
        have row := List.mem_of_mem_take (List.mem_of_mem_take (List.mem_of_getLast? here))
        have inside := Visit.mem_rowsAbove row
        rw [encodeCursor_ok (short_of_bigint (fitsBigint_price inside.1))]
        exact ⟨_, rfl⟩
    next => exact ⟨_, rfl⟩
  obtain ⟨⟨feed, db⟩, answered⟩ : ∃ result, visit.answer P collation query cursor = .ok result := by
    rw [Visit.answer, listCatalog, decoded, Foundation.ok_bind, listed, Foundation.ok_bind]
    dsimp only
    rw [behind, Foundation.ok_bind]
    exact ⟨_, rfl⟩
  exact ⟨feed, db, answered⟩

/-- A cursor that a client has: none for the first page, or the one that a page was
answered with whose catalog had no empty sku. -/
def Handed (P : Platform) (collation : Collation) (query : CatalogQuery) (cursor : Option String) :
    Prop :=
  cursor = none ∨ ∃ before visit feed db, (∀ row ∈ visit.items.table, row.sku ≠ "") ∧
    Visit.answer P collation query before visit = .ok (feed, db) ∧ feed.nextCursor = cursor

theorem handed_decoded (positive : 1 ≤ query.limit) {cursor : Option String}
    (handed : Handed P collation query cursor) :
    ∃ edge, CatalogQuery.decodedCursor { query with cursor } = .ok edge ∧
      ∀ place ∈ edge, FitsBigint place.1 := by
  have first : ∃ edge, CatalogQuery.decodedCursor { query with cursor := none } = .ok edge ∧
      ∀ place ∈ edge, FitsBigint place.1 := ⟨none, rfl, fun place none => by cases none⟩
  rcases handed with rfl | ⟨before, visit, feed, db, named, answered, rfl⟩
  · exact first
  · obtain ⟨edge, -, -, few | ⟨-, final, text, here, encoded, goes⟩⟩ := answer_ok positive answered
    · rw [few.2]
      exact first
    · have row := List.mem_of_mem_take (List.mem_of_getLast? here)
      have inside := (Visit.mem_rowsAbove row).1
      have read := decodeCursor_encoded (visit.items.positive _ inside) encoded
      rw [if_neg (named final inside)] at read
      rw [goes, CatalogQuery.decodedCursor]
      by_cases empty : text = ""
      · exact ⟨none, if_pos empty, fun place none => by cases none⟩
      · refine ⟨_, (if_neg empty).trans (congrArg (Except.map some) read), ?_⟩
        rintro _ ⟨⟩
        exact fitsBigint_price inside

end Pages

namespace Fixture

/-- Texts in the order of their code points. -/
def bytewise : Collation where
  Key := String
  order := inferInstance
  key := id
  injective := Function.injective_id

def itemOf (sku : String) (unitPriceMinor : Int) : CatalogItemRow where
  sku := sku
  category := "travel.hotel"
  merchantId := "mrc_seabreeze"
  unitPriceMinor := unitPriceMinor
  availableUnits := 1
  refundable := true
  locationCity := "Goa"
  locationCountry := "IN"

/-- An item without a sku, and one behind it. -/
def nameless : CatalogItems where
  table := ⟨[itemOf "" 1, itemOf "HTL" 2], by decide⟩
  positive := by
    intro row member
    rcases List.mem_pair.mp member with rfl | rfl <;> decide
  bigint := by
    intro row member
    rcases List.mem_pair.mp member with rfl | rfl <;> decide

def visit (items : CatalogItems) : Visit where
  actorId := "agt_test"
  traceId := "trc_1"
  now := Actl.Fixture.start
  items := items
  db := Actl.Fixture.database

/-- Two rooms, one to a page. -/
def rooms : CatalogItems where
  table := ⟨[itemOf "HTL-2" 2, itemOf "HTL-1" 2], by decide⟩
  positive := by
    intro row member
    rcases List.mem_pair.mp member with rfl | rfl <;> decide
  bigint := by
    intro row member
    rcases List.mem_pair.mp member with rfl | rfl <;> decide

theorem fits_one : CatalogQuery.Fits { limit := 1 } where
  maximum := fun maximum none => by cases none
  limit := by decide

def feedOf (room : String) (nextCursor : Option String) : CatalogFeed where
  catalogVersion := 1
  generatedAt := Actl.Fixture.start
  items := [toDomainItem (itemOf room 2)]
  nextCursor := nextCursor

theorem answered_feed {cursor : Option String} {visit : Visit} {feed : CatalogFeed}
    (shown : (Visit.answer Actl.Fixture.platform bytewise { limit := 1 } cursor visit).map Prod.fst
      = .ok feed) :
    ∃ db, Visit.answer Actl.Fixture.platform bytewise { limit := 1 } cursor visit
      = .ok (feed, db) := by
  cases answered : Visit.answer Actl.Fixture.platform bytewise { limit := 1 } cursor visit with
  | error failure =>
      rw [answered] at shown
      cases shown
  | ok result =>
      rw [answered] at shown
      cases shown
      exact ⟨result.2, rfl⟩

end Fixture

end Actl.Catalog
