import Mathlib.Data.Fintype.Pigeonhole
import Mathlib.Data.Fintype.Prod
import Mathlib.Data.List.DropRight
import Mathlib.Data.Set.Function
import Actl.Agents.Answers
import Actl.Audit.RoundTrip
import Actl.Audit.Separation
import Actl.Audit.Verification

/-!
# The two routes to the catalog

A page of the catalog is asked for with a message and with a REST query. Both routes make
the same query of a category, a price, a cursor and a limit. A location is cut at its
first comma by both, but only the message's route strips the parts of blanks: the routes
agree exactly on the locations with trimmed parts (`routes_agree_iff`).

The REST route hands out an entity tag, which names the catalog's version and the first
16 bits of the digest of the query's text. The text determines the query
(`query_of_filterText_eq`), 16 bits do not: two queries have one tag in common exactly if
their digests begin alike, and at every version there are such queries (`etag_iff`).
-/

set_option autoImplicit false

namespace Actl.Agents

open Catalog (CatalogFeed CatalogItems CatalogQuery Collation cursorBehind listCatalog listItems
  maxUnitPriceMinor optionalText)

/-! ## Locations -/

/-- The text neither begins nor ends with a blank. -/
def Trimmed (text : String) : Prop :=
  (∀ c ∈ text.toList.head?, isSpace c = false) ∧ ∀ c ∈ text.toList.getLast?, isSpace c = false

theorem strip_eq_self_iff (text : String) : strip text = text ↔ Trimmed text := by
  have ends : strip text = text ↔
      (text.toList.dropWhile isSpace).rdropWhile isSpace = text.toList := by
    rw [strip, ← String.toList_inj, String.toList_ofList]
    rfl
  rw [ends, Trimmed]
  constructor
  · intro same
    have front : text.toList.dropWhile isSpace = text.toList := by
      refine (List.dropWhile_suffix isSpace).eq_of_length (le_antisymm ?_ ?_)
      · exact (List.dropWhile_suffix isSpace).length_le
      · conv_lhs => rw [← same]
        exact (List.rdropWhile_prefix isSpace _).length_le
    rw [front] at same
    refine ⟨fun c first => ?_, fun c last => ?_⟩
    · obtain ⟨rest, text'⟩ := List.head?_eq_some_iff.mp first
      rw [text', List.dropWhile_cons] at front
      split at front
      next =>
        have shorter := congrArg List.length front
        have dropped := (List.dropWhile_suffix isSpace (l := rest)).length_le
        rw [List.length_cons] at shorter
        omega
      next visible => exact Bool.eq_false_iff.mpr visible
    · obtain ⟨present, rfl⟩ := List.mem_getLast?_eq_getLast last
      exact Bool.eq_false_iff.mpr (List.rdropWhile_eq_self_iff.mp same present)
  · rintro ⟨first, last⟩
    have front : text.toList.dropWhile isSpace = text.toList := by
      cases chars : text.toList with
      | nil => rfl
      | cons c rest =>
          have visible := first c (by rw [chars]; rfl)
          rw [List.dropWhile_cons_of_neg (by rw [visible]; exact Bool.false_ne_true)]
    rw [front, List.rdropWhile_eq_self_iff]
    intro present
    rw [last _ (List.getLast?_eq_some_getLast present)]
    exact Bool.false_ne_true

theorem orNone_injective : Function.Injective orNone := by
  intro text text' same
  rw [orNone, orNone] at same
  split at same
  next empty =>
    split at same
    next empty' => rw [empty, empty']
    next => cases same
  next =>
    split at same
    next => cases same
    next => exact Option.some.inj same

/-- The parts of a location that the routes agree on. -/
def TrimmedParts (location : Option String) : Prop :=
  ∀ text ∈ location, Trimmed (beforeComma text) ∧ Trimmed (afterComma text)

theorem parseLocation_eq_splitLocation_iff (location : Option String) :
    parseLocation location = splitLocation location ↔ TrimmedParts location := by
  cases location with
  | none => exact iff_of_true rfl nofun
  | some text =>
      rw [parseLocation, splitLocation, Prod.mk.injEq, orNone_injective.eq_iff,
        orNone_injective.eq_iff]
      constructor
      · rintro ⟨city, country⟩ text' given
        obtain rfl := Option.mem_some_iff.mp given
        exact ⟨(strip_eq_self_iff _).mp city.symm, (strip_eq_self_iff _).mp country.symm⟩
      · intro trimmed
        obtain ⟨city, country⟩ := trimmed text rfl
        exact ⟨((strip_eq_self_iff _).mpr city).symm, ((strip_eq_self_iff _).mpr country).symm⟩

/-! ## Pages -/

section Pages

/-- What a query shows of the catalog, whoever asks and when. -/
def catalogPage (collation : Collation) (query : CatalogQuery) (items : CatalogItems) :
    Except Failure (List CatalogItem × Option String) := do
  let cursor ← query.decodedCursor
  let rows ← listItems collation query cursor (query.limit + 1) items
  let nextCursor ← cursorBehind query.limit rows
  return ((rows.take query.limit).map toDomainItem, nextCursor)

/-- The feed around a page. -/
def feedOf (db : Database) (now : Time) (page : List CatalogItem × Option String) : CatalogFeed where
  catalogVersion := db.catalogVersion
  generatedAt := now
  items := page.1
  nextCursor := page.2

theorem listCatalog_feed (P : Platform) (collation : Collation) (query : CatalogQuery)
    (actorId traceId : String) (now : Time) (items : CatalogItems) (db : Database) :
    (listCatalog P collation query actorId traceId now items db).map Prod.fst
      = (catalogPage collation query items).map (feedOf db now) := by
  rw [listCatalog, catalogPage]
  cases query.decodedCursor with
  | error failure => rfl
  | ok cursor =>
      simp only [Foundation.ok_bind]
      cases listItems collation query cursor (query.limit + 1) items with
      | error failure => rfl
      | ok rows =>
          simp only [Foundation.ok_bind]
          cases cursorBehind query.limit rows with
          | error failure => rfl
          | ok nextCursor => rfl

/-- A route that lists the catalog answers with its page. -/
theorem listing_feed (M : MerchantPlatform) (body : CatalogQueryBody) {location : Option String × Option String}
    (places : (∀ city ∈ location.1, NulFree city) ∧ ∀ country ∈ location.2, NulFree country)
    {actorId : String} (actor : NulFree actorId) (traceId : String) (now : Time)
    (items : CatalogItems) (w : World) :
    (w.transaction false (listBound M (body.query location) actorId traceId now items)).1
      = (catalogPage M.collation (body.query location) items).map (feedOf w.db now) := by
  rw [← listCatalog_feed M.toPlatform M.collation (body.query location) actorId traceId now items
    w.db, World.transaction, if_neg Bool.false_ne_true, listBound,
    bindTexts_of_nulFree (texts_nulFree actor places)]
  cases listCatalog M.toPlatform M.collation (body.query location) actorId traceId now items w.db with
  | error failure => rfl
  | ok listed => rfl

/-- Both answers show the same items and the same next cursor, or both tell of the same
failure. -/
def SameFeed (M : MerchantPlatform) (rest : Except Failure Response)
    (message : Except Failure HandlerOutcome) : Prop :=
  (∃ feed feed', rest = .ok (.content 200 (M.feedDump feed)) ∧
      message = .ok (.result .catalogQuery (M.feedDump feed')) ∧
      feed.items = feed'.items ∧ feed.nextCursor = feed'.nextCursor) ∨
    ∃ failure, message = .error failure ∧
      rest = if failure = .valueError then .ok (.httpException 400 "malformed cursor")
        else .error failure

/-- The routes make the same query, and their answers from the same database agree. -/
structure RoutesAgree (M : MerchantPlatform) (body : CatalogQueryBody) : Prop where
  query : body.query (parseLocation body.location) = body.query (splitLocation body.location)
  feeds : ∀ actorId actorId' traceId traceId' items input input' w, NulFree actorId →
    NulFree actorId' → input.dbError = false → input'.dbError = false →
      SameFeed M (getCatalog M body none actorId traceId items input w).1
        (handleCatalogQuery M (body.query (splitLocation body.location)) actorId' traceId' items
          input' w).1

/-- The routes agree exactly where the parts of the location have no blanks around them. -/
theorem routes_agree_iff (M : MerchantPlatform) (body : CatalogQueryBody) :
    RoutesAgree M body ↔ TrimmedParts body.location := by
  rw [← parseLocation_eq_splitLocation_iff]
  constructor
  · intro agree
    have city := congrArg CatalogQuery.locationCity agree.query
    have country := congrArg CatalogQuery.locationCountry agree.query
    exact Prod.ext city country
  · intro same
    refine ⟨by rw [same], ?_⟩
    intro actorId actorId' traceId traceId' items input input' w actor actor' works works'
    have places := nulFree_parseLocation body.locationNulFree
    have rest := listing_feed M body places actor traceId (input.now 0 0) items w
    have message := listing_feed M body places actor' traceId' (input'.now 0 0)
      items w
    rw [getCatalog, handleCatalogQuery, ← same, works, works']
    dsimp only
    rw [isNotModified, if_neg Bool.false_ne_true, message, rest]
    cases catalogPage M.collation (body.query (parseLocation body.location)) items with
    | ok page => exact .inl ⟨feedOf w.db _ page, feedOf w.db _ page, rfl, rfl, rfl, rfl⟩
    | error failure =>
        refine .inr ⟨failure, rfl, ?_⟩
        cases failure with
        | valueError => rfl
        | _ => exact (if_neg (by simp)).symm

end Pages

/-! ## Entity tags -/

section Tags

variable {M : MerchantPlatform}

/-- `filter_payload`. -/
def filterPayload (query : CatalogQuery) : List (String × JSONValue) := [
  ("category", optionalText query.category),
  ("location_city", optionalText query.locationCity),
  ("location_country", optionalText query.locationCountry),
  ("max_unit_minor", (query.maxUnitMinor.map JSONValue.int).getD .null),
  ("cursor", optionalText query.cursor),
  ("limit", .int query.limit)]

/-- The text whose digest goes into the entity tag of a query. -/
def filterText (query : CatalogQuery) : Bytes := Audit.jcs (.obj (filterPayload query))

theorem serialisable_optionalText (text : Option String) :
    Audit.Serialisable (optionalText text) := by
  cases text with
  | none => exact .null
  | some text => exact .str text

theorem serialisable_filterPayload (query : CatalogQuery) :
    Audit.Serialisable (.obj (filterPayload query)) := by
  refine .obj (by simp [filterPayload]) ?_
  simp only [filterPayload, List.forall_mem_cons]
  refine ⟨serialisable_optionalText _, serialisable_optionalText _, serialisable_optionalText _, ?_,
    serialisable_optionalText _, .int _, nofun⟩
  cases query.maxUnitMinor with
  | none => exact .null
  | some maximum => exact .int maximum

theorem canonical_optionalText (text : Option String) :
    Audit.canonical (optionalText text) = optionalText text := by
  cases text with
  | none => rfl
  | some text => rfl

theorem optionalText_injective : Function.Injective optionalText := by
  intro text text' same
  cases text with
  | none =>
      cases text' with
      | none => rfl
      | some text' => cases same
  | some text =>
      cases text' with
      | none => cases same
      | some text' => exact congrArg some (JSONValue.str.inj same)

theorem maximum_injective {maximum maximum' : Option Int}
    (same : Audit.canonical ((maximum'.map JSONValue.int).getD .null)
      = Audit.canonical ((maximum.map JSONValue.int).getD .null)) : maximum = maximum' := by
  cases maximum with
  | none =>
      cases maximum' with
      | none => rfl
      | some maximum' => cases same
  | some maximum =>
      cases maximum' with
      | none => cases same
      | some maximum' => exact congrArg some (JSONValue.int.inj same).symm

/-- The text of a query determines its filters, its cursor and its limit. -/
theorem query_of_filterText_eq {body body' : CatalogQueryBody}
    {location location' : Option String × Option String}
    (same : filterText (body.query location) = filterText (body'.query location')) :
    body.query location = body'.query location' := by
  have found : ∀ key {value value'}, (key, value) ∈ filterPayload (body.query location) →
      (key, value') ∈ filterPayload (body'.query location') →
        Audit.canonical value = Audit.canonical value' := fun _ _ _ =>
    Audit.canonical_eq_of_jcs_eq (serialisable_filterPayload _) (serialisable_filterPayload _) same
  have text : ∀ key {text text'}, (key, optionalText text) ∈ filterPayload (body.query location) →
      (key, optionalText text') ∈ filterPayload (body'.query location') → text = text' := by
    intro key text text' member member'
    have equal := found key member member'
    rw [canonical_optionalText, canonical_optionalText] at equal
    exact optionalText_injective equal
  have category : (body.query location).category = (body'.query location').category :=
    text "category" (by simp [filterPayload]) (by simp [filterPayload])
  have city : (body.query location).locationCity = (body'.query location').locationCity :=
    text "location_city" (by simp [filterPayload]) (by simp [filterPayload])
  have country : (body.query location).locationCountry = (body'.query location').locationCountry :=
    text "location_country" (by simp [filterPayload]) (by simp [filterPayload])
  have cursor : (body.query location).cursor = (body'.query location').cursor :=
    text "cursor" (by simp [filterPayload]) (by simp [filterPayload])
  have maximum : (body.query location).maxUnitMinor = (body'.query location').maxUnitMinor :=
    maximum_injective (found "max_unit_minor" (by simp [filterPayload])
      (by simp [filterPayload])).symm
  have limits : Audit.canonical (.int (body.query location).limit)
      = Audit.canonical (.int (body'.query location').limit) :=
    found "limit" (by simp [filterPayload]) (by simp [filterPayload])
  have limit : (body.query location).limit = (body'.query location').limit :=
    Int.ofNat.inj (JSONValue.int.inj limits)
  rw [CatalogQueryBody.query, CatalogQueryBody.query, CatalogQuery.mk.injEq]
  exact ⟨category, city, country, maximum, rfl, cursor, limit⟩

/-- The first 16 bits of the digest of a query's text. -/
def leadingBits (M : MerchantPlatform) (query : CatalogQuery) : Bytes :=
  (M.sha256 (filterText query)).val.take 2

theorem length_leadingBits (query : CatalogQuery) : (leadingBits M query).length = 2 := by
  rw [leadingBits, List.length_take, (M.sha256 (filterText query)).property]
  rfl

/-- Half a byte is a digit. -/
theorem take_toList_hex (bytes : Bytes) :
    (hex bytes).toList.take 4 = (hex (bytes.take 2)).toList := by
  rw [hex, hex, String.toList_ofList, String.toList_ofList]
  cases bytes with
  | nil => rfl
  | cons first rest =>
      cases rest with
      | nil => rfl
      | cons second rest => rfl

theorem length_toList_hex (bytes : Bytes) : (hex bytes).toList.length = 2 * bytes.length := by
  rw [hex, String.toList_ofList]
  induction bytes with
  | nil => rfl
  | cons byte bytes ih =>
      rw [List.flatMap_cons, List.length_append, ih, List.length_cons, List.length_cons,
        List.length_cons, List.length_nil]
      omega

/-- The characters between the quotes of an entity tag. -/
def tagChars (M : MerchantPlatform) (catalogVersion : Int) (query : CatalogQuery) : List Char :=
  "cat-v".toList ++ ((toString catalogVersion).toList
    ++ '-' :: (hex (leadingBits M query)).toList)

theorem toList_computeEtag (catalogVersion : Int) (query : CatalogQuery) :
    (computeEtag M catalogVersion query).toList
      = '\x22' :: (tagChars M catalogVersion query ++ ['\x22']) := by
  have digits : ((M.hexdigest (filterText query)).toList.take 4)
      = (hex (leadingBits M query)).toList := take_toList_hex _
  have tag : computeEtag M catalogVersion query = "\"cat-v" ++ toString catalogVersion ++ "-" ++
    String.ofList ((M.hexdigest (filterText query)).toList.take 4) ++ "\"" := rfl
  rw [tag, digits, tagChars]
  simp

/-- A tag tells of the version and of the leading bits. -/
theorem computeEtag_eq_iff {catalogVersion catalogVersion' : Int} {query query' : CatalogQuery} :
    computeEtag M catalogVersion query = computeEtag M catalogVersion' query' ↔
      catalogVersion = catalogVersion' ∧ leadingBits M query = leadingBits M query' := by
  rw [← String.toList_inj, toList_computeEtag, toList_computeEtag, List.cons.injEq,
    List.append_cancel_right_eq, tagChars, tagChars, List.append_cancel_left_eq]
  constructor
  · rintro ⟨-, same⟩
    obtain ⟨versions, bits⟩ := List.append_inj' same (by
      rw [List.length_cons, List.length_cons, length_toList_hex, length_toList_hex,
        length_leadingBits, length_leadingBits])
    exact ⟨Audit.toString_int_injective (String.toList_inj.mp versions),
      Audit.hex_injective (String.toList_inj.mp (List.cons.inj bits).2)⟩
  · rintro ⟨rfl, bits⟩
    rw [bits]
    exact ⟨rfl, rfl⟩

/-- There is no comma in a tag. -/
theorem comma_not_mem_etag (catalogVersion : Int) (query : CatalogQuery) :
    ',' ∉ (computeEtag M catalogVersion query).toList := by
  rw [toList_computeEtag, tagChars]
  intro member
  have version : ',' ∉ (toString catalogVersion).toList := by
    rw [Audit.toList_toString]
    intro member
    split at member
    next =>
      have digit := Nat.isDigit_of_mem_toDigits (by decide) (by decide) member
      revert digit
      decide
    next =>
      rcases List.mem_cons.mp member with clash | member
      · revert clash
        decide
      · have digit := Nat.isDigit_of_mem_toDigits (by decide) (by decide) member
        revert digit
        decide
  have bits : ',' ∉ (hex (leadingBits M query)).toList := by
    intro member
    obtain ⟨n, small, clash⟩ := mem_hex member
    exact (by decide : ∀ n < 16, ',' ≠ Nat.digitChar n) n small clash
  simp only [List.mem_cons, List.mem_append, List.not_mem_nil, or_false] at member
  rcases member with clash | (prefixed | version' | clash | bits') | clash
  · revert clash
    decide
  · revert prefixed
    decide
  · exact version version'
  · revert clash
    decide
  · exact bits bits'
  · revert clash
    decide

/-- A header with one tag hits that tag only. -/
theorem isNotModified_etag_iff {catalogVersion catalogVersion' : Int}
    {query query' : CatalogQuery} :
    isNotModified (some (computeEtag M catalogVersion' query')) (computeEtag M catalogVersion query)
      = true ↔ computeEtag M catalogVersion query = computeEtag M catalogVersion' query' := by
  have chars := toList_computeEtag (M := M) catalogVersion' query'
  have parts := List.splitOn_eq_singleton (comma_not_mem_etag (M := M) catalogVersion' query')
  have trimmed : strip (computeEtag M catalogVersion' query')
      = computeEtag M catalogVersion' query' := by
    rw [strip_eq_self_iff, Trimmed, chars]
    refine ⟨?_, ?_⟩
    · rintro c ⟨⟩
      decide
    · rw [← List.cons_append, List.getLast?_append]
      rintro c ⟨⟩
      decide
  have visible : computeEtag M catalogVersion' query' ≠ "" := by
    intro empty
    rw [empty] at chars
    cases chars
  have other : "*" ≠ computeEtag M catalogVersion' query' := by
    intro star
    rw [← star] at chars
    exact absurd (List.cons.inj chars).1 (by decide)
  have hits : ifNoneMatchHits (computeEtag M catalogVersion' query')
      (computeEtag M catalogVersion query)
        = decide (computeEtag M catalogVersion query = computeEtag M catalogVersion' query') := by
    rw [ifNoneMatchHits, parts, List.map_singleton, String.ofList_toList, trimmed]
    simp [other]
  rw [isNotModified, hits, decide_eq_true visible, Bool.true_and, decide_eq_true_iff]

/-- The query of the REST route. -/
def CatalogQueryBody.restQuery (body : CatalogQueryBody) : CatalogQuery :=
  body.query (parseLocation body.location)

/-- The route tells that nothing has changed exactly when the header hits the tag. -/
theorem getCatalog_notModified_iff {body : CatalogQueryBody} {ifNoneMatch : Option String}
    {actorId traceId : String} {items : CatalogItems} {input : Input} {w : World} :
    (∃ etag, (getCatalog M body ifNoneMatch actorId traceId items input w).1
        = .ok (.notModified etag)) ↔
      isNotModified ifNoneMatch (computeEtag M w.db.catalogVersion body.restQuery) = true := by
  unfold getCatalog
  dsimp only
  split
  next same => exact iff_of_true ⟨_, rfl⟩ same
  next changed =>
    refine iff_of_false ?_ changed
    rintro ⟨etag, told⟩
    dsimp only at told
    split at told
    next => cases told
    next => cases told
    next => cases told

/-- Tags that are the same are of one version and of one query, and a query that brings
the tag of another version or query is answered in full. -/
structure TellsApart (M : MerchantPlatform) (catalogVersion catalogVersion' : Int)
    (body body' : CatalogQueryBody) : Prop where
  tags : computeEtag M catalogVersion body.restQuery
      = computeEtag M catalogVersion' body'.restQuery →
    catalogVersion = catalogVersion' ∧ body.restQuery = body'.restQuery
  answers : ∀ actorId traceId items input w etag, w.db.catalogVersion = catalogVersion →
    (getCatalog M body (some (computeEtag M catalogVersion' body'.restQuery)) actorId traceId items
      input w).1 = .ok (.notModified etag) →
    catalogVersion = catalogVersion' ∧ body.restQuery = body'.restQuery

theorem tellsApart_iff {catalogVersion catalogVersion' : Int} {body body' : CatalogQueryBody} :
    TellsApart M catalogVersion catalogVersion' body body' ↔
      catalogVersion ≠ catalogVersion' ∨ body.restQuery = body'.restQuery ∨
        leadingBits M body.restQuery ≠ leadingBits M body'.restQuery := by
  constructor
  · intro told
    by_cases version : catalogVersion = catalogVersion'
    · by_cases bits : leadingBits M body.restQuery = leadingBits M body'.restQuery
      · exact .inr (.inl (told.tags (computeEtag_eq_iff.mpr ⟨version, bits⟩)).2)
      · exact .inr (.inr bits)
    · exact .inl version
  · intro apart
    have tags : computeEtag M catalogVersion body.restQuery
        = computeEtag M catalogVersion' body'.restQuery →
          catalogVersion = catalogVersion' ∧ body.restQuery = body'.restQuery := by
      intro same
      obtain ⟨version, bits⟩ := computeEtag_eq_iff.mp same
      rcases apart with different | same | different
      · exact absurd version different
      · exact ⟨version, same⟩
      · exact absurd bits different
    refine ⟨tags, ?_⟩
    rintro actorId traceId items input w etag rfl told
    exact tags (isNotModified_etag_iff.mp (getCatalog_notModified_iff.mp ⟨etag, told⟩))

/-- The whole digests of two queries' texts are the same for one query only, unless they
collide. -/
theorem query_of_digest_eq {body body' : CatalogQueryBody}
    (collisionFree : Set.InjOn M.sha256 {filterText body.restQuery, filterText body'.restQuery})
    (same : M.sha256 (filterText body.restQuery) = M.sha256 (filterText body'.restQuery)) :
    body.restQuery = body'.restQuery :=
  query_of_filterText_eq (collisionFree (.inl rfl) (.inr rfl) same)

/-! ## Queries with one tag -/

theorem nulFree_none : ∀ text ∈ (none : Option String), NulFree text := by simp

theorem twenty_inRange : 0 < 20 ∧ 20 ≤ 100 := by decide

/-- A query for what costs at most so much. -/
def atMost (maximum : Nat) (range : 0 < maximum ∧ (maximum : Int) ≤ maxUnitPriceMinor) :
    CatalogQueryBody where
  category := none
  location := none
  maxUnitMinor := some maximum
  cursor := none
  limit := 20
  categoryNulFree := nulFree_none
  locationNulFree := nulFree_none
  maximumInRange := by
    intro maximum' given
    obtain rfl := Option.mem_some_iff.mp given
    exact ⟨by exact_mod_cast range.1, range.2⟩
  cursorNulFree := nulFree_none
  limitInRange := twenty_inRange

/-- There are more prices than leading bits, so two of them have their leading bits in
common. -/
theorem exists_same_leadingBits (M : MerchantPlatform) :
    ∃ body body' : CatalogQueryBody, body.restQuery ≠ body'.restQuery ∧
      leadingBits M body.restQuery = leadingBits M body'.restQuery := by
  have range : ∀ n : Fin 65537, 0 < n.val + 1 ∧ ((n.val + 1 : Nat) : Int) ≤ maxUnitPriceMinor := by
    intro n
    refine ⟨Nat.succ_pos _, ?_⟩
    have small := n.isLt
    rw [maxUnitPriceMinor]
    omega
  let bits (n : Fin 65537) : Bytes := leadingBits M (atMost (n.val + 1) (range n)).restQuery
  obtain ⟨n, n', different, same⟩ := Fintype.exists_ne_map_eq_of_card_lt
    (fun n : Fin 65537 => (((bits n).getD 0 0).toFin, ((bits n).getD 1 0).toFin))
    (by rw [Fintype.card_prod, Fintype.card_fin, Fintype.card_fin]; decide)
  refine ⟨atMost (n.val + 1) (range n), atMost (n'.val + 1) (range n'), ?_, ?_⟩
  · intro equal
    have maximum := Option.some.inj (congrArg CatalogQuery.maxUnitMinor equal)
    exact different (Fin.ext (by omega))
  · obtain ⟨high, low, pair⟩ := List.length_eq_two.mp (length_leadingBits (M := M)
      (atMost (n.val + 1) (range n)).restQuery)
    obtain ⟨high', low', pair'⟩ := List.length_eq_two.mp (length_leadingBits (M := M)
      (atMost (n'.val + 1) (range n')).restQuery)
    simp only [bits, pair, pair', List.getD_cons_zero, List.getD_cons_succ, Prod.mk.injEq,
      UInt8.toFin_inj] at same
    rw [pair, pair', same.1, same.2]

/-- Tags tell versions and queries apart unless the digests of two queries' texts begin
with the same 16 bits; and at every version there are queries whose digests do, and the
tag of the one gets the other told that nothing has changed. -/
theorem etag_iff (M : MerchantPlatform) :
    (∀ (catalogVersion catalogVersion' : Int) (body body' : CatalogQueryBody),
      TellsApart M catalogVersion catalogVersion' body body' ↔
        catalogVersion ≠ catalogVersion' ∨ body.restQuery = body'.restQuery ∨
          leadingBits M body.restQuery ≠ leadingBits M body'.restQuery) ∧
    ∀ w : World, ∃ body body' : CatalogQueryBody, body.restQuery ≠ body'.restQuery ∧
      ∀ actorId traceId items input, ∃ etag,
        (getCatalog M body (some (computeEtag M w.db.catalogVersion body'.restQuery)) actorId
          traceId items input w).1 = .ok (.notModified etag) := by
  refine ⟨fun _ _ _ _ => tellsApart_iff, fun w => ?_⟩
  obtain ⟨body, body', different, same⟩ := exists_same_leadingBits M
  refine ⟨body, body', different, fun actorId traceId items input => ?_⟩
  exact getCatalog_notModified_iff.mpr
    (isNotModified_etag_iff.mpr (computeEtag_eq_iff.mpr ⟨rfl, same⟩))

end Tags

namespace Fixture

theorem noMaximum_inRange :
    ∀ maximum ∈ (none : Option Int), 0 < maximum ∧ maximum ≤ maxUnitPriceMinor := by simp

/-- A location with a blank behind its comma. -/
def spaced : CatalogQueryBody where
  category := none
  location := some "Goa, IN"
  maxUnitMinor := none
  cursor := none
  limit := 20
  categoryNulFree := nulFree_none
  locationNulFree := by decide
  maximumInRange := noMaximum_inRange
  cursorNulFree := nulFree_none
  limitInRange := twenty_inRange

/-- The REST route asks for a country that begins with a blank. -/
theorem blank_country : ¬ RoutesAgree merchant spaced := by
  intro agree
  have country := congrArg CatalogQuery.locationCountry agree.query
  revert country
  decide

/-- What costs at most 130 and what costs at most 557 have one tag. -/
theorem tags_collide :
    ¬ TellsApart merchant 1 1 (atMost 130 (by decide)) (atMost 557 (by decide)) := by
  rw [tellsApart_iff]
  have bits : leadingBits merchant (atMost 130 (by decide)).restQuery
      = leadingBits merchant (atMost 557 (by decide)).restQuery := by decide +kernel
  rintro (version | query | different)
  · exact version rfl
  · have maximum := Option.some.inj (congrArg CatalogQuery.maxUnitMinor query)
    revert maximum
    decide
  · exact different bits

end Fixture

end Actl.Agents
