import Actl.Catalog.Service
import Actl.Effects.Proposals
import Actl.Policy.Authority

/-!
# The buyer's pre-screen

`domain/agent/buyer.py` drops the catalog items that a mandate cannot admit before
it asks for a quote. The policy checks the same facts later on another record, the
intent made of the quote. The two agree (`isFeasible_iff_codes`), so the pre-screen
never drops an item that the policy would allow.

Lower-casing a text is a parameter.
-/

set_option autoImplicit false

namespace Actl.Agents

open Catalog (QuoteArgs draftQuote createQuote createQuote_quote)
open Mandates (Mandate)
open Policy (ReasonCode PolicyContext evaluate findings mem_reasonCodes some_eq_refusal
  some_eq_window)

/-! ## Catalog items -/

/-- A row of `catalog_items` with the columns that only the feed shows. -/
structure CatalogItemRow extends CatalogItemRecord where
  locationCity : String
  locationCountry : String
  isBuyerListable : Bool := true
  deriving DecidableEq

structure CatalogLocation where
  city : String
  country : String
  deriving DecidableEq

structure CatalogPolicy where
  refundable : Bool
  deriving DecidableEq

/-- An item of the feed, without the attributes that only rank it. -/
structure CatalogItem where
  sku : String
  category : String
  merchantId : String
  unitPriceMinor : Int
  availableUnits : Int
  location : CatalogLocation
  policy : CatalogPolicy
  deriving DecidableEq

/-- `_to_domain_item`. -/
def toDomainItem (record : CatalogItemRow) : CatalogItem where
  sku := record.sku
  category := record.category
  merchantId := record.merchantId
  unitPriceMinor := record.unitPriceMinor
  availableUnits := record.availableUnits
  location := ⟨record.locationCity, record.locationCountry⟩
  policy := ⟨record.refundable⟩

/-! ## The pre-screen -/

/-- What `str.strip()` takes for a blank. -/
def isSpace (c : Char) : Bool :=
  let n := c.toNat
  (9 ≤ n && n ≤ 13) || (28 ≤ n && n ≤ 32) || n == 0x85 || n == 0xa0 || n == 0x1680 ||
    (0x2000 ≤ n && n ≤ 0x200a) || n == 0x2028 || n == 0x2029 || n == 0x202f || n == 0x205f ||
    n == 0x3000

/-- `text.strip()`. -/
def strip (text : String) : String :=
  String.ofList (((text.toList.dropWhile isSpace).reverse.dropWhile isSpace).reverse)

/-- `text.split(",")[0]`. -/
def beforeComma (text : String) : String := String.ofList (text.toList.takeWhile (· ≠ ','))

/-- `mandate.intent.location.split(",")[0].strip().lower()`. -/
def mandateCity (lower : String → String) (mandate : Mandate) : String :=
  lower (strip (beforeComma mandate.intent.location))

def isFeasible (lower : String → String) (item : CatalogItem) (mandate : Mandate) : Bool :=
  if item.category ∉ mandate.bounds.allowedCategories then false
  else if item.merchantId ∈ mandate.bounds.blockedMerchants then false
  else if item.unitPriceMinor > mandate.bounds.maxUnitMinor then false
  else if item.availableUnits ≤ 0 then false
  else if mandate.bounds.requireRefundable ∧ ¬item.policy.refundable then false
  else lower item.location.city = mandateCity lower mandate

def filterCandidates (lower : String → String) (items : List CatalogItem) (mandate : Mandate) :
    List CatalogItem :=
  items.filter fun item => isFeasible lower item mandate

/-- What the pre-screen asks of an item. -/
structure Feasible (lower : String → String) (item : CatalogItem) (mandate : Mandate) : Prop where
  category : item.category ∈ mandate.bounds.allowedCategories
  merchant : item.merchantId ∉ mandate.bounds.blockedMerchants
  unit : item.unitPriceMinor ≤ mandate.bounds.maxUnitMinor
  available : 0 < item.availableUnits
  refundable : mandate.bounds.requireRefundable = true → item.policy.refundable = true
  city : lower item.location.city = mandateCity lower mandate

theorem isFeasible_iff {lower : String → String} {item : CatalogItem} {mandate : Mandate} :
    isFeasible lower item mandate = true ↔ Feasible lower item mandate := by
  simp only [isFeasible]
  constructor
  · intro feasible
    split at feasible
    · cases feasible
    · next category =>
      split at feasible
      · cases feasible
      · next merchant =>
        split at feasible
        · cases feasible
        · next unit =>
          split at feasible
          · cases feasible
          · next available =>
            split at feasible
            · cases feasible
            · next refundable =>
              exact ⟨not_not.mp category, merchant, Int.not_lt.mp unit, Int.not_le.mp available,
                fun required => by simpa [required] using refundable,
                of_decide_eq_true feasible⟩
  · intro feasible
    have refundable : ¬(mandate.bounds.requireRefundable = true ∧
        ¬item.policy.refundable = true) :=
      fun refused => refused.2 (feasible.refundable refused.1)
    rw [if_neg (not_not.mpr feasible.category), if_neg feasible.merchant,
      if_neg (Int.not_lt.mpr feasible.unit), if_neg (Int.not_le.mpr feasible.available),
      if_neg refundable]
    exact decide_eq_true feasible.city

/-! ## Agreement with the policy -/

/-- The codes of the facts that the pre-screen looks at. -/
def screened : List ReasonCode :=
  [.categoryNotAllowed, .merchantBlocked, .unitCapExceeded, .refundPolicyViolation]

/-- The policy objects to one of the screened facts exactly when the intent lacks it. -/
theorem screened_iff {P : Platform} {mandate : Mandate} {intent : Policy.PurchaseIntent}
    {ctx : PolicyContext} :
    (∃ code ∈ screened, code ∈ (evaluate P mandate intent ctx).reasonCodes) ↔
      ¬(intent.category ∈ mandate.bounds.allowedCategories ∧
        intent.merchant ∉ mandate.bounds.blockedMerchants ∧
        intent.unitPriceMinor ≤ mandate.bounds.maxUnitMinor ∧
        (mandate.bounds.requireRefundable = true → intent.refundable = true)) := by
  have category : .categoryNotAllowed ∈ (evaluate P mandate intent ctx).reasonCodes ↔
      intent.category ∉ mandate.bounds.allowedCategories := by
    simp [mem_reasonCodes, findings, some_eq_refusal, some_eq_window]
  have merchant : .merchantBlocked ∈ (evaluate P mandate intent ctx).reasonCodes ↔
      intent.merchant ∈ mandate.bounds.blockedMerchants := by
    simp [mem_reasonCodes, findings, some_eq_refusal, some_eq_window]
  have unit : .unitCapExceeded ∈ (evaluate P mandate intent ctx).reasonCodes ↔
      ¬intent.unitPriceMinor ≤ mandate.bounds.maxUnitMinor := by
    simp [mem_reasonCodes, findings, some_eq_refusal, some_eq_window]
  have refundable : .refundPolicyViolation ∈ (evaluate P mandate intent ctx).reasonCodes ↔
      ¬(mandate.bounds.requireRefundable = true → intent.refundable = true) := by
    simp [mem_reasonCodes, findings, some_eq_refusal, some_eq_window]
  simp only [screened, List.mem_cons, List.not_mem_nil, or_false, exists_eq_or_imp,
    exists_eq_left, category, merchant, unit, refundable]
  rw [not_and_or, not_and_or, not_and_or, not_not]

/-- On a fresh quote of an available item in the mandate's city, the pre-screen and
the policy agree: an item is dropped exactly when the policy would object to one of
the screened facts, so no item that the policy would allow is ever dropped. -/
theorem isFeasible_iff_codes (P : Platform) (lower : String → String) (record : CatalogItemRow)
    (mandate : Mandate) (args : QuoteArgs) (quoteId : String) (now : Time) (db db' : Database)
    (quote : QuoteRecord) (ctx : PolicyContext)
    (stored : db.items.get? CatalogItemRecord.sku args.sku = some record.toCatalogItemRecord)
    (quoted : createQuote P args quoteId now db = .ok (quote, db'))
    (available : 0 < record.availableUnits)
    (located : lower record.locationCity = mandateCity lower mandate) :
    (isFeasible lower (toDomainItem record) mandate = false ↔
      ∃ code ∈ screened, code ∈ (evaluate P mandate
        (intentFor P mandate quote record.toCatalogItemRecord) ctx).reasonCodes) ∧
      ∀ items : List CatalogItem, toDomainItem record ∈ items →
        (evaluate P mandate (intentFor P mandate quote record.toCatalogItemRecord) ctx).verdict
            = .allow →
          toDomainItem record ∈ filterCandidates lower items mandate := by
  obtain ⟨item, found, -, rfl⟩ := createQuote_quote quoted
  obtain rfl : record.toCatalogItemRecord = item := Option.some.inj (stored.symm.trans found)
  have agree : isFeasible lower (toDomainItem record) mandate = false ↔
      ∃ code ∈ screened, code ∈ (evaluate P mandate (intentFor P mandate
        (draftQuote P args record.toCatalogItemRecord db.catalogVersion quoteId now)
        record.toCatalogItemRecord) ctx).reasonCodes := by
    rw [screened_iff, ← Bool.not_eq_true, isFeasible_iff, not_iff_not]
    constructor
    · intro feasible
      exact ⟨feasible.category, feasible.merchant, feasible.unit, feasible.refundable⟩
    · rintro ⟨category, merchant, unit, refundable⟩
      exact ⟨category, merchant, unit, available, refundable, located⟩
  refine ⟨agree, fun items member allowed => ?_⟩
  refine List.mem_filter.mpr ⟨member, ?_⟩
  by_contra dropped
  obtain ⟨code, screens, objected⟩ := agree.mp (Bool.eq_false_iff.mpr dropped)
  rw [Policy.reasonCodes_of_allow allowed, List.mem_singleton] at objected
  rw [objected] at screens
  revert screens
  decide

namespace Fixture

open Actl.Fixture (platform mandate database seaView start seaViewHash)

def lower (text : String) : String := String.ofList (text.toList.map Char.toLower)

def seaViewRow : CatalogItemRow where
  toCatalogItemRecord := seaView
  locationCity := "Goa"
  locationCountry := "IN"

def quoteArgs : QuoteArgs where
  mandateId := "mdt_1"
  sku := "HTL-GOA-SEA-DLX"
  nights := 3
  actorId := "agt_test"
  traceId := "trc_1"

/-- The first item passes the pre-screen, and the policy, asked with nothing left of
the budget, objects to none of the screened facts. -/
theorem seaView_screened :
    ∃ quote db', createQuote platform quoteArgs "qte_3" start database = .ok (quote, db') ∧
      ¬∃ code ∈ screened, code ∈ (evaluate platform mandate
        (intentFor platform mandate quote seaView)
        ⟨start, 900000, 0, 1, "dec_1", 30⟩).reasonCodes := by
  have made : (createQuote platform quoteArgs "qte_3" start database).isOk = true := by
    decide +kernel
  cases quoted : createQuote platform quoteArgs "qte_3" start database with
  | error failure =>
      rw [quoted] at made
      cases made
  | ok result =>
      refine ⟨result.1, result.2, rfl, fun objected => ?_⟩
      have dropped := (isFeasible_iff_codes platform lower seaViewRow mandate quoteArgs "qte_3" start
        database result.2 result.1 _ (by decide +kernel) quoted (by decide)
        (by decide +kernel)).1.mpr objected
      revert dropped
      decide +kernel

end Fixture

end Actl.Agents
