import Actl.Agents.Answers
import Actl.Policy.Authority
import Actl.Runs.Denials

/-!
# Recovering from a price change

`propose_with_one_requote_on_stale_price` plays the buyer's client: it proposes the
quote it has and, where the answer is `STALE_PRICE`, takes one fresh quote and proposes
that. Between the quote and the proposal the price has been changed once.

The policy reports its drift rule before its freshness rule. A change within the
mandate's `max_price_delta_bps` is answered `STALE_PRICE` and recovered by exactly one
quote at the current price; a larger one is answered `PRICE_DRIFT`, and no quote is
taken (`requotes_once`). Where the catalog has not changed no quote is taken either: the
policy has seen the version that the gate compares with.
-/

set_option autoImplicit false

namespace Actl.Recovery

open Agents (Healthy transaction_ok)
open Catalog (FitsBigint PriceArgs QuoteArgs Storable createQuote draftQuote mutatePriceDemoOnly)
open Foundation (Code Program)
open Foundation.Code (concludes_bind_cases concludes_perform concludes_pure)
open Foundation.Program (Concludes concludes_alone concludes_embed)
open Gate (MoneyActionResult deny)
open Mandates (Mandate)
open Policy (ReasonCode computeIntentHash deltaBps)
open Saga (ProposeArgs Proposal proposeOrder)

/-! ## The buyer's client -/

/-- What the client does: it reads an item, or it has the application act. -/
inductive ClientAction where
  | getItem (sku : String)
  | application (action : Action)

@[reducible] def ClientValue : ClientAction → Type
  | .getItem _ => Option CatalogItemRecord
  | .application action => Value action

abbrev ClientReply (action : ClientAction) : Type := Except Failure (ClientValue action)

def executeClient (P : Platform) :
    (action : ClientAction) → Input → World → ClientReply action × World
  | .getItem sku, input, w =>
      w.query input.dbError fun db => .ok (db.items.get? CatalogItemRecord.sku sku)
  | .application action, input, w => execute P action input w

abbrev ClientProg (α : Type) : Type := Code ClientAction ClientReply Failure α

/-- Issuing one action. -/
def issue (action : ClientAction) : ClientProg (ClientValue action) := Code.perform action id

/-- A program of the application, called by the client. -/
def call {α : Type} (body : Prog α) : ClientProg α :=
  Program.embed .application (fun _ reply => reply) body

/-- What `propose_with_one_requote_on_stale_price` is called with, and what is drawn for
it. -/
structure RequoteArgs where
  mandate : Mandate
  quote : QuoteRecord
  actorId : String
  traceId : String
  firstOrderId : String
  quoteTraceId : String
  secondOrderId : String

structure RequoteOutcome where
  result : MoneyActionResult
  requoted : Bool
  finalQuote : QuoteRecord
  sagaId : Option String
  deriving DecidableEq

/-- `_buyer_intent_hash`: the buyer computes what the merchant derives. -/
def buyerIntentHash (P : Platform) (mandate : Mandate) (quote : QuoteRecord) :
    ClientProg String := do
  match ← issue (.getItem quote.sku) with
  | none => throw .assertionError
  | some item => return computeIntentHash P (intentDraft mandate quote item)

/-- What `_propose` sends for a quote. -/
def proposalArgs (args : RequoteArgs) (quote : QuoteRecord) (intentHash : String) :
    ProposeArgs where
  quoteId := quote.id
  quoteHash := quote.quoteHash
  mandateId := args.mandate.mandateId
  mandateSpecHash := args.mandate.specHash.getD ""
  intentHash := intentHash
  traceId := args.traceId
  actorId := args.actorId

/-- What `_propose` makes of the merchant's answer, where `str()` of a missing id is the
text `None`. -/
def received (traceId : String) : HandlerResult → MoneyActionResult × Option String
  | .accept orderId sagaId =>
      ({ verdict := .allow, reasonCode := .ok, traceId := traceId
         orderId := some (orderId.getD "None") }, some sagaId)
  | .reject code => (deny code traceId, none)

/-- `_propose`. -/
def propose (P : Platform) (args : RequoteArgs) (quote : QuoteRecord) (orderId : String) :
    ClientProg (MoneyActionResult × Option String) := do
  let intentHash ← buyerIntentHash P args.mandate quote
  let answer ← call (handleOrderPropose P (proposalArgs args quote intentHash) orderId)
  return received args.traceId answer

def quoteArgs (args : RequoteArgs) : QuoteArgs where
  mandateId := args.mandate.mandateId
  sku := args.quote.sku
  nights := args.quote.nights
  actorId := args.actorId
  traceId := args.quoteTraceId

/-- The answer to one of the quotes as the outcome. -/
def outcomeOf (requoted : Bool) (quote : QuoteRecord)
    (answer : MoneyActionResult × Option String) : RequoteOutcome where
  result := answer.1
  requoted := requoted
  finalQuote := quote
  sagaId := answer.2

/-- The answer that is followed by a fresh quote. -/
def Stale (answer : MoneyActionResult × Option String) : Prop :=
  answer.1.verdict = .deny ∧ answer.1.reasonCode = .stalePrice

instance (answer : MoneyActionResult × Option String) : Decidable (Stale answer) :=
  inferInstanceAs (Decidable (_ ∧ _))

/-- `propose_with_one_requote_on_stale_price`. -/
def proposeWithOneRequoteOnStalePrice (P : Platform) (args : RequoteArgs) :
    ClientProg RequoteOutcome := do
  let first ← propose P args args.quote args.firstOrderId
  if Stale first then
    let fresh ← issue (.application (.createQuote (quoteArgs args)))
    let second ← propose P args fresh args.secondOrderId
    return outcomeOf true fresh second
  else return outcomeOf false args.quote first

/-! ## A quote whose price has changed -/

/-- The item at the new price. -/
def repriced (item : CatalogItemRecord) (price : PriceArgs) : CatalogItemRecord :=
  { item with unitPriceMinor := price.newUnitPriceMinor }

/-- The quote has just been made, and a proposal of it would be allowed. -/
structure AcceptedAtQuote (P : Platform) (args : RequoteArgs) (row : MandateRow)
    (item : CatalogItemRecord) (db : Database) : Prop where
  issued : ∃ request quoteId quotedAt earlier,
    createQuote P request quoteId quotedAt earlier = .ok (args.quote, db)
  stored : db.getMandate args.mandate.mandateId = some row
  mandate : row.mandate = args.mandate
  found : db.items.get? CatalogItemRecord.sku args.quote.sku = some item
  accepted : ∃ decisionId now req after, proposeOrder P (proposalArgs args args.quote
    (computeIntentHash P (intentDraft args.mandate args.quote item))) decisionId now db
      = .ok (.allowed req, after)

/-- The mandate is in force, the database works and what is drawn is new. -/
structure Calm (mandate : Mandate) (db : Database) (input : Input) : Prop
    extends Healthy db input where
  valid : WhileValid mandate input

theorem Calm.undisturbed {mandate : Mandate} {db : Database} {input : Input}
    (calm : Calm mandate db input) : Undisturbed mandate db input :=
  ⟨calm.valid, calm.works, calm.newDecision⟩

namespace AcceptedAtQuote

variable {P : Platform} {args : RequoteArgs} {row : MandateRow} {item : CatalogItemRecord}
variable {before : Database}

/-- What the merchant has found of an acceptable quote. -/
theorem allowed (quoted : AcceptedAtQuote P args row item before) :
    ∃ decisionId now, AllowedProposal P (proposalArgs args args.quote
      (computeIntentHash P (intentDraft args.mandate args.quote item))) decisionId now before row
        args.quote item := by
  obtain ⟨decisionId, now, req, after, done⟩ := quoted.accepted
  obtain ⟨row', quote, item', allowed, -⟩ := proposeOrder_allowed done
  obtain ⟨request, quoteId, quotedAt, earlier, issued⟩ := quoted.issued
  obtain ⟨-, members, -⟩ := Catalog.createQuote_ok issued
  have rows := allowed.foundMandate
  rw [show (proposalArgs args args.quote _).mandateId = args.mandate.mandateId from rfl,
    quoted.stored] at rows
  cases rows
  have pinned : before.quotes.get? QuoteRecord.id args.quote.id = some args.quote :=
    (Foundation.Table.get?_eq_some_iff (by simp)).mpr ⟨(members _).mpr (.inr rfl), rfl⟩
  have quotes := allowed.foundQuote
  rw [show (proposalArgs args args.quote _).quoteId = args.quote.id from rfl, pinned] at quotes
  cases quotes
  have items := allowed.foundItem
  rw [quoted.found] at items
  cases items
  exact ⟨decisionId, now, allowed⟩

/-- The item of a quote is one that quotes are made of, for a positive number of
nights. -/
theorem quotable (quoted : AcceptedAtQuote P args row item before) :
    0 < item.availableUnits ∧ item.sku = args.quote.sku ∧ 0 < args.quote.nights ∧
      Catalog.FitsInteger args.quote.nights := by
  obtain ⟨request, quoteId, quotedAt, earlier, issued⟩ := quoted.issued
  obtain ⟨item', found, available, pinned⟩ := Catalog.createQuote_quote issued
  obtain ⟨items, -⟩ := Catalog.createQuote_catalog issued
  have storable := Catalog.createQuote_storable issued
  have named := (Foundation.Table.get?_mem quoted.found).2
  have sku : args.quote.sku = request.sku := by
    rw [pinned]
    exact (Foundation.Table.get?_mem found).2
  have same := quoted.found
  rw [items, sku, found] at same
  cases same
  have total : args.quote.totalMinor = args.quote.unitPriceMinor * args.quote.nights := by
    rw [pinned]
    rfl
  have positive : 0 < args.quote.unitPriceMinor * args.quote.nights := total ▸ storable.totalPositive
  exact ⟨available, named, pos_of_mul_pos_right positive (Int.le_of_lt storable.pricePositive),
    storable.nights⟩

end AcceptedAtQuote

section Requote

variable {P : Platform} {args : RequoteArgs} {row : MandateRow} {item : CatalogItemRecord}
variable {before : Database} {price : PriceArgs} {w w' : World} {orderId : String}

/-- The merchant's checks pass at the new price as they did at the old one. -/
theorem derived_of_repriced (quoted : AcceptedAtQuote P args row item before)
    (changed : mutatePriceDemoOnly P price before = .ok w.db) (sku : price.sku = args.quote.sku)
    {now : Time} (unexpired : now < args.mandate.temporal.expiresAt) :
    Derived P (proposalArgs args args.quote
      (computeIntentHash P (intentDraft args.mandate args.quote (repriced item price)))) now w.db row
        args.quote (repriced item price) := by
  obtain ⟨decisionId, now', allowed⟩ := quoted.allowed
  obtain ⟨quotes, catalogued⟩ := Catalog.mutatePriceDemoOnly_ok changed
  obtain ⟨-, -, items⟩ := Catalog.mutatePriceDemoOnly_price changed
  -- The two proposals differ in the hash only, which is not to be unfolded.
  have specHash : row.mandate.specHash = some (args.mandate.specHash.getD "") := allowed.specHash
  have foundQuote : before.quotes.get? QuoteRecord.id args.quote.id = some args.quote :=
    allowed.foundQuote
  generalize hashed : computeIntentHash P (intentDraft args.mandate args.quote
    (repriced item price)) = intentHash
  have foundMandate : w.db.getMandate args.mandate.mandateId = some row := by
    rw [Database.getMandate, catalogued.mandates]
    exact quoted.stored
  refine ⟨foundMandate, allowed.status, ?_, specHash, ?_, allowed.owner, rfl, ?_, ?_⟩
  · rw [quoted.mandate]
    exact unexpired
  · rw [quotes]
    exact foundQuote
  · rw [← sku]
    exact items item (sku ▸ quoted.found)
  · rw [quoted.mandate]
    exact hashed

/-- The policy's codes for a quote whose price has changed. -/
theorem reasonCodes_of_changed (quoted : AcceptedAtQuote P args row item before)
    (changed : mutatePriceDemoOnly P price before = .ok w.db) {decisionId : String}
    {now : Nat → Time} (inside : Policy.InWindow args.mandate (now 1)) :
    (decisionFor P decisionId now row args.quote (repriced item price) w.db).reasonCodes =
      if deltaBps (intentDraft args.mandate args.quote (repriced item price))
          ≤ args.mandate.bounds.maxPriceDeltaBps then [.stalePrice]
      else [.priceDrift, .stalePrice] := by
  obtain ⟨decisionId', now', allowed⟩ := quoted.allowed
  obtain ⟨-, catalogued⟩ := Catalog.mutatePriceDemoOnly_ok changed
  obtain ⟨-, version, -⟩ := Catalog.mutatePriceDemoOnly_price changed
  have within := allowed.within
  have pinned : args.quote.catalogVersion = before.catalogVersion := within.fresh
  rw [← quoted.mandate] at inside ⊢
  refine Policy.reasonCodes_of_repriced within inside ?_ rfl rfl rfl ?_
  · exact committedTotal_of_ledger catalogued.ledgerEntries row.id
  · change args.quote.catalogVersion ≠ w.db.catalogVersion
    rw [version, pinned]
    omega

/-- A proposal of the quote is turned down, for the drift where it is too much. -/
theorem answer_of_changed (quoted : AcceptedAtQuote P args row item before)
    (changed : mutatePriceDemoOnly P price before = .ok w.db) (sku : price.sku = args.quote.sku)
    {result : Except Failure HandlerResult}
    (ended : Concludes (execute P) (Undisturbed args.mandate w.db) (handleOrderPropose P
      (proposalArgs args args.quote (computeIntentHash P
        (intentDraft args.mandate args.quote (repriced item price)))) orderId) w result w') :
    result = .ok (.reject (if deltaBps (intentDraft args.mandate args.quote (repriced item price))
        ≤ args.mandate.bounds.maxPriceDeltaBps then .stalePrice else .priceDrift)) ∧
      w'.db.mandates = w.db.mandates ∧
      (w'.db.quotes, w'.db.items, w'.db.catalogVersion)
        = (w.db.quotes, w.db.items, w.db.catalogVersion) := by
  obtain ⟨input, proposal, db, calm, done, rest⟩ := handleOrderPropose_undisturbed ended
  have passed := @derived_of_repriced P args row item before price w quoted changed sku _
    (calm.valid 0 0).2
  have codes := @reasonCodes_of_changed P args row item before price w quoted changed
    (input.ids 0) (input.now 0) (calm.valid 0 1)
  have catalog := (proposeOrder_ok done).catalog
  have mandates := proposeOrder_mandates done
  rcases proposeOrder_cases done with ⟨code, failed, -, -⟩ | ⟨row', quote', item', found, decision⟩
  · rw [passed.deriveIntent_eq] at failed
    cases failed
  obtain ⟨rfl, rfl, rfl⟩ := passed.unique found
  rcases decision with ⟨allow, -⟩ | ⟨-, rfl⟩
  · have none := Policy.reasonCodes_of_allow allow
    rw [show (Policy.evaluate P row'.mandate _ _).reasonCodes = _ from codes] at none
    split at none
    · cases none
    · cases none
  · obtain ⟨rfl, rfl⟩ := concludes_pure.mp rest
    refine ⟨?_, mandates, catalog⟩
    rw [codes]
    split
    · rfl
    · rfl

end Requote

/-! ## Exactly one fresh quote -/

section Client

variable {P : Platform} {args : RequoteArgs} {allowed : Input → Prop} {w w' : World}
variable {quote : QuoteRecord} {item : CatalogItemRecord} {orderId : String}

theorem concludes_call {α : Type} {body : Prog α} {result : Except Failure α} :
    Concludes (executeClient P) allowed (call body) w result w' ↔
      Concludes (execute P) allowed body w result w' :=
  concludes_embed fun _ _ _ => ⟨rfl, rfl⟩

theorem buyerIntentHash_concludes (works : ∀ input, allowed input → input.dbError = false)
    (found : w.db.items.get? CatalogItemRecord.sku quote.sku = some item) {mandate : Mandate}
    {result : Except Failure String}
    (ended : Concludes (executeClient P) allowed (buyerIntentHash P mandate quote) w result w') :
    result = .ok (computeIntentHash P (intentDraft mandate quote item)) ∧ w' = w := by
  have read : ∀ input, allowed input →
      executeClient P (.getItem quote.sku) input w = (.ok (some item), w) := by
    intro input fine
    simp only [executeClient, World.query, World.transaction, works input fine, found]
    rfl
  rcases concludes_bind_cases ended with ⟨failure, raised, -⟩ | ⟨held, middle, first, rest⟩
  · obtain ⟨input, fine, failed, -⟩ := concludes_perform.mp raised
    rw [read input fine] at failed
    cases failed
  · obtain ⟨input, fine, answered, last⟩ := concludes_perform.mp first
    rw [read input fine] at answered last
    cases answered
    subst last
    exact concludes_pure.mp rest

/-- With a database that works a proposal is what the merchant answers to the buyer's
hash. -/
theorem propose_concludes (works : ∀ input, allowed input → input.dbError = false)
    (found : w.db.items.get? CatalogItemRecord.sku quote.sku = some item)
    {result : Except Failure (MoneyActionResult × Option String)}
    (ended : Concludes (executeClient P) allowed (propose P args quote orderId) w result w') :
    ∃ answer, Concludes (execute P) allowed (handleOrderPropose P (proposalArgs args quote
        (computeIntentHash P (intentDraft args.mandate quote item))) orderId) w answer w' ∧
      result = answer.map (received args.traceId) := by
  rcases concludes_bind_cases ended with ⟨failure, raised, -⟩ | ⟨intentHash, middle, first, rest⟩
  · cases (buyerIntentHash_concludes works found raised).1
  obtain ⟨same, rfl⟩ := buyerIntentHash_concludes works found first
  cases same
  rcases concludes_bind_cases rest with ⟨failure, raised, rfl⟩ | ⟨answer, last, proposed, rest⟩
  · exact ⟨.error failure, concludes_call.mp raised, rfl⟩
  · obtain ⟨rfl, rfl⟩ := concludes_pure.mp rest
    exact ⟨.ok answer, concludes_call.mp proposed, rfl⟩

theorem received_stale {traceId : String} {answer : HandlerResult} :
    Stale (received traceId answer) ↔ answer = .reject .stalePrice := by
  cases answer with
  | accept orderId sagaId => simp [Stale, received]
  | reject code => simp [Stale, received, deny]

/-- What the client makes of a first answer. -/
theorem requote_cases {result : Except Failure RequoteOutcome}
    (ended : Concludes (executeClient P) allowed (proposeWithOneRequoteOnStalePrice P args) w result
      w') :
    ∃ first middle, Concludes (executeClient P) allowed
        (propose P args args.quote args.firstOrderId) w first middle ∧
      ((∀ answer, first = .ok answer → ¬ Stale answer) ∧ w' = middle ∧
          result = first.map (outcomeOf false args.quote) ∨
        ∃ answer, first = .ok answer ∧ Stale answer ∧
          Concludes (executeClient P) allowed (do
            let fresh ← issue (.application (.createQuote (quoteArgs args)))
            let second ← propose P args fresh args.secondOrderId
            return outcomeOf true fresh second : ClientProg RequoteOutcome) middle result w') := by
  rcases concludes_bind_cases ended with ⟨failure, raised, rfl⟩ | ⟨answer, middle, first, rest⟩
  · refine ⟨.error failure, w', raised, .inl ⟨?_, rfl, rfl⟩⟩
    intro answer same
    cases same
  · refine ⟨.ok answer, middle, first, ?_⟩
    split at rest
    · next stale => exact .inr ⟨answer, rfl, stale, rest⟩
    · next other =>
      obtain ⟨rfl, rfl⟩ := concludes_pure.mp rest
      refine .inl ⟨fun answer' same => ?_, rfl, rfl⟩
      cases same
      exact other

end Client

/-- The client has proposed its quote, and taken no other. -/
def TakesNone (P : Platform) (args : RequoteArgs) (w w' : World)
    (result : Except Failure RequoteOutcome) : Prop :=
  ∃ answer, Concludes (executeClient P) (Calm args.mandate w.db)
      (propose P args args.quote args.firstOrderId) w answer w' ∧
    result = answer.map (outcomeOf false args.quote) ∧ w'.db.quotes = w.db.quotes

/-- The client has taken a fresh quote of the item as it is, and what it returns is the
answer to a proposal of that quote. The merchant decides it on the current price: its
checks find the quote and the item, both at that price and at the catalog's version. -/
structure Requoted (P : Platform) (args : RequoteArgs) (row : MandateRow) (item : CatalogItemRecord)
    (w w' : World) (result : Except Failure RequoteOutcome) (fresh : QuoteRecord)
    (middle : World) (answer : Except Failure (MoneyActionResult × Option String)) : Prop where
  issued : ∃ quoteId now, fresh = draftQuote P (quoteArgs args) item w.db.catalogVersion quoteId now
  unseen : fresh ∉ w.db.quotes
  only : ∀ quote, quote ∈ w'.db.quotes ↔ quote ∈ w.db.quotes ∨ quote = fresh
  version : middle.db.catalogVersion = w.db.catalogVersion
  derived : ∀ now, now < args.mandate.temporal.expiresAt → Derived P (proposalArgs args fresh
    (computeIntentHash P (intentDraft args.mandate fresh item))) now middle.db row fresh item
  proposed : Concludes (executeClient P) (Calm args.mandate w.db)
    (propose P args fresh args.secondOrderId) middle answer w'
  returned : result = answer.map (outcomeOf true fresh)

section Run

variable {P : Platform} {args : RequoteArgs} {row : MandateRow} {item : CatalogItemRecord}
variable {before : Database} {price : PriceArgs} {w w' middle : World}
variable {result : Except Failure RequoteOutcome}

/-- A proposal leaves the catalog. -/
theorem propose_catalog {allowed : Input → Prop}
    (works : ∀ input, allowed input → input.dbError = false) {quote : QuoteRecord}
    (found : w.db.items.get? CatalogItemRecord.sku quote.sku = some item) {orderId : String}
    {result : Except Failure (MoneyActionResult × Option String)}
    (ended : Concludes (executeClient P) allowed (propose P args quote orderId) w result w') :
    w'.db.quotes = w.db.quotes := by
  obtain ⟨answer, proposed, -⟩ := propose_concludes works found ended
  have catalog := (handleOrderPropose_frame proposed).catalog
  simp only [Prod.mk.injEq] at catalog
  exact catalog.1

/-- The quote at the new price fits its table when its total does. -/
theorem storable_repriced (quoted : AcceptedAtQuote P args row item before)
    (positive : 0 < price.newUnitPriceMinor) {version : Int} {quoteId : String} {now : Time} :
    Storable (draftQuote P (quoteArgs args) (repriced item price) version quoteId now) ↔
      FitsBigint (price.newUnitPriceMinor * args.quote.nights) := by
  obtain ⟨-, -, nights, fits⟩ := quoted.quotable
  constructor
  · intro storable
    exact storable.total
  · intro total
    have larger : price.newUnitPriceMinor ≤ price.newUnitPriceMinor * args.quote.nights :=
      le_mul_of_one_le_right (Int.le_of_lt positive) nights
    refine ⟨positive, Int.mul_pos positive nights, ⟨?_, larger.trans total.2⟩, fits, total⟩
    change -Catalog.maxUnitPriceMinor - 1 ≤ price.newUnitPriceMinor
    rw [Catalog.maxUnitPriceMinor]
    omega

/-- What taking the fresh quote comes to. -/
theorem createQuote_executes (quoted : AcceptedAtQuote P args row item before)
    (positive : 0 < price.newUnitPriceMinor)
    (stored : w.db.getMandate args.mandate.mandateId = some row)
    (found : w.db.items.get? CatalogItemRecord.sku args.quote.sku = some (repriced item price))
    {input : Input} (works : input.dbError = false)
    (unseen : ∀ quote ∈ w.db.quotes, quote.id ≠ input.ids 0) :
    (FitsBigint (price.newUnitPriceMinor * args.quote.nights) → ∃ fresh db,
        fresh = draftQuote P (quoteArgs args) (repriced item price) w.db.catalogVersion
          (input.ids 0) (input.now 0 0) ∧
        createQuote P (quoteArgs args) (input.ids 0) (input.now 0 0) w.db = .ok (fresh, db) ∧
        executeClient P (.application (.createQuote (quoteArgs args))) input w
          = (.ok fresh, { w with db })) ∧
      (¬ FitsBigint (price.newUnitPriceMinor * args.quote.nights) →
        executeClient P (.application (.createQuote (quoteArgs args))) input w
          = (.error .dbapiError, w)) := by
  have storable := @storable_repriced P args row item before price quoted positive
    w.db.catalogVersion (input.ids 0) (input.now 0 0)
  obtain ⟨makes, refuses⟩ := @Catalog.createQuote_of_available P (quoteArgs args) (input.ids 0)
    (input.now 0 0) _ _ _ stored found quoted.quotable.1 unseen
  simp only [executeClient, execute, works]
  refine ⟨fun fits => ?_, fun large => ?_⟩
  · obtain ⟨db, made⟩ := makes (storable.mpr fits)
    exact ⟨_, db, rfl, made, transaction_ok made⟩
  · rw [World.transaction, if_neg Bool.false_ne_true, refuses fun fits => large (storable.mp fits)]

/-- The merchant's checks find the fresh quote and the item it was made of. -/
theorem derived_of_fresh (quoted : AcceptedAtQuote P args row item before) {db : Database}
    (stored : db.getMandate args.mandate.mandateId = some row)
    (found : db.items.get? CatalogItemRecord.sku args.quote.sku = some (repriced item price))
    {fresh : QuoteRecord} {version : Int} {quoteId : String} {made now : Time}
    (drafted : fresh = draftQuote P (quoteArgs args) (repriced item price) version quoteId made)
    (present : fresh ∈ db.quotes) (unexpired : now < args.mandate.temporal.expiresAt) :
    Derived P (proposalArgs args fresh
      (computeIntentHash P (intentDraft args.mandate fresh (repriced item price)))) now db row fresh
        (repriced item price) := by
  obtain ⟨decisionId, now', allowed⟩ := quoted.allowed
  obtain ⟨-, named, -⟩ := quoted.quotable
  have specHash : row.mandate.specHash = some (args.mandate.specHash.getD "") := allowed.specHash
  have owner : fresh.mandateId = args.mandate.mandateId := by rw [drafted]; rfl
  have sku : fresh.sku = args.quote.sku := by
    rw [drafted]
    exact named
  generalize hashed : computeIntentHash P (intentDraft args.mandate fresh (repriced item price))
    = intentHash
  refine ⟨stored, allowed.status, ?_, specHash, ?_, ?_, rfl, ?_, ?_⟩
  · rw [quoted.mandate]
    exact unexpired
  · exact (Foundation.Table.get?_eq_some_iff (by simp)).mpr ⟨present, rfl⟩
  · rw [owner, MandateRow.id, quoted.mandate]
  · rw [sku]
    exact found
  · rw [quoted.mandate]
    exact hashed

/-- After a stale answer one quote is taken, at the current price, and proposed. -/
theorem requoted_of_stale (quoted : AcceptedAtQuote P args row item before)
    (changed : mutatePriceDemoOnly P price before = .ok w.db) (sku : price.sku = args.quote.sku)
    (mandates : middle.db.mandates = w.db.mandates)
    (catalog : (middle.db.quotes, middle.db.items, middle.db.catalogVersion)
      = (w.db.quotes, w.db.items, w.db.catalogVersion))
    (ended : Concludes (executeClient P) (Calm args.mandate w.db) (do
      let fresh ← issue (.application (.createQuote (quoteArgs args)))
      let second ← propose P args fresh args.secondOrderId
      return outcomeOf true fresh second : ClientProg RequoteOutcome) middle result w') :
    (FitsBigint (price.newUnitPriceMinor * args.quote.nights) →
        ∃ fresh middle answer,
          Requoted P args row (repriced item price) w w' result fresh middle answer) ∧
      (¬ FitsBigint (price.newUnitPriceMinor * args.quote.nights) →
        result = .error .dbapiError ∧ w'.db.quotes = w.db.quotes) := by
  obtain ⟨quotes, items, version⟩ := by simpa only [Prod.mk.injEq] using catalog
  obtain ⟨-, catalogued⟩ := Catalog.mutatePriceDemoOnly_ok changed
  obtain ⟨positive, -, moved⟩ := Catalog.mutatePriceDemoOnly_price changed
  obtain ⟨-, named, -⟩ := quoted.quotable
  obtain ⟨decisionId, now, accepted⟩ := quoted.allowed
  have specHash : row.mandate.specHash = some (args.mandate.specHash.getD "") := accepted.specHash
  have stored : middle.db.getMandate args.mandate.mandateId = some row := by
    rw [Database.getMandate, mandates, catalogued.mandates]
    exact quoted.stored
  have found : middle.db.items.get? CatalogItemRecord.sku args.quote.sku
      = some (repriced item price) := by
    rw [items, ← sku]
    exact moved item (sku ▸ quoted.found)
  have takes : ∀ input, Calm args.mandate w.db input → _ := fun input calm =>
    createQuote_executes quoted positive stored found calm.works
      (quotes ▸ calm.newQuote)
  rcases concludes_bind_cases ended with ⟨failure, raised, rfl⟩ | ⟨fresh, last, taken, rest⟩
  · obtain ⟨input, calm, failed, rfl⟩ := concludes_perform.mp raised
    refine ⟨fun fits => ?_, fun large => ?_⟩
    · obtain ⟨fresh, db, -, -, executed⟩ := (takes input calm).1 fits
      rw [executed] at failed
      cases failed
    · have executed := (takes input calm).2 large
      rw [executed] at failed ⊢
      cases failed
      exact ⟨rfl, quotes⟩
  · obtain ⟨input, calm, answered, rfl⟩ := concludes_perform.mp taken
    refine ⟨fun fits => ?_, fun large => ?_⟩
    · obtain ⟨fresh', db, drafted, made, executed⟩ := (takes input calm).1 fits
      rw [executed] at answered rest
      cases answered
      obtain ⟨items', version'⟩ := Catalog.createQuote_catalog made
      obtain ⟨unseen, members, catalogued'⟩ := Catalog.createQuote_ok made
      have stored' : db.getMandate args.mandate.mandateId = some row := by
        rw [Database.getMandate, catalogued'.mandates]
        exact stored
      have found' : db.items.get? CatalogItemRecord.sku args.quote.sku
          = some (repriced item price) := items' ▸ found
      have sku' : fresh.sku = args.quote.sku := by
        rw [drafted]
        exact named
      obtain ⟨answer, proposed, returned⟩ : ∃ answer, Concludes (executeClient P)
          (Calm args.mandate w.db) (propose P args fresh args.secondOrderId)
            { middle with db } answer w' ∧ result = answer.map (outcomeOf true fresh) := by
        rcases concludes_bind_cases rest with ⟨failure, raised, rfl⟩ | ⟨answer, last, proposed, rest⟩
        · exact ⟨.error failure, raised, rfl⟩
        · obtain ⟨rfl, rfl⟩ := concludes_pure.mp rest
          exact ⟨.ok answer, proposed, rfl⟩
      have kept := propose_catalog (fun input calm => calm.works)
        (show db.items.get? CatalogItemRecord.sku fresh.sku = _ from sku' ▸ found') proposed
      refine ⟨fresh, { middle with db }, answer, ⟨⟨_, _, version ▸ drafted⟩, quotes ▸ unseen, ?_,
        version'.trans version, fun now unexpired => derived_of_fresh quoted stored' found' drafted
          ((members fresh).mpr (.inr rfl)) unexpired, proposed, returned⟩⟩
      intro quote
      rw [kept, ← quotes]
      exact members quote
    · have executed := (takes input calm).2 large
      rw [executed] at answered
      cases answered

/-- A stale answer is the merchant's. -/
theorem reject_of_stale {traceId : String} {answer : Except Failure HandlerResult}
    {first : MoneyActionResult × Option String}
    (same : Except.ok first = answer.map (received traceId)) (stale : Stale first) :
    answer = .ok (.reject .stalePrice) := by
  cases answer with
  | error failure => cases same
  | ok answer =>
      rw [Except.ok.inj same] at stale
      rw [received_stale.mp stale]

/-- Where nothing has changed no quote is taken. -/
theorem takesNone_of_unchanged (quoted : AcceptedAtQuote P args row item w.db)
    (ended : Concludes (executeClient P) (Calm args.mandate w.db)
      (proposeWithOneRequoteOnStalePrice P args) w result w') :
    TakesNone P args w w' result := by
  obtain ⟨first, middle, proposed, outcome⟩ := requote_cases ended
  have works : ∀ input, Calm args.mandate w.db input → input.dbError = false :=
    fun input calm => calm.works
  have kept := propose_catalog works quoted.found proposed
  rcases outcome with ⟨-, rfl, rfl⟩ | ⟨answer, rfl, stale, -⟩
  · exact ⟨first, proposed, rfl, kept⟩
  · obtain ⟨merchant, called, same⟩ := propose_concludes works quoted.found proposed
    obtain ⟨decisionId, now, accepted⟩ := quoted.allowed
    have within := accepted.within
    refine absurd (reject_of_stale same stale) (answer_of_allowed accepted.toDerived
      (fun input calm => ?_) (called.mono fun input calm => quoted.mandate ▸ calm.undisturbed))
    exact Policy.evaluate_allow_iff_withinBounds.mpr
      { within with started := (calm.valid 0 1).1, unexpired := (calm.valid 0 1).2 }

/-- The quote that would have been accepted is proposed by a client that re-quotes, with
the mandate in force and the database working. Where nothing has changed no quote is
taken. Where the price has been changed once, by no more than the mandate lets it drift,
exactly one fresh quote is taken and its proposal is the result, unless the new total does
not fit its column; by more than that none is taken, and the result is `PRICE_DRIFT`. -/
theorem requotes_once (P : Platform) (args : RequoteArgs) (row : MandateRow)
    (item : CatalogItemRecord) (before : Database) (quoted : AcceptedAtQuote P args row item before)
    (w w' : World) (result : Except Failure RequoteOutcome)
    (ended : Concludes (executeClient P) (Calm args.mandate w.db)
      (proposeWithOneRequoteOnStalePrice P args) w result w') :
    (w.db = before → TakesNone P args w w' result) ∧
      ∀ price : PriceArgs, price.sku = args.quote.sku →
        mutatePriceDemoOnly P price before = .ok w.db →
        (deltaBps (intentDraft args.mandate args.quote (repriced item price))
            ≤ args.mandate.bounds.maxPriceDeltaBps →
          (FitsBigint (price.newUnitPriceMinor * args.quote.nights) → ∃ fresh middle answer,
            Requoted P args row (repriced item price) w w' result fresh middle answer) ∧
          (¬ FitsBigint (price.newUnitPriceMinor * args.quote.nights) →
            result = .error .dbapiError ∧ w'.db.quotes = w.db.quotes)) ∧
        (args.mandate.bounds.maxPriceDeltaBps
            < deltaBps (intentDraft args.mandate args.quote (repriced item price)) →
          result = .ok (outcomeOf false args.quote (deny .priceDrift args.traceId, none)) ∧
            w'.db.quotes = w.db.quotes) := by
  refine ⟨fun unchanged => takesNone_of_unchanged (unchanged ▸ quoted) ended,
    fun price sku changed => ?_⟩
  obtain ⟨first, middle, proposed, outcome⟩ := requote_cases ended
  obtain ⟨-, -, moved⟩ := Catalog.mutatePriceDemoOnly_price changed
  have found : w.db.items.get? CatalogItemRecord.sku args.quote.sku = some (repriced item price) := by
    rw [← sku]
    exact moved item (sku ▸ quoted.found)
  obtain ⟨answer, called, rfl⟩ := propose_concludes (fun input calm => calm.works) found proposed
  obtain ⟨rfl, mandates, catalog⟩ := answer_of_changed quoted changed sku
    (called.mono fun input calm => calm.undisturbed)
  refine ⟨fun near => ?_, fun far => ?_⟩
  · rw [if_pos near] at outcome
    rcases outcome with ⟨fresh, -, -⟩ | ⟨-, -, -, rest⟩
    · exact absurd (received_stale.mpr rfl) (fresh _ rfl)
    · exact requoted_of_stale quoted changed sku mandates catalog rest
  · rw [if_neg (Int.not_le.mpr far)] at outcome
    rcases outcome with ⟨-, rfl, rfl⟩ | ⟨answer, same, stale, -⟩
    · simp only [Prod.mk.injEq] at catalog
      exact ⟨rfl, catalog.1⟩
    · cases same
      cases received_stale.mp stale

end Run

namespace Fixture

open Actl.Fixture (platform mandate row seaView database start input world)

/-- The quote of the first item. -/
def request : QuoteArgs where
  mandateId := "mdt_1"
  sku := "HTL-GOA-SEA-DLX"
  nights := 3
  actorId := "agt_test"
  traceId := "trc_0"

def quote : QuoteRecord := draftQuote platform request seaView 1 "qte_3" start

def args : RequoteArgs where
  mandate := mandate
  quote := quote
  actorId := "agt_test"
  traceId := "trc_1"
  firstOrderId := "ord_1"
  quoteTraceId := "trc_2"
  secondOrderId := "ord_2"

/-- The store a transaction leaves. -/
def storeOf {α : Type} : Except Failure (α × Database) → Database
  | .ok (_, db) => db
  | .error _ => database

theorem eq_ok_storeOf {α : Type} {done : Except Failure (α × Database)} {value : α}
    (answered : done.map Prod.fst = .ok value) : done = .ok (value, storeOf done) := by
  cases done with
  | error failure => cases answered
  | ok pair =>
      cases answered
      rfl

def before : Database := storeOf (createQuote platform request "qte_3" start database)

def priceOf (newUnitPriceMinor : Int) : PriceArgs where
  sku := "HTL-GOA-SEA-DLX"
  newUnitPriceMinor := newUnitPriceMinor
  actorId := "admin"
  traceId := "trc_3"

/-- Changing the price with the shape of the other transactions. -/
def mutation (newUnitPriceMinor : Int) : Except Failure (Unit × Database) :=
  (mutatePriceDemoOnly platform (priceOf newUnitPriceMinor) before).map fun db => ((), db)

def changed (newUnitPriceMinor : Int) : World := world (storeOf (mutation newUnitPriceMinor))

/-- Nothing goes wrong, and the second proposal draws another decision id. -/
def inputs (i : Nat) : Input := { input with ids := fun _ => if i < 4 then "id_1" else "id_2" }

/-- The client by itself, after the price has changed. -/
def run (newUnitPriceMinor : Int) : Except Failure RequoteOutcome × World :=
  (proposeWithOneRequoteOnStalePrice platform args).alone (executeClient platform) inputs
    (changed newUnitPriceMinor)

/-- The proposal of the quote at its own price. -/
def firstProposal : Except Failure (Proposal × Database) :=
  proposeOrder platform (proposalArgs args quote (computeIntentHash platform
    (intentDraft mandate quote seaView))) "dec_1" (fun _ => start) before

def isAllowed : Except Failure (Proposal × Database) → Bool
  | .ok (.allowed _, _) => true
  | _ => false

theorem exists_of_isAllowed {done : Except Failure (Proposal × Database)}
    (allowed : isAllowed done = true) : ∃ req after, done = .ok (.allowed req, after) := by
  unfold isAllowed at allowed
  split at allowed
  · exact ⟨_, _, rfl⟩
  · cases allowed

theorem issued : createQuote platform request "qte_3" start database = .ok (quote, before) :=
  eq_ok_storeOf (by decide +kernel)

theorem quoted : AcceptedAtQuote platform args row seaView before := by
  obtain ⟨items, -⟩ := Catalog.createQuote_catalog issued
  obtain ⟨-, -, catalogued⟩ := Catalog.createQuote_ok issued
  have allowed : isAllowed firstProposal = true := by decide +kernel
  refine ⟨⟨request, "qte_3", start, database, issued⟩, ?_, rfl, ?_,
    "dec_1", fun _ => start, exists_of_isAllowed allowed⟩
  · rw [Database.getMandate, catalogued.mandates]
    rfl
  · rw [items]
    rfl

theorem mutates {newUnitPriceMinor : Int}
    (answered : (mutation newUnitPriceMinor).map Prod.fst = .ok ()) :
    mutatePriceDemoOnly platform (priceOf newUnitPriceMinor) before
      = .ok (changed newUnitPriceMinor).db := by
  simp only [changed, world, mutation] at answered ⊢
  cases done : mutatePriceDemoOnly platform (priceOf newUnitPriceMinor) before with
  | error failure =>
      rw [done] at answered
      cases answered
  | ok db => rfl

theorem calm {newUnitPriceMinor : Int}
    (answered : (mutation newUnitPriceMinor).map Prod.fst = .ok ()) (i : Nat) :
    Calm mandate (changed newUnitPriceMinor).db (inputs i) := by
  obtain ⟨quotes, catalogued⟩ := Catalog.mutatePriceDemoOnly_ok (mutates answered)
  obtain ⟨-, members, earlier⟩ := Catalog.createQuote_ok issued
  have drawn : (inputs i).ids 0 = "id_1" ∨ (inputs i).ids 0 = "id_2" := by
    simp only [inputs]
    split
    · exact .inl rfl
    · exact .inr rfl
  refine ⟨⟨rfl, ?_, ?_⟩, fun _ _ =>
    (⟨by decide, by decide⟩ : Policy.InWindow mandate start)⟩
  · rw [catalogued.decisions, earlier.decisions]
    exact fun decision stored => absurd stored (Foundation.Table.not_mem_empty decision)
  · rw [quotes]
    intro made stored
    have named : made.id ∈ ["qte_1", "qte_2", "qte_3"] := by
      rcases (members made).mp stored with old | rfl
      · have listed : made.id ∈ database.quotes.rows.map QuoteRecord.id :=
          List.mem_map_of_mem (Foundation.Table.mem_def.mp old)
        exact List.mem_append_left ["qte_3"] listed
      · decide
    rcases drawn with first | second
    · rw [first]
      rintro same
      rw [same] at named
      exact absurd named (by decide)
    · rw [second]
      rintro same
      rw [same] at named
      exact absurd named (by decide)

theorem concludes {newUnitPriceMinor : Int}
    (answered : (mutation newUnitPriceMinor).map Prod.fst = .ok ()) :
    Concludes (executeClient platform) (Calm mandate (changed newUnitPriceMinor).db)
      (proposeWithOneRequoteOnStalePrice platform args) (changed newUnitPriceMinor)
        (run newUnitPriceMinor).1 (run newUnitPriceMinor).2 :=
  concludes_alone _ (calm answered) _

/-- The price rises by less than a basis point: the proposal is recovered by one quote at
the new price, and accepted. -/
theorem small_rise_requoted :
    (run 140001).1.map (fun outcome => (outcome.requoted, outcome.result.reasonCode,
        outcome.finalQuote.totalMinor)) = .ok (true, .ok, 420003) ∧
      ∃ fresh middle answer, Requoted platform args row (repriced seaView (priceOf 140001))
        (changed 140001) (run 140001).2 (run 140001).1 fresh middle answer := by
  have answered : (mutation 140001).map Prod.fst = .ok () := by decide +kernel
  refine ⟨by decide +kernel, ?_⟩
  exact (((requotes_once platform args row seaView before quoted (changed 140001) (run 140001).2
    (run 140001).1 (concludes answered)).2 (priceOf 140001) rfl (mutates answered)).1
      (by decide)).1 (by decide)

/-- The price rises from 140000 to 150000 where none is to drift. The quote would have
been accepted, and the client takes no other: the result is `PRICE_DRIFT`. -/
theorem rise_not_requoted :
    AcceptedAtQuote platform args row seaView before ∧
      mutatePriceDemoOnly platform (priceOf 150000) before = .ok (changed 150000).db ∧
      Concludes (executeClient platform) (Calm mandate (changed 150000).db)
        (proposeWithOneRequoteOnStalePrice platform args) (changed 150000) (run 150000).1
          (run 150000).2 ∧
      (run 150000).1 = .ok (outcomeOf false quote (deny .priceDrift "trc_1", none)) ∧
      ¬ ∃ fresh middle answer, Requoted platform args row (repriced seaView (priceOf 150000))
        (changed 150000) (run 150000).2 (run 150000).1 fresh middle answer := by
  have answered : (mutation 150000).map Prod.fst = .ok () := by decide +kernel
  have denied : (run 150000).1 = .ok (outcomeOf false quote (deny .priceDrift "trc_1", none)) := by
    decide +kernel
  refine ⟨quoted, mutates answered, concludes answered, denied, ?_⟩
  rintro ⟨fresh, middle, answer, requoted⟩
  have returned := requoted.returned
  rw [denied] at returned
  cases answer with
  | error failure => cases returned
  | ok answer => exact Bool.false_ne_true (congrArg RequoteOutcome.requoted (Except.ok.inj returned))

end Fixture

end Actl.Recovery
