import Actl.Foundation.Sequential
import Actl.Upsell.Programs

/-!
# Listing and pricing an offer

`list_eligible_offers` and `price_offer_for_purchase` decide alike whether an add-on can
be had for a base order, but over different rows: the listing over the first 50 items of
the hotel's place by price, the pricing over the one item it is asked for. So they agree
on an add-on exactly if it is at the hotel's place and among these 50, and the listing is
not stopped by a total that its column does not hold (`upsell_agree_iff`).

Both are run alone on a store without open transactions, by a database that works. What
they answer is worked out once, from the answers of their statements (`Answers`): the
pricing always answers (`priced_eq`), the listing unless a total is too large to be stored
(`listed_cases`).
-/

set_option autoImplicit false

namespace Actl.Upsell

open Agents (CatalogItemRow)
open Catalog (FitsBigint rowKey)
open Foundation (Code)
open Foundation.Code (yields_pure yields_bind concludes_perform concludes_bind_cases
  concludes_pure concludes_throw concludes_outcome)
open Foundation.Program (Concludes concludes_alone)
open Foundation.Keyset (mem_take_above_iff)

/-! ## What there is -/

namespace Shop

variable (shop : Shop)

/-- `get_item`, on what is committed. -/
def item? (sku : String) : Option CatalogItemRow :=
  (shop.world.db.items.get? CatalogItemRecord.sku sku).map shop.itemRow

/-- What `_load_base_context` finds. -/
def baseContext (baseOrderId : String) : Option BaseOrderContext :=
  match shop.world.db.getOrder baseOrderId with
  | none => none
  | some order =>
      if order.status ≠ .captured then none
      else
        match shop.world.db.quotes.get? QuoteRecord.id order.quoteId with
        | none => none
        | some quote =>
            match shop.item? quote.sku with
            | none => none
            | some item =>
                if item.category ≠ hotelCategory then none
                else
                  match shop.world.db.getMandate order.mandateId with
                  | none => none
                  | some row => some
                      { mandateId := row.mandate.mandateId
                        nights := row.mandate.intent.nights
                        rooms := row.mandate.intent.rooms
                        locationCity := item.locationCity
                        locationCountry := item.locationCountry }

/-- The offer for an add-on was declined or taken up. -/
def actedOn (baseOrderId sku : String) : Bool :=
  (shop.addons.get? (baseOrderId, sku)).any fun row => row.status ≠ .offered

/-- The offers that the listing makes of add-ons. -/
def offersOf (baseOrderId : String) (ctx : BaseOrderContext) :
    List CatalogItemRow → List EligibleOffer
  | [] => []
  | addon :: addons =>
      if addon.availableUnits ≤ 0 then offersOf baseOrderId ctx addons
      else if shop.actedOn baseOrderId addon.sku then offersOf baseOrderId ctx addons
      else (toOffer addon ctx.nights ctx.rooms).toList ++ offersOf baseOrderId ctx addons

/-- The offers that are listed for a base order. -/
def offers (baseOrderId : String) (ctx : BaseOrderContext) : List EligibleOffer :=
  shop.offersOf baseOrderId ctx
    ((shop.listItems ctx.locationCity ctx.locationCountry 50).filter isAddon)

/-- The offer that a purchase is priced at. -/
def pricedOffer (baseOrderId offerSku : String) : Option EligibleOffer :=
  match shop.baseContext baseOrderId with
  | none => none
  | some ctx =>
      match shop.item? offerSku with
      | none => none
      | some addon =>
          if ¬ isAddon addon then none
          else if addon.availableUnits ≤ 0 then none
          else toOffer addon ctx.nights ctx.rooms

/-- No transaction is open. -/
def Quiet : Prop := ∀ m, shop.transaction? m = none

end Shop

/-! ## A transaction that is alone -/

/-- The database works. -/
def Works (input : ShopInput) : Prop := input.dbError = false

/-- In the store the transaction is the only one that is open. -/
structure Sole (shop : Shop) (n : Nat) (t : Transaction) (s : Shop) : Prop where
  rest : ∃ transactions, s = { shop with transactions }
  own : s.transaction? n = some t
  others : ∀ m ≠ n, s.transaction? m = none

/-- The transaction has written nothing, and has kept catalog rows as they are. -/
structure Clean (shop : Shop) (t : Transaction) : Prop where
  mandates : t.mandates = []
  quotes : t.quotes = []
  addons : t.addons = []
  items : ∀ row ∈ t.items, shop.item? row.sku = some row

/-- A transaction that only reads. -/
def Reading (shop : Shop) (n : Nat) (s : Shop) : Prop := ∃ t, Sole shop n t s ∧ Clean shop t

/-- A transaction that has added no mandate and no quote. -/
def Writing (shop : Shop) (n : Nat) (s : Shop) : Prop :=
  ∃ t, Sole shop n t s ∧ t.mandates = [] ∧ t.quotes = []

theorem Reading.writing {shop : Shop} {n : Nat} {s : Shop} (reading : Reading shop n s) :
    Writing shop n s := by
  obtain ⟨t, sole, clean⟩ := reading
  exact ⟨t, sole, clean.mandates, clean.quotes⟩

section Statements

variable {P : Platform} {shop s s' : Shop} {n : Nat} {t t' : Transaction}

theorem transaction?_replace (own : s.transaction? n = some t) (m : Nat) :
    (s.replace n t').transaction? m = if m = n then some t' else s.transaction? m := by
  rw [Shop.transaction?] at own
  have bound : n < s.transactions.length := by
    by_contra beyond
    rw [List.getElem?_eq_none (not_lt.mp beyond)] at own
    cases own
  rw [Shop.transaction?, Shop.replace]
  by_cases here : m = n
  · subst here
    rw [if_pos rfl, List.getElem?_set_self bound]
    rfl
  · rw [if_neg here, List.getElem?_set_ne (Ne.symm here)]
    rfl

theorem Sole.replace (sole : Sole shop n t s) (t' : Transaction) :
    Sole shop n t' (s.replace n t') := by
  obtain ⟨transactions, rfl⟩ := sole.rest
  refine ⟨⟨_, rfl⟩, (transaction?_replace sole.own n).trans (if_pos rfl), fun m other => ?_⟩
  rw [transaction?_replace sole.own, if_neg other]
  exact sole.others m other

/-- Nobody else has a lock. -/
theorem Sole.free (sole : Sole shop n t s) (locks : List Lock) : locks.all (s.free n) = true := by
  rw [List.all_eq_true]
  intro lock _
  rw [Shop.free, List.all_eq_true]
  intro m _
  by_cases own : m = n
  · simp [own]
  · rw [sole.others m own]
    simp

/-- What a statement does is what it does to the transaction. -/
theorem Sole.send (sole : Sole shop n t s) {statement : Statement}
    {result : Except Failure statement.Value}
    (ended : Concludes (Shop.execute P) Works (Upsell.send n statement) s result s') :
    ∃ kept, (∃ value t', statement.perform shop kept t = .ok (value, t') ∧ result = .ok value ∧
        ∃ locks, Sole shop n { t' with locks } s') ∨
      ∃ failure, statement.perform shop kept t = .error failure ∧ result = .error failure ∧
        s' = s := by
  obtain ⟨input, works, rfl, rfl⟩ := concludes_perform.mp ended
  refine ⟨input.kept, ?_⟩
  have same : statement.perform s input.kept t = statement.perform shop input.kept t := by
    obtain ⟨transactions, rfl⟩ := sole.rest
    cases statement <;> rfl
  have pass : ¬ (input.dbError = true ∨ ¬ (statement.locks s t).all (s.free n) = true) := by
    rw [works, sole.free]
    simp
  rw [Shop.execute, Shop.send, sole.own]
  dsimp only
  rw [if_neg pass, same]
  cases statement.perform shop input.kept t with
  | error failure => exact .inr ⟨failure, rfl, rfl, rfl⟩
  | ok done => exact .inl ⟨done.1, done.2, rfl, rfl, _, sole.replace _⟩

/-- A statement that only reads answers with the value. -/
def Answers (shop : Shop) (statement : Statement) (value : statement.Value) : Prop :=
  ∀ (kept : Bool) (t : Transaction), Clean shop t → ∃ t',
    statement.perform shop kept t = .ok (value, t') ∧ Clean shop t'

theorem yields_send {statement : Statement} {value : statement.Value}
    (answers : Answers shop statement value) :
    Code.Yields (Shop.execute P) Works (Reading shop n) (send n statement) value := by
  rintro s result s' ⟨t, sole, clean⟩ ended
  obtain ⟨kept, ⟨value', t', performed, same, locks, sole'⟩ | ⟨failure, raised, -⟩⟩ := sole.send ended
  · obtain ⟨after, done, clean'⟩ := answers kept t clean
    rw [performed] at done
    cases done
    exact ⟨same, _, sole', clean'.mandates, clean'.quotes, clean'.addons, clean'.items⟩
  · obtain ⟨after, done, -⟩ := answers kept t clean
    cases raised.symm.trans done

theorem answers_getOrder (orderId : String) :
    Answers shop (.getOrder orderId) (shop.world.db.getOrder orderId) :=
  fun _ t clean => ⟨t, rfl, clean⟩

theorem answers_getQuote (quoteId : String) :
    Answers shop (.getQuote quoteId) (shop.world.db.quotes.get? QuoteRecord.id quoteId) := by
  intro kept t clean
  refine ⟨t, ?_, clean⟩
  rw [Statement.perform, clean.quotes]
  rfl

theorem answers_getMandate (mandateId : String) :
    Answers shop (.getMandate mandateId) (shop.world.db.getMandate mandateId) := by
  intro kept t clean
  refine ⟨t, ?_, clean⟩
  rw [Statement.perform, clean.mandates]
  rfl

theorem answers_getItem (sku : String) : Answers shop (.getItem sku) (shop.item? sku) := by
  intro kept t clean
  rw [Statement.perform, Transaction.loadItem]
  split
  next row found =>
    have named : row.sku = sku := by
      have same := List.find?_some found
      simp only [decide_eq_true_eq] at same
      exact same.2
    have stored := clean.items row (List.mem_of_find?_eq_some found)
    rw [named] at stored
    exact ⟨t, by rw [stored], clean⟩
  next =>
    rw [Shop.item?]
    cases found : shop.world.db.items.get? CatalogItemRecord.sku sku with
    | none => exact ⟨t, rfl, clean⟩
    | some item =>
        refine ⟨_, rfl, clean.mandates, clean.quotes, clean.addons, ?_⟩
        intro row member
        rcases List.mem_cons.mp member with rfl | earlier
        · have named : item.sku = sku := (Foundation.Table.get?_mem found).2
          show shop.item? item.sku = _
          rw [named, Shop.item?, found]
          rfl
        · exact clean.items row earlier

theorem answers_listItems (city country : String) (limit : Nat) :
    Answers shop (.listItems city country limit) (shop.listItems city country limit) :=
  fun _ t clean => ⟨t, rfl, clean⟩

theorem answers_getAddonPurchase (key : AddonKey) :
    Answers shop (.getAddonPurchase key) (shop.addons.get? key) := by
  intro kept t clean
  refine ⟨t, ?_, clean⟩
  rw [Statement.perform, Shop.addonRow?, clean.addons]
  rfl

end Statements

/-! ## What the programs answer -/

section Programs

variable {P : Platform} {shop s s' : Shop} {n : Nat} {baseOrderId : String}

theorem yields_loadBaseContext (baseOrderId : String) :
    Code.Yields (Shop.execute P) Works (Reading shop n) (loadBaseContext n baseOrderId)
      (shop.baseContext baseOrderId) := by
  unfold loadBaseContext Shop.baseContext
  refine yields_bind (yields_send (answers_getOrder baseOrderId)) ?_
  cases shop.world.db.getOrder baseOrderId with
  | none => exact yields_pure none
  | some order =>
      dsimp only
      split
      next => exact yields_pure none
      next =>
        refine yields_bind (yields_send (answers_getQuote order.quoteId)) ?_
        cases shop.world.db.quotes.get? QuoteRecord.id order.quoteId with
        | none => exact yields_pure none
        | some quote =>
            dsimp only
            refine yields_bind (yields_send (answers_getItem quote.sku)) ?_
            cases shop.item? quote.sku with
            | none => exact yields_pure none
            | some item =>
                dsimp only
                split
                next => exact yields_pure none
                next =>
                  refine yields_bind (yields_send (answers_getMandate order.mandateId)) ?_
                  cases shop.world.db.getMandate order.mandateId with
                  | none => exact yields_pure none
                  | some row => exact yields_pure _

theorem yields_priceOfferForPurchase (offerSku : String) :
    Code.Yields (Shop.execute P) Works (Reading shop n)
      (priceOfferForPurchase n baseOrderId offerSku) (shop.pricedOffer baseOrderId offerSku) := by
  unfold priceOfferForPurchase Shop.pricedOffer
  refine yields_bind (yields_loadBaseContext baseOrderId) ?_
  cases shop.baseContext baseOrderId with
  | none => exact yields_pure none
  | some ctx =>
      dsimp only
      refine yields_bind (yields_send (answers_getItem offerSku)) ?_
      cases shop.item? offerSku with
      | none => exact yields_pure none
      | some addon =>
          dsimp only
          split
          next => exact yields_pure none
          next =>
            split
            next => exact yields_pure none
            next => exact yields_pure _

theorem yields_eligibleOffers (ctx : BaseOrderContext) (addons : List CatalogItemRow) :
    Code.Yields (Shop.execute P) Works (Reading shop n) (eligibleOffers n baseOrderId ctx addons)
      (shop.offersOf baseOrderId ctx addons) := by
  induction addons with
  | nil => exact yields_pure []
  | cons addon addons ih =>
      unfold eligibleOffers Shop.offersOf
      split
      next => exact ih
      next =>
        refine yields_bind (yields_send (answers_getAddonPurchase (baseOrderId, addon.sku))) ?_
        refine yields_bind ih ?_
        rw [Shop.actedOn]
        split
        next => exact yields_pure _
        next => exact yields_pure _

theorem writeAddon_mandates (t : Transaction) (row : Option AddonPurchaseRecord) :
    (t.writeAddon row).mandates = t.mandates := by
  cases row with
  | none => rfl
  | some row => rfl

theorem writeAddon_quotes (t : Transaction) (row : Option AddonPurchaseRecord) :
    (t.writeAddon row).quotes = t.quotes := by
  cases row with
  | none => rfl
  | some row => rfl

/-- What is shown is recorded, unless a total is too large for its column. -/
theorem recordOffers_concludes (ids : Nat → String) {offers : List EligibleOffer}
    {result : Except Failure Unit} (writing : Writing shop n s)
    (ended : Concludes (Shop.execute P) Works (recordOffers n baseOrderId ids offers) s result s') :
    (result = .ok () ∧ (∀ offer ∈ offers, FitsBigint offer.totalMinor) ∧ Writing shop n s') ∨
      ∃ failure, result = .error failure ∧ ¬ ∀ offer ∈ offers, FitsBigint offer.totalMinor := by
  induction offers generalizing s with
  | nil =>
      obtain ⟨rfl, rfl⟩ := concludes_pure.mp ended
      exact .inl ⟨rfl, nofun, writing⟩
  | cons offer offers ih =>
      obtain ⟨t, sole, mandates, quotes⟩ := writing
      rw [List.forall_mem_cons]
      unfold recordOffers at ended
      rcases concludes_bind_cases ended with ⟨failure, raised, rfl⟩ | ⟨value, middle, sent, rest⟩
      · obtain ⟨kept, ⟨value, t', -, clash, -⟩ | ⟨failure', refused, -, -⟩⟩ := sole.send raised
        · cases clash
        · refine .inr ⟨failure, rfl, fun fits => ?_⟩
          rw [Statement.perform, if_pos fits.1] at refused
          cases refused
      · obtain ⟨kept, ⟨value', t', done, -, locks, sole'⟩ | ⟨failure, -, clash, -⟩⟩ := sole.send sent
        · rw [Statement.perform] at done
          split at done
          next fits =>
            cases done
            have after : Writing shop n middle :=
              ⟨_, sole', (writeAddon_mandates t _).trans mandates,
                (writeAddon_quotes t _).trans quotes⟩
            rcases ih after rest with ⟨rfl, others, writing'⟩ | ⟨failure, rfl, large⟩
            · exact .inl ⟨rfl, ⟨fits, others⟩, writing'⟩
            · exact .inr ⟨failure, rfl, fun all => large all.2⟩
          next => cases done
        · cases clash

/-- Nothing but a working database is needed to commit what was recorded. -/
theorem commit_concludes {result : Except Failure Unit} (writing : Writing shop n s)
    (ended : Concludes (Shop.execute P) Works (issue (.commit n)) s result s') :
    result = .ok () := by
  obtain ⟨input, works, rfl, -⟩ := concludes_perform.mp ended
  obtain ⟨t, sole, mandates, quotes⟩ := writing
  have db : ∃ db, t.publish P s.world.db = some db := by
    rw [Transaction.publish, mandates, quotes]
    exact ⟨_, rfl⟩
  obtain ⟨db, published⟩ := db
  rw [Shop.execute, Shop.commit, sole.own]
  dsimp only
  rw [works, if_neg Bool.false_ne_true, published]
  rfl

/-- The listing answers with its offers, unless a total is too large to be recorded. -/
theorem listEligibleOffers_concludes {ids : Nat → String} {ctx : BaseOrderContext}
    (found : shop.baseContext baseOrderId = some ctx)
    {result : Except Failure (Option (List EligibleOffer))} (reading : Reading shop n s)
    (ended : Concludes (Shop.execute P) Works (listEligibleOffers n baseOrderId ids) s result s') :
    (result = .ok (some (shop.offers baseOrderId ctx)) ∧
        ∀ offer ∈ shop.offers baseOrderId ctx, FitsBigint offer.totalMinor) ∨
      ∃ failure, result = .error failure ∧
        ¬ ∀ offer ∈ shop.offers baseOrderId ctx, FitsBigint offer.totalMinor := by
  unfold listEligibleOffers at ended
  have context : Code.Yields (Shop.execute P) Works (Reading shop n)
      (loadBaseContext n baseOrderId) (shop.baseContext baseOrderId) :=
    yields_loadBaseContext baseOrderId
  rcases concludes_bind_cases ended with ⟨failure, raised, -⟩ | ⟨value, s₁, loaded, rest⟩
  · cases (context s _ _ reading raised).1
  obtain ⟨same, reading₁⟩ := context s _ _ reading loaded
  cases same
  rw [found] at rest
  dsimp only at rest
  have items : Code.Yields (Shop.execute P) Works (Reading shop n)
      (send n (.listItems ctx.locationCity ctx.locationCountry 50))
      (shop.listItems ctx.locationCity ctx.locationCountry 50) :=
    yields_send (answers_listItems _ _ _)
  rcases concludes_bind_cases rest with ⟨failure, raised, -⟩ | ⟨value, s₂, queried, rest⟩
  · cases (items s₁ _ _ reading₁ raised).1
  obtain ⟨same, reading₂⟩ := items s₁ _ _ reading₁ queried
  cases same
  have eligible : Code.Yields (Shop.execute P) Works (Reading shop n)
      (eligibleOffers n baseOrderId ctx
        ((shop.listItems ctx.locationCity ctx.locationCountry 50).filter isAddon))
      (shop.offers baseOrderId ctx) := yields_eligibleOffers ctx _
  rcases concludes_bind_cases rest with ⟨failure, raised, -⟩ | ⟨value, s₃, chosen, rest⟩
  · cases (eligible s₂ _ _ reading₂ raised).1
  obtain ⟨same, reading₃⟩ := eligible s₂ _ _ reading₂ chosen
  cases same
  change Concludes _ _ (if shop.offers baseOrderId ctx ≠ [] then _ else _) _ _ _ at rest
  split at rest
  next shown =>
    rcases concludes_bind_cases rest with ⟨failure, raised, same⟩ | ⟨value, s₄, recorded, rest⟩
    · rcases recordOffers_concludes ids reading₃.writing raised with
        ⟨clash, -, -⟩ | ⟨failure', -, large⟩
      · cases clash
      · exact .inr ⟨failure, same, large⟩
    · rcases recordOffers_concludes ids reading₃.writing recorded with
        ⟨-, fits, writing⟩ | ⟨failure, clash, -⟩
      · rcases concludes_bind_cases rest with ⟨failure, raised, -⟩ | ⟨value, s₅, -, returned⟩
        · cases commit_concludes writing raised
        · exact .inl ⟨(concludes_pure.mp returned).1, fits⟩
      · cases clash
  next nothing =>
    rw [not_not.mp nothing]
    refine .inl ⟨?_, nofun⟩
    have answer := (concludes_pure.mp rest).1
    rw [answer]
    exact congrArg (fun offers => Except.ok (some offers)) (not_not.mp nothing)

theorem listEligibleOffers_concludes_none {ids : Nat → String}
    (missing : shop.baseContext baseOrderId = none)
    {result : Except Failure (Option (List EligibleOffer))} (reading : Reading shop n s)
    (ended : Concludes (Shop.execute P) Works (listEligibleOffers n baseOrderId ids) s result s') :
    result = .ok none := by
  have answers : Code.Yields (Shop.execute P) Works (Reading shop n)
      (listEligibleOffers n baseOrderId ids) none := by
    unfold listEligibleOffers
    refine yields_bind (yields_loadBaseContext baseOrderId) ?_
    rw [missing]
    exact yields_pure none
  exact (answers s result s' reading ended).1

/-- A transaction that has the store to itself starts empty, and its end changes nothing of
what it answers. -/
theorem unitOfWork_concludes {α : Type} {body : Nat → ShopProg α} {result : Except Failure α}
    (quiet : shop.Quiet)
    (ended : Concludes (Shop.execute P) Works (unitOfWork body) shop result s') :
    ∃ s s', Reading shop shop.transactions.length s ∧
      Concludes (Shop.execute P) Works (body shop.transactions.length) s result s' := by
  unfold unitOfWork at ended
  rcases concludes_bind_cases ended with ⟨failure, raised, -⟩ | ⟨n, s, started, rest⟩
  · obtain ⟨input, -, clash, -⟩ := concludes_perform.mp raised
    cases clash
  obtain ⟨input, -, number, state⟩ := concludes_perform.mp started
  cases number
  rcases concludes_bind_cases rest with ⟨failure, raised, -⟩ | ⟨outcome, s'', done, rest⟩
  · obtain ⟨outcome, clash, -⟩ := concludes_outcome.mp raised
    cases clash
  obtain ⟨same, is, concluded⟩ := concludes_outcome.mp done
  cases is
  have own : result = outcome := by
    rcases concludes_bind_cases rest with ⟨failure, raised, -⟩ | ⟨value, s₃, -, rest⟩
    · obtain ⟨input, -, clash, -⟩ := concludes_perform.mp raised
      cases clash
    · cases outcome with
      | ok value => exact (concludes_pure.mp rest).1
      | error failure => exact (concludes_throw.mp rest).1
  rw [own]
  refine ⟨s, s'', ?_, concluded⟩
  rw [state]
  refine ⟨.fresh, ⟨⟨_, rfl⟩, ?_, fun m other => ?_⟩, rfl, rfl, rfl, nofun⟩
  · rw [Shop.transaction?]
    dsimp only [Shop.execute]
    rw [List.getElem?_concat_length]
    rfl
  · have silent := quiet m
    rw [Shop.transaction?] at silent ⊢
    dsimp only [Shop.execute]
    rcases Nat.lt_or_gt_of_ne other with before | after
    · rw [List.getElem?_append_left before]
      exact silent
    · rw [List.getElem?_eq_none]
      · rfl
      · rw [List.length_append]
        exact after

end Programs

/-! ## What can be offered -/

/-- The item is an add-on in stock, with a price for the stay. -/
def Offerable (ctx : BaseOrderContext) (item : CatalogItemRow) : Prop :=
  isAddon item = true ∧ 0 < item.availableUnits ∧
    ∃ multiplier ∈ pricingMultiplier item.category ctx.nights ctx.rooms, 0 < multiplier

/-- What the item comes to for the stay can be stored. -/
def TotalFits (ctx : BaseOrderContext) (item : CatalogItemRow) : Prop :=
  ∀ multiplier ∈ pricingMultiplier item.category ctx.nights ctx.rooms,
    FitsBigint (item.unitPriceMinor * multiplier)

variable {ctx : BaseOrderContext} {item : CatalogItemRow}

theorem toOffer_isSome_iff :
    (toOffer item ctx.nights ctx.rooms).isSome = true ↔
      ∃ multiplier ∈ pricingMultiplier item.category ctx.nights ctx.rooms, 0 < multiplier := by
  unfold toOffer
  split
  next unpriced =>
    rw [unpriced]
    exact iff_of_false Bool.false_ne_true nofun
  next multiplier priced =>
    rw [priced]
    split
    next none =>
      refine iff_of_false Bool.false_ne_true ?_
      rintro ⟨_, same, positive⟩
      cases same
      exact Int.not_lt.mpr none positive
    next positive => exact iff_of_true rfl ⟨multiplier, rfl, Int.not_le.mp positive⟩

theorem totalMinor_toOffer {offer : EligibleOffer}
    (made : toOffer item ctx.nights ctx.rooms = some offer) :
    FitsBigint offer.totalMinor ↔ TotalFits ctx item := by
  unfold toOffer at made
  split at made
  next => cases made
  next multiplier priced =>
    split at made
    next => cases made
    next =>
      cases made
      rw [TotalFits, priced]
      simp

namespace Shop

variable {shop : Shop} {baseOrderId : String}

theorem mem_offersOf {items : List CatalogItemRow} {offer : EligibleOffer} :
    offer ∈ shop.offersOf baseOrderId ctx items ↔
      ∃ item ∈ items, 0 < item.availableUnits ∧ shop.actedOn baseOrderId item.sku = false ∧
        toOffer item ctx.nights ctx.rooms = some offer := by
  induction items with
  | nil => exact iff_of_false nofun nofun
  | cons addon addons ih =>
      rw [List.exists_mem_cons_iff]
      unfold offersOf
      split
      next empty =>
        rw [ih, or_iff_right]
        rintro ⟨stocked, -⟩
        exact Int.not_lt.mpr empty stocked
      next stocked =>
        split
        next acted =>
          rw [ih, or_iff_right]
          rintro ⟨-, open', -⟩
          exact Bool.false_ne_true (open'.symm.trans acted)
        next open' =>
          rw [List.mem_append, ih, Option.mem_toList]
          refine or_congr_left ⟨fun made => ?_, fun made => made.2.2⟩
          exact ⟨Int.not_le.mp stocked, Bool.eq_false_iff.mpr open', made⟩

/-- The listing offers the add-ons among the first 50 items of the place. -/
theorem mem_offers {offer : EligibleOffer} :
    offer ∈ shop.offers baseOrderId ctx ↔
      ∃ item ∈ shop.listItems ctx.locationCity ctx.locationCountry 50,
        isAddon item = true ∧ 0 < item.availableUnits ∧
          shop.actedOn baseOrderId item.sku = false ∧
            toOffer item ctx.nights ctx.rooms = some offer := by
  rw [offers, mem_offersOf]
  refine exists_congr fun item => ?_
  rw [List.mem_filter, and_assoc]

/-- A row of the catalog is at one sku. -/
theorem item?_eq_some_iff {sku : String} :
    shop.item? sku = some item ↔
      item ∈ shop.world.db.items.rows.map shop.itemRow ∧ item.sku = sku := by
  rw [item?, Option.map_eq_some_iff, List.mem_map]
  constructor
  · rintro ⟨record, found, rfl⟩
    obtain ⟨member, named⟩ := Foundation.Table.get?_mem found
    exact ⟨⟨record, member, rfl⟩, named⟩
  · rintro ⟨⟨record, member, rfl⟩, named⟩
    exact ⟨record, (Foundation.Table.get?_eq_some_iff List.mem_cons_self).mpr ⟨member, named⟩, rfl⟩

/-- The items at a place before the given one, by price and sku. -/
def before (shop : Shop) (item : CatalogItemRow) (city country : String) : List CatalogItemRow :=
  (shop.located city country).filter fun other =>
    rowKey shop.collation other < rowKey shop.collation item

/-- The item is at the place of the hotel, and among the first 50 there. -/
structure Leads (shop : Shop) (ctx : BaseOrderContext) (item : CatalogItemRow) : Prop where
  city : item.locationCity = ctx.locationCity
  country : item.locationCountry = ctx.locationCountry
  first : (shop.before item ctx.locationCity ctx.locationCountry).length < 50

theorem mem_listItems_iff :
    item ∈ shop.listItems ctx.locationCity ctx.locationCountry 50 ↔
      shop.item? item.sku = some item ∧ shop.Leads ctx item := by
  have skus : ((shop.located ctx.locationCity ctx.locationCountry).map fun row => row.sku).Nodup := by
    refine ((List.filter_sublist).map _).nodup ?_
    rw [List.map_map]
    exact shop.world.db.items.unique _ List.mem_cons_self
  rw [listItems, mem_take_above_iff (Catalog.distinct_rowKey shop.collation skus), located,
    List.mem_filter, decide_eq_true_eq, item?_eq_some_iff, and_iff_left (rfl : item.sku = item.sku),
    and_assoc]
  refine and_congr_right fun _ => ⟨fun holds => ?_, fun leads => ?_⟩
  · exact ⟨holds.1.1, holds.1.2, holds.2⟩
  · exact ⟨⟨leads.city, leads.country⟩, leads.first⟩

theorem pricedOffer_eq_some_iff {sku : String} {offer : EligibleOffer} :
    shop.pricedOffer baseOrderId sku = some offer ↔
      ∃ ctx ∈ shop.baseContext baseOrderId, ∃ item ∈ shop.item? sku,
        isAddon item = true ∧ 0 < item.availableUnits ∧
          toOffer item ctx.nights ctx.rooms = some offer := by
  unfold pricedOffer
  cases shop.baseContext baseOrderId with
  | none => exact iff_of_false nofun (by simp)
  | some ctx =>
      cases shop.item? sku with
      | none => exact iff_of_false nofun (by simp)
      | some item =>
          simp only [Option.mem_def, Option.some.injEq, exists_eq_left']
          split
          next other => simp [other]
          next addon =>
            rw [not_not] at addon
            split
            next empty => simp [not_lt.mpr empty]
            next stocked => simp [addon, not_le.mp stocked]

end Shop

/-! ## The two calls -/

section Calls

variable (P : Platform) (shop : Shop) (baseOrderId sku : String)

/-- The store with no transaction open. -/
def Shop.committed : Shop := { shop with transactions := [] }

/-- What `list_eligible_offers` answers, alone on the store. -/
def listed (ids : Nat → String) (inputs : Nat → ShopInput) :
    Except Failure (Option (List EligibleOffer)) :=
  ((unitOfWork fun n => listEligibleOffers n baseOrderId ids).alone (Shop.execute P) inputs
    shop.committed).1

/-- What `price_offer_for_purchase` answers, alone on the store. -/
def priced (inputs : Nat → ShopInput) : Except Failure (Option EligibleOffer) :=
  ((unitOfWork fun n => priceOfferForPurchase n baseOrderId sku).alone (Shop.execute P) inputs
    shop.committed).1

/-- The pricing accepts the sku at a quantity and a total exactly if the listing has it with
them. -/
def Agree : Prop :=
  ∀ (ids : Nat → String) (inputs inputs' : Nat → ShopInput), (∀ i, Works (inputs i)) →
    (∀ i, Works (inputs' i)) → ∀ quantity totalMinor : Int,
      (∃ offer, priced P shop baseOrderId sku inputs = .ok (some offer) ∧
          offer.quantity = quantity ∧ offer.totalMinor = totalMinor) ↔
        ∃ offers, listed P shop baseOrderId ids inputs' = .ok (some offers) ∧
          ∃ offer ∈ offers, offer.sku = sku ∧ offer.quantity = quantity ∧
            offer.totalMinor = totalMinor

/-- An add-on that can be offered is at the place of the hotel and among its first 50 items,
and what is shown with it can be stored. -/
def InReach : Prop :=
  ∀ ctx ∈ shop.baseContext baseOrderId, ∀ item ∈ shop.item? sku, Offerable ctx item →
    shop.Leads ctx item ∧
      ∀ other, shop.item? other.sku = some other → shop.Leads ctx other → Offerable ctx other →
        shop.actedOn baseOrderId other.sku = false → TotalFits ctx other

variable {P shop baseOrderId sku}

theorem quiet_committed : shop.committed.Quiet := fun _ => rfl

theorem offersOf_committed (ctx : BaseOrderContext) (items : List CatalogItemRow) :
    shop.committed.offersOf baseOrderId ctx items = shop.offersOf baseOrderId ctx items := by
  induction items with
  | nil => rfl
  | cons addon addons ih =>
      unfold Shop.offersOf
      rw [ih]
      rfl

theorem priced_eq {inputs : Nat → ShopInput} (works : ∀ i, Works (inputs i)) :
    priced P shop baseOrderId sku inputs = .ok (shop.pricedOffer baseOrderId sku) := by
  obtain ⟨s, s', reading, ended⟩ := unitOfWork_concludes quiet_committed
    (concludes_alone (unitOfWork fun n => priceOfferForPurchase n baseOrderId sku) works
      shop.committed)
  exact (yields_priceOfferForPurchase sku s _ s' reading ended).1

theorem listed_none {ids : Nat → String} {inputs : Nat → ShopInput}
    (works : ∀ i, Works (inputs i)) (missing : shop.baseContext baseOrderId = none) :
    listed P shop baseOrderId ids inputs = .ok none := by
  obtain ⟨s, s', reading, ended⟩ := unitOfWork_concludes quiet_committed
    (concludes_alone (unitOfWork fun n => listEligibleOffers n baseOrderId ids) works
      shop.committed)
  have missing' : shop.committed.baseContext baseOrderId = none := missing
  exact listEligibleOffers_concludes_none missing' reading ended

theorem listed_cases (ids : Nat → String) {inputs : Nat → ShopInput}
    (works : ∀ i, Works (inputs i)) {ctx : BaseOrderContext}
    (found : shop.baseContext baseOrderId = some ctx) :
    (listed P shop baseOrderId ids inputs = .ok (some (shop.offers baseOrderId ctx)) ∧
        ∀ offer ∈ shop.offers baseOrderId ctx, FitsBigint offer.totalMinor) ∨
      ∃ failure, listed P shop baseOrderId ids inputs = .error failure ∧
        ¬ ∀ offer ∈ shop.offers baseOrderId ctx, FitsBigint offer.totalMinor := by
  obtain ⟨s, s', reading, ended⟩ := unitOfWork_concludes quiet_committed
    (concludes_alone (unitOfWork fun n => listEligibleOffers n baseOrderId ids) works
      shop.committed)
  have same : shop.committed.offers baseOrderId ctx = shop.offers baseOrderId ctx :=
    offersOf_committed ctx _
  have found' : shop.committed.baseContext baseOrderId = some ctx := found
  have ends := listEligibleOffers_concludes found' reading ended
  rw [same] at ends
  exact ends

/-- What is shown can be stored if it can for all add-ons that are offered. -/
theorem offers_fit_iff {ctx : BaseOrderContext} :
    (∀ offer ∈ shop.offers baseOrderId ctx, FitsBigint offer.totalMinor) ↔
      ∀ other, shop.item? other.sku = some other → shop.Leads ctx other → Offerable ctx other →
        shop.actedOn baseOrderId other.sku = false → TotalFits ctx other := by
  constructor
  · rintro fits other stored leads ⟨addon, stocked, priced⟩ open'
    have listed := Shop.mem_listItems_iff.mpr ⟨stored, leads⟩
    obtain ⟨offer, made⟩ := Option.isSome_iff_exists.mp (toOffer_isSome_iff.mpr priced)
    exact (totalMinor_toOffer made).mp
      (fits offer (Shop.mem_offers.mpr ⟨other, listed, addon, stocked, open', made⟩))
  · intro fits offer member
    obtain ⟨other, listed, addon, stocked, open', made⟩ := Shop.mem_offers.mp member
    have priced := toOffer_isSome_iff.mp (Option.isSome_iff_exists.mpr ⟨offer, made⟩)
    obtain ⟨stored, leads⟩ := Shop.mem_listItems_iff.mp listed
    exact (totalMinor_toOffer made).mpr (fits other stored leads ⟨addon, stocked, priced⟩ open')

/-- A database that works, with nothing else going on. -/
def working : ShopInput where
  now _ _ := 0
  ids _ := ""
  dbError := false
  answer := .ok ()
  tookEffect := false
  providerOrderId := ""
  payments := []
  polls _ := .ok []
  kept := false

/-- Listing and pricing agree on an add-on that was not acted on exactly if it is in the
reach of the listing. -/
theorem upsell_agree_iff (shop : Shop) (baseOrderId sku : String)
    (untouched : shop.actedOn baseOrderId sku = false) :
    Agree P shop baseOrderId sku ↔ InReach shop baseOrderId sku := by
  constructor
  · rintro agree ctx found item stored ⟨addon, stocked, price⟩
    have named : item.sku = sku := (Shop.item?_eq_some_iff.mp stored).2
    obtain ⟨offer, made⟩ := Option.isSome_iff_exists.mp (toOffer_isSome_iff.mpr price)
    have accepted : shop.pricedOffer baseOrderId sku = some offer :=
      Shop.pricedOffer_eq_some_iff.mpr ⟨ctx, found, item, stored, addon, stocked, made⟩
    have works : ∀ i : Nat, Works ((fun _ => working) i) := fun _ => rfl
    obtain ⟨offers, shown, offer', member, same, -, -⟩ :=
      (agree (fun _ => "") _ _ works works offer.quantity offer.totalMinor).mp
        ⟨offer, (priced_eq works).trans (congrArg Except.ok accepted), rfl, rfl⟩
    rcases listed_cases (P := P) (fun _ => "") works found with
      ⟨answer, fits⟩ | ⟨failure, clash, -⟩
    · cases shown.symm.trans answer
      obtain ⟨item', listed, -, -, -, made'⟩ := Shop.mem_offers.mp member
      have self := Shop.mem_listItems_iff.mp listed
      rw [← (toOffer_eq_some made').1, same] at self
      cases stored.symm.trans self.1
      exact ⟨self.2, offers_fit_iff.mp fits⟩
    · cases shown.symm.trans clash
  · intro reach ids inputs inputs' works works' quantity totalMinor
    rw [priced_eq works]
    constructor
    · rintro ⟨offer, accepted, rfl, rfl⟩
      obtain ⟨ctx, found, item, stored, addon, stocked, made⟩ :=
        Shop.pricedOffer_eq_some_iff.mp (Except.ok.inj accepted)
      have price := toOffer_isSome_iff.mp (Option.isSome_iff_exists.mpr ⟨offer, made⟩)
      have named : item.sku = sku := (Shop.item?_eq_some_iff.mp stored).2
      obtain ⟨leads, fit⟩ := reach ctx found item stored ⟨addon, stocked, price⟩
      rcases listed_cases (P := P) ids works' found with ⟨answer, -⟩ | ⟨-, -, large⟩
      · refine ⟨_, answer, offer, ?_, (toOffer_eq_some made).1.trans named, rfl, rfl⟩
        subst named
        exact Shop.mem_offers.mpr ⟨item, Shop.mem_listItems_iff.mpr ⟨stored, leads⟩, addon,
          stocked, untouched, made⟩
      · exact absurd (offers_fit_iff.mpr fit) large
    · rintro ⟨offers, shown, offer, member, named, rfl, rfl⟩
      cases found : shop.baseContext baseOrderId with
      | none => cases shown.symm.trans (listed_none works' found)
      | some ctx =>
          rcases listed_cases (P := P) ids works' found with
            ⟨answer, -⟩ | ⟨failure, clash, -⟩
          · cases shown.symm.trans answer
            obtain ⟨item, listed, addon, stocked, -, made⟩ := Shop.mem_offers.mp member
            have stored := (Shop.mem_listItems_iff.mp listed).1
            rw [← (toOffer_eq_some made).1, named] at stored
            exact ⟨offer, congrArg Except.ok (Shop.pricedOffer_eq_some_iff.mpr
              ⟨ctx, found, item, stored, addon, stocked, made⟩), rfl, rfl⟩
          · cases shown.symm.trans clash

end Calls

namespace Fixture

open Actl.Fixture (platform database seaView)

def breakfast : CatalogItemRecord where
  sku := "ADDON-BREAKFAST-GOA"
  category := "travel.addon.per_night"
  merchantId := "mrc_seabreeze"
  unitPriceMinor := 80000
  availableUnits := 20
  refundable := true

def order : OrderRecord where
  id := "ord_1"
  mandateId := "mdt_1"
  decisionId := "dec_1"
  quoteId := "qte_1"
  status := .captured
  amountMinor := 420000
  currency := "INR"
  attemptNo := 1
  idempotencyKey := "key_1"
  providerOrderId := none
  providerPaymentId := none
  declineReason := none
  createdAt := 0

/-- The store with the order for the sea view, breakfast, and other items in Goa. -/
def goa (items : Foundation.Table CatalogItemRecord [CatalogItemRecord.sku]) : Shop where
  world := ⟨{ database with items := items, orders := ⟨[order], by simp⟩ }, .fresh⟩
  addons := ⟨[], by simp⟩
  transactions := []
  location _ := ⟨"Goa", "IN"⟩
  textOrder := inferInstance

/-- The stay that the order is for. -/
def stay : BaseOrderContext := ⟨"mdt_1", 3, 1, "Goa", "IN"⟩

/-- Breakfast is listed and priced alike when there is little else. -/
theorem breakfast_agrees :
    Agree platform (goa ⟨[seaView, breakfast], by decide⟩) "ord_1" "ADDON-BREAKFAST-GOA" := by
  refine (upsell_agree_iff _ _ _ rfl).mpr ?_
  intro ctx found item stored _
  have context : (goa ⟨[seaView, breakfast], by decide⟩).baseContext "ord_1" = some stay := by
    decide +kernel
  have row : (goa ⟨[seaView, breakfast], by decide⟩).item? "ADDON-BREAKFAST-GOA"
      = some ((goa ⟨[seaView, breakfast], by decide⟩).itemRow breakfast) := by
    decide +kernel
  cases found.symm.trans context
  cases stored.symm.trans row
  refine ⟨⟨rfl, rfl, by decide +kernel⟩, ?_⟩
  intro other kept _ _ _ multiplier price
  rcases List.mem_map.mp (Shop.item?_eq_some_iff.mp kept).1 with ⟨record, member, rfl⟩
  simp only [goa, List.mem_cons, List.not_mem_nil, or_false] at member
  rcases member with rfl | rfl
  · cases price
  · cases price
    decide +kernel

/-- A room in Goa for less than breakfast. -/
def room (i : Nat) : CatalogItemRecord :=
  { seaView with sku := "HTL-GOA-" ++ toString i, unitPriceMinor := i + 1 }

/-- The hotel, breakfast, and 50 cheaper rooms. -/
def rooms : Foundation.Table CatalogItemRecord [CatalogItemRecord.sku] :=
  ⟨seaView :: breakfast :: (List.range 50).map room, by decide +kernel⟩

/-- With 50 cheaper rooms in Goa breakfast is sold, but not listed. -/
theorem breakfast_unlisted :
    ¬ Agree platform (goa rooms) "ord_1" "ADDON-BREAKFAST-GOA" := by
  intro agree
  have context : (goa rooms).baseContext "ord_1" = some stay := by decide +kernel
  have row : (goa rooms).item? "ADDON-BREAKFAST-GOA" = some ((goa rooms).itemRow breakfast) := by
    decide +kernel
  have accepted : ∃ offer, (goa rooms).pricedOffer "ord_1" "ADDON-BREAKFAST-GOA" = some offer ∧
      offer.quantity = 3 ∧ offer.totalMinor = 240000 := by
    refine ⟨_, Shop.pricedOffer_eq_some_iff.mpr ⟨stay, context, _, row, ?_, ?_, rfl⟩, ?_, ?_⟩
    all_goals decide +kernel
  obtain ⟨offer, offered, quantity, totalMinor⟩ := accepted
  have works : ∀ i : Nat, Works ((fun _ => working) i) := fun _ => rfl
  obtain ⟨offers, shown, offer', member, same, -, -⟩ := (agree (fun _ => "") _ _ works works 3
    240000).mp ⟨offer, (priced_eq works).trans (congrArg Except.ok offered), quantity, totalMinor⟩
  rcases listed_cases (P := platform) (fun _ => "") works context with
    ⟨answer, -⟩ | ⟨failure, clash, -⟩
  · cases shown.symm.trans answer
    obtain ⟨item, listed, -, -, -, made⟩ := Shop.mem_offers.mp member
    obtain ⟨stored, leads⟩ := Shop.mem_listItems_iff.mp listed
    rw [← (toOffer_eq_some made).1, same] at stored
    cases stored.symm.trans row
    have many : 50 ≤ ((goa rooms).before ((goa rooms).itemRow breakfast) "Goa" "IN").length := by
      decide +kernel
    exact not_lt.mpr many leads.first
  · cases shown.symm.trans clash

end Fixture

end Actl.Upsell
