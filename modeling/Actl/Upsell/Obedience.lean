import Actl.Upsell.Discipline

/-!
# The shop's calls obey their discipline

The programs are gone through once, from their texts: what a call issues is what
`ShopMay` permits it after what it has done (`code_obeys`). The parts that a purchase
shares with the application obey the discipline of the application, read through the
part (`lift_obeys`).
-/

set_option autoImplicit false

namespace Actl.Upsell

open Foundation (Step Program Obeys)
open Foundation.Code (ObeysCode obeys_pure obeys_throw obeys_perform obeys_bind obeys_mono
  obeys_outcome ConfinedCode confined_pure confined_throw confined_perform confined_bind
  confined_tryCatch confined_outcome)
open Catalog (QuoteArgs PriceArgs draftQuote)
open Mandates (Mandate)

/-! ## The pipeline spares the catalog -/

section Spares

variable {P : Platform}

theorem confined_voidPurchase (args : CompleteArgs) (saga : SagaRecord) (orderId reason : String) :
    ConfinedCode SparesCatalog (voidPurchase args saga orderId reason) :=
  confined_bind (confined_issue rfl) fun _ => confined_bind (confined_issue rfl) fun _ =>
    confined_pure _

theorem confined_call {action : Action} (fine : SparesCatalog action) :
    ConfinedCode SparesCatalog (callWithRetry P action) :=
  confined_retry (confined_issue fine) _

theorem confined_verifyAndCapture (args : CompleteArgs) (saga : SagaRecord) (orderId : String) :
    ConfinedCode SparesCatalog (verifyAndCapture P args saga orderId) := by
  unfold verifyAndCapture
  dsimp only
  split
  · refine confined_bind (confined_tryCatch (confined_call rfl) fun failure => ?_) fun _ =>
      confined_issue rfl
    split
    · exact confined_bind (confined_issue rfl) fun _ => confined_throw _
    · exact confined_throw _
  · exact confined_bind (confined_issue rfl) fun _ => confined_throw _

theorem confined_captureAndSettle (args : CompleteArgs) (saga : SagaRecord) (orderId : String) :
    ConfinedCode SparesCatalog (captureAndSettle P args saga orderId) := by
  refine confined_bind (confined_outcome (confined_verifyAndCapture args saga orderId))
    fun captured => ?_
  split
  · exact confined_voidPurchase ..
  · split
    · exact confined_voidPurchase ..
    · exact confined_throw _
  · refine confined_bind (confined_issue rfl) fun final => ?_
    cases final with
    | some final => exact confined_pure _
    | none =>
        exact confined_bind (confined_call rfl) fun _ => confined_bind (confined_issue rfl)
          fun _ => confined_bind (confined_issue rfl) fun _ => confined_pure _

theorem confined_completePurchase (args : CompleteArgs) :
    ConfinedCode SparesCatalog (completePurchase P args) := by
  refine confined_bind (confined_issue rfl) fun found => ?_
  cases found with
  | none => exact confined_throw _
  | some saga =>
      dsimp only
      split
      · exact confined_pure _
      cases saga.orderId with
      | none => exact confined_throw _
      | some orderId =>
          refine confined_bind (confined_issue rfl) fun status => ?_
          split
          · exact confined_voidPurchase ..
          · refine confined_bind (confined_issue rfl) fun payments => ?_
            split
            · exact confined_voidPurchase ..
            · exact confined_captureAndSettle args saga orderId

theorem confined_checkout (body : CheckoutRequest) (traceId : String) :
    ConfinedCode SparesCatalog (checkout P body traceId) := by
  refine confined_bind (confined_issue rfl) fun found => ?_
  cases found with
  | none => exact confined_throw _
  | some order =>
      dsimp only
      cases order.providerOrderId with
      | none => exact confined_throw _
      | some providerOrderId =>
          dsimp only
          split
          · exact confined_completePurchase _
          · split
            · exact confined_throw _
            · refine confined_bind (confined_issue rfl) fun payments => ?_
              cases payments with
              | nil => exact confined_throw _
              | cons payment payments => exact confined_completePurchase _

/-- The calls beside the shop's own spare the catalog. -/
theorem confined_pipeline (call : PipelineCall) :
    ConfinedCode SparesCatalog (Call.code P call.1) := by
  have single : ∀ (action : Action) (wrap : Value action → Outcome), SparesCatalog action →
      ConfinedCode SparesCatalog (do return wrap (← Actl.issue action) : Prog Outcome) :=
    fun action wrap fine => confined_bind (confined_issue fine) fun _ => confined_pure _
  obtain ⟨call, inside⟩ := call
  cases call with
  | completePurchase args =>
      exact confined_bind (confined_completePurchase args) fun _ => confined_pure _
  | checkout body traceId =>
      exact confined_bind (confined_checkout body traceId) fun _ => confined_pure _
  | handleOrderPropose args orderId =>
      exact confined_bind (confined_handleOrderPropose args orderId) fun _ => confined_pure _
  | updateMandateStatus mandateId status =>
      exact single (.updateMandateStatus mandateId status) (fun _ => .nothing) rfl
  | processWebhookDelivery delivery => exact single (.processWebhookDelivery delivery) .receipt rfl
  | processUnprocessedWebhooks => exact single .processUnprocessedWebhooks (fun _ => .nothing) rfl
  | reconcileNonTerminalOrders => exact single .reconcileNonTerminalOrders (fun _ => .nothing) rfl
  | sweep => exact single .sweep (fun _ => .nothing) rfl
  | verifyChainAndHaltOnFailure tables fromSeq toSeq =>
      exact single (.verifyChainAndHaltOnFailure tables fromSeq toSeq) .verified rfl
  | _ => cases inside

end Spares

/-! ## Issuing -/

section Issuing

variable {P : Platform} {may : ShopPast → ShopAction → Prop} {history : ShopPast}

theorem shop_issue_obeys {action : ShopAction} {returns : ShopValue action → ShopPast → Prop}
    {raises : Failure → ShopPast → Prop} (permitted : may history action)
    (answers : ∀ s : ShopStep, ∀ value, Replied P s action value → returns value (s :: history))
    (fails : ∀ s : ShopStep, ∀ failure, s.action = action → raises failure (s :: history)) :
    ObeysCode (Shop.execute P) may returns raises history (issue action) := by
  refine obeys_perform permitted fun input before => ?_
  cases result : (Shop.execute P action input before).1 with
  | ok value => exact answers ⟨action, input, before⟩ value ⟨rfl, result⟩
  | error failure => exact fails ⟨action, input, before⟩ failure rfl

theorem part_within (which : Part) (action : Action) (input : ShopInput) (before : Shop)
    (past : ShopPast) : part which (⟨.within which action, input, before⟩ :: past)
      = ⟨action, input.toInput, before.world⟩ :: part which past := by
  simp [part]

theorem part_cons_of_ne {which : Part} {s : ShopStep} {past : ShopPast}
    (other : ∀ action, s.action ≠ .within which action) : part which (s :: past) = part which past := by
  unfold part
  rw [List.filterMap_cons]
  split
  next => rfl
  next seen =>
    split at seen
    next which' action same =>
      split at seen
      next here =>
        subst here
        exact absurd same (other action)
      next => cases seen
    next => cases seen

/-- A program of the application obeys as a part what it obeys in the application. -/
theorem lift_obeys {α : Type} {which : Part} {body : Program Action Reply α}
    {may₀ : Past → Action → Prop} {ends : α → Past → Prop} (kept : ShopPast → Prop)
    (obeys : Obeys (Actl.execute P) may₀ ends (part which history) body)
    (permits : ∀ past action, kept past → may₀ (part which past) action →
      may past (.within which action))
    (keeps : ∀ s past, (∃ action, s.action = .within which action) → kept past → kept (s :: past))
    (holds : kept history) :
    Obeys (Shop.execute P) may (fun value past => kept past ∧ ends value (part which past)) history
      (lift which body) := by
  induction body generalizing history with
  | done value => exact ⟨holds, obeys⟩
  | act action next ih =>
      refine ⟨permits history action holds obeys.1, fun input before => ?_⟩
      refine ih _ ?_ (keeps _ _ ⟨action, rfl⟩ holds)
      rw [part_within]
      exact obeys.2 input.toInput before.world

/-- A block of statements in a transaction of its own. -/
theorem unitOfWork_obeys {α : Type} {body : Nat → ShopProg α} {inside : α → ShopPast → Prop}
    {returns : α → ShopPast → Prop} (free : ∀ past, may past .startTransaction)
    (ended : ∀ past n, may past (.endTransaction n))
    (obeys : ∀ s n, Replied P s .startTransaction n →
      ObeysCode (Shop.execute P) may inside (fun _ _ => True) (s :: history) (body n))
    (after : ∀ s n value past, s.action = .endTransaction n → inside value past →
      returns value (s :: past)) :
    ObeysCode (Shop.execute P) may returns (fun _ _ => True) history (unitOfWork body) := by
  refine obeys_bind (fun n past => ∃ s, Replied P s .startTransaction n ∧ past = s :: history)
    (shop_issue_obeys (free _) (fun s n replied => ⟨s, replied, rfl⟩) fun _ _ _ => trivial) ?_
  rintro n _ - ⟨s, replied, rfl⟩
  refine obeys_bind (fun outcome past => ∀ value, outcome = .ok value → inside value past)
    (obeys_outcome (obeys_mono (obeys s n replied) ?_ ?_)) fun outcome past _ ran => ?_
  · rintro value past holds _ ⟨⟩
    exact holds
  · rintro failure past - value clash
    cases clash
  · refine obeys_bind (fun _ past => ∀ value, outcome = .ok value → returns value past)
      (shop_issue_obeys (ended _ _) (fun s' _ replied' value same =>
        after s' n value past replied'.1 (ran value same)) fun _ _ _ => trivial) ?_
    intro _ past' _ done
    cases outcome with
    | ok value => exact obeys_pure (done value rfl)
    | error failure => exact obeys_throw trivial

end Issuing

/-! ## Transactions -/

def Statement.reads : Statement → Bool
  | .getOrder _ | .getQuote _ | .getMandate _ | .getItem _ | .listItems .. | .currentVersion
  | .getAddonPurchase _ => true
  | _ => false

/-- The action reads in the transaction. -/
def Reads (n : Nat) (action : ShopAction) : Prop :=
  ∃ statement, action = .statement n statement ∧ statement.reads = true

section Reading

variable {n : Nat}

theorem confined_send {statement : Statement} (reads : statement.reads = true) :
    ConfinedCode (Reads n) (send n statement) := confined_perform ⟨statement, rfl, reads⟩ _

theorem confined_loadBaseContext (baseOrderId : String) :
    ConfinedCode (Reads n) (loadBaseContext n baseOrderId) := by
  refine confined_bind (confined_send rfl) fun order => ?_
  cases order with
  | none => exact confined_pure _
  | some order =>
      dsimp only
      split
      · exact confined_pure _
      refine confined_bind (confined_send rfl) fun quote => ?_
      cases quote with
      | none => exact confined_pure _
      | some quote =>
          refine confined_bind (confined_send rfl) fun item => ?_
          cases item with
          | none => exact confined_pure _
          | some item =>
              dsimp only
              split
              · exact confined_pure _
              refine confined_bind (confined_send rfl) fun row => ?_
              cases row with
              | none => exact confined_pure _
              | some row => exact confined_pure _

theorem confined_eligibleOffers (baseOrderId : String) (ctx : BaseOrderContext)
    (addons : List Agents.CatalogItemRow) :
    ConfinedCode (Reads n) (eligibleOffers n baseOrderId ctx addons) := by
  induction addons with
  | nil => exact confined_pure _
  | cons addon addons ih =>
      unfold eligibleOffers
      split
      · exact ih
      · refine confined_bind (confined_send rfl) fun existing => confined_bind ih fun offers => ?_
        split
        · exact confined_pure _
        · exact confined_pure _

end Reading

section Calls

variable {P : Platform} {call : ShopCall} {history : ShopPast} {n : Nat}

/-- What reading keeps holds when the reading is done. -/
theorem reading_obeys {α : Type} {body : ShopProg α} (confined : ConfinedCode (Reads n) body)
    (kept : ShopPast → Prop) (began : ∀ past, kept past → Began P past n)
    (keeps : ∀ s past statement, s.action = .statement n statement → statement.reads = true →
      kept past → kept (s :: past)) (holds : kept history) :
    ObeysCode (Shop.execute P) (ShopMay P call) (fun _ past => kept past) (fun _ _ => True) history
      body := by
  refine Obeys.mono (confined.permitted kept ?_ ?_ holds) fun outcome past fine => ?_
  · rintro past _ fine ⟨statement, rfl, reads⟩
    refine ⟨began past fine, ?_⟩
    cases statement with
    | getOrder _ => trivial
    | getQuote _ => trivial
    | getMandate _ => trivial
    | getItem _ => trivial
    | listItems _ _ _ => trivial
    | currentVersion => trivial
    | getAddonPurchase _ => trivial
    | _ => cases reads
  · rintro s past ⟨statement, same, reads⟩ fine
    exact keeps s past statement same reads fine
  · cases outcome with
    | ok value => exact fine
    | error failure => trivial

/-- The transaction is the first of its call and has not sent what comes later. -/
structure Drafts (P : Platform) (later : Statement → Prop) (n : Nat) (past : ShopPast) : Prop where
  began : Began P past n
  unsent : Unsent past n later
  unmarked : ¬ Marked P past
  parts : ∀ which, part which past = []

theorem Drafts.start {later : Statement → Prop} {s : ShopStep}
    (replied : Replied P s .startTransaction n) : Drafts P later n [s] where
  began := ⟨s, List.mem_singleton.mpr rfl, replied⟩
  unsent := by
    intro s' member statement same
    rw [List.mem_singleton.mp member, replied.1] at same
    cases same
  unmarked := by
    rintro ⟨s', member, key, mark, marked⟩
    rw [List.mem_singleton.mp member] at marked
    cases replied.1.symm.trans marked.1
  parts := by
    intro which
    refine part_cons_of_ne fun action same => ?_
    rw [replied.1] at same
    cases same

theorem Drafts.send {later : Statement → Prop} {past : ShopPast} (drafts : Drafts P later n past)
    {s : ShopStep} {statement : Statement} (same : s.action = .statement n statement)
    (other : ¬ later statement) : Drafts P later n (s :: past) where
  began := drafts.began.mono (List.suffix_cons s past)
  unsent := by
    intro s' member statement' same'
    rcases List.mem_cons.mp member with rfl | earlier
    · cases same.symm.trans same'
      exact other
    · exact drafts.unsent s' earlier statement' same'
  unmarked := by
    rintro ⟨s', member, key, mark, marked⟩
    rcases List.mem_cons.mp member with rfl | earlier
    · cases same.symm.trans marked.1
    · exact drafts.unmarked ⟨s', earlier, key, mark, marked⟩
  parts := by
    intro which
    rw [part_cons_of_ne (fun action clash => by cases same.symm.trans clash)]
    exact drafts.parts which

theorem Drafts.narrow {later later' : Statement → Prop} {past : ShopPast}
    (drafts : Drafts P later n past) (fewer : ∀ statement, later' statement → later statement) :
    Drafts P later' n past :=
  ⟨drafts.began, fun s member statement same sent =>
    drafts.unsent s member statement same (fewer statement sent), drafts.unmarked, drafts.parts⟩

/-! ### Quotes and prices -/

/-- The quote is made in the transaction, and only the commit is missing. -/
structure Quotes (P : Platform) (args : QuoteArgs) (quoteId : String) (now : Time) (n : Nat)
    (quote : QuoteRecord) (past : ShopPast) : Prop where
  drafts : Drafts P (fun _ => False) n past
  drafted : ∃ item version, ReadItem P past n args.sku item ∧
    quote = draftQuote P args item.toCatalogItemRecord version quoteId now
  sent : Sent P past n (.addQuote quote) ()

theorem not_addsQuote {statement : Statement} (reads : statement.reads = true) :
    ¬ statement.AddsQuote := by
  intro adds
  cases statement with
  | addQuote quote => cases reads
  | _ => exact adds

/-- `create_quote` in a transaction: what the transaction has sent is committed together
with the quote. -/
theorem createQuote_obeys {args : QuoteArgs} {quoteId : String} {now : Time}
    {returns : QuoteRecord → ShopPast → Prop} (drafts : Drafts P Statement.AddsQuote n history)
    (kept : ShopPast → Prop) (holds : kept history)
    (keeps : ∀ s past statement, s.action = .statement n statement → kept past → kept (s :: past))
    (permits : ∀ past item version, kept past → Unsent past n Statement.AddsQuote →
      Pins P past n args.sku (draftQuote P args item version quoteId now) →
      StatementMay P call past n (.addQuote (draftQuote P args item version quoteId now)))
    (commits : ∀ s past quote, kept past → Quotes P args quoteId now n quote past →
      Replied P s (.commit n) () → returns quote (s :: past)) :
    ObeysCode (Shop.execute P) (ShopMay P call) returns (fun _ _ => True) history
      (createQuote P n args quoteId now) := by
  refine obeys_bind (fun _ past => Drafts P Statement.AddsQuote n past ∧ kept past)
    (shop_issue_obeys ⟨drafts.began, trivial⟩ (fun s _ replied =>
      ⟨drafts.send replied.1 (not_addsQuote rfl), keeps s _ _ replied.1 holds⟩)
      fun _ _ _ => trivial) ?_
  rintro mandate past - ⟨drafts, holds⟩
  cases mandate with
  | none => exact obeys_throw trivial
  | some row =>
      refine obeys_bind (fun found past' => ∃ i, Replied P i (.statement n (.getItem args.sku)) found ∧
        past' = i :: past) (shop_issue_obeys ⟨drafts.began, trivial⟩
          (fun i _ replied => ⟨i, replied, rfl⟩) fun _ _ _ => trivial) ?_
      rintro found _ - ⟨i, read, rfl⟩
      have drafts' := drafts.send read.1 (not_addsQuote rfl)
      have holds' := keeps i _ _ read.1 holds
      cases found with
      | none => exact obeys_throw trivial
      | some item =>
          dsimp only
          split
          · exact obeys_throw trivial
          refine obeys_bind (fun version past' => ∃ v, Replied P v (.statement n .currentVersion)
            version ∧ past' = v :: i :: past) (shop_issue_obeys ⟨drafts'.began, trivial⟩
              (fun v _ replied => ⟨v, replied, rfl⟩) fun _ _ _ => trivial) ?_
          rintro version _ - ⟨v, pinned, rfl⟩
          have drafts'' := drafts'.send pinned.1 (not_addsQuote rfl)
          have holds'' := keeps v _ _ pinned.1 holds'
          have seen : ReadItem P (v :: i :: past) n args.sku item :=
            ⟨i, List.mem_cons_of_mem _ List.mem_cons_self, read⟩
          refine obeys_bind (fun _ past' => kept past' ∧ Quotes P args quoteId now n
            (draftQuote P args item.toCatalogItemRecord version quoteId now) past')
            (shop_issue_obeys ⟨drafts''.began, permits _ _ _ holds'' drafts''.unsent
              ⟨v, i, past, item, version, rfl, pinned, read, rfl, rfl, rfl⟩⟩
              (fun s _ replied => ⟨keeps s _ _ replied.1 holds'', ?_, ?_, .inl replied⟩)
              fun _ _ _ => trivial) ?_
          · exact (drafts''.narrow fun _ none => none.elim).send replied.1 id
          · exact ⟨item, version, seen.mono (List.suffix_cons _ _), rfl⟩
          rintro _ past₁ longer₁ ⟨kept₁, quotes⟩
          refine obeys_bind (fun _ past' => kept past' ∧ Quotes P args quoteId now n
            (draftQuote P args item.toCatalogItemRecord version quoteId now) past')
            (shop_issue_obeys ⟨quotes.drafts.began, trivial⟩ (fun s _ replied =>
              ⟨keeps s _ _ replied.1 kept₁, quotes.drafts.send replied.1 id, ?_, ?_⟩)
              fun _ _ _ => trivial) ?_
          · exact ⟨item, version, (seen.mono longer₁).mono (List.suffix_cons _ _), rfl⟩
          · refine quotes.sent.cons fun clash => ?_
            cases replied.1.symm.trans clash
          rintro _ past₂ - ⟨kept₂, quotes⟩
          refine obeys_bind (fun _ past' => returns
            (draftQuote P args item.toCatalogItemRecord version quoteId now) past')
            (shop_issue_obeys quotes.drafts.began (fun s _ replied =>
              commits s past₂ _ kept₂ quotes replied) fun _ _ _ => trivial) ?_
          intro _ past₃ _ holds
          exact obeys_pure holds

end Calls

end Actl.Upsell
