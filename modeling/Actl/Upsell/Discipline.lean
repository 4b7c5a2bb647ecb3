import Actl.Runs.ProposalItem
import Actl.Runs.Repetition
import Actl.Upsell.Programs

/-!
# The discipline of the shop's calls

What a call of the shop has done says which actions it may issue next (`ShopMay`): a
transaction is the call's own, only a purchase takes up a row, and only after it has
done so does it add its mandate and its quote; the pipeline runs and the row is marked
only once that transaction is committed.
-/

set_option autoImplicit false

namespace Actl.Upsell

open Foundation (Step)
open Mandates (Mandate)

abbrev ShopStep : Type := Step ShopAction ShopInput Shop

/-- What a call has done, the latest step first. -/
abbrev ShopPast : Type := List ShopStep

section Past

variable (P : Platform)

/-- The step performed the action, which replied with the value. -/
def Replied (s : ShopStep) (action : ShopAction) (value : ShopValue action) : Prop :=
  s.action = action ∧ (Shop.execute P action s.input s.before).1 = .ok value

/-- The call has started the transaction. -/
def Began (past : ShopPast) (n : Nat) : Prop := ∃ s ∈ past, Replied P s .startTransaction n

def ReadItem (past : ShopPast) (n : Nat) (sku : String) (item : Agents.CatalogItemRow) : Prop :=
  ∃ s ∈ past, Replied P s (.statement n (.getItem sku)) (some item)

/-- The transaction has sent the statement, which answered the value, and has not
committed since. -/
def Sent : ShopPast → Nat → (statement : Statement) → statement.Value → Prop
  | [], _, _, _ => False
  | s :: past, n, statement, value =>
      Replied P s (.statement n statement) value ∨
        (Sent past n statement value ∧ s.action ≠ .commit n)

/-- What a purchase has made: its row, its mandate and its quote. -/
structure Purchase where
  pending : PendingArgs
  mandate : Mandate
  quote : QuoteRecord

/-- The transaction has taken up the row and made the mandate and the quote. -/
structure Prepared (past : ShopPast) (n : Nat) (purchase : Purchase) : Prop where
  pended : Sent P past n (.tryMarkPending purchase.pending) true
  mandated : Sent P past n (.addMandate purchase.mandate) ()
  quoted : Sent P past n (.addQuote purchase.quote) ()

/-- A transaction that made the purchase is committed. -/
def Opened : ShopPast → Purchase → Prop
  | [], _ => False
  | s :: past, purchase =>
      (∃ n, Prepared P past n purchase ∧ Replied P s (.commit n) ()) ∨ Opened past purchase

/-- The call has marked its row. -/
def Marked (past : ShopPast) : Prop := ∃ s ∈ past, ∃ key mark, Replied P s (.mark key mark) ()

/-- The statement was not sent in the transaction. -/
def Unsent (past : ShopPast) (n : Nat) (sort : Statement → Prop) : Prop :=
  ∀ s ∈ past, ∀ statement, s.action = .statement n statement → ¬ sort statement

def Statement.AddsMandate : Statement → Prop
  | .addMandate _ => True
  | _ => False

def Statement.AddsQuote : Statement → Prop
  | .addQuote _ => True
  | _ => False

/-- The transaction has just read the item and then the version that the quote pins. -/
def Pins (past : ShopPast) (n : Nat) (sku : String) (quote : QuoteRecord) : Prop :=
  ∃ v i earlier item version, past = v :: i :: earlier ∧
    Replied P v (.statement n .currentVersion) version ∧
    Replied P i (.statement n (.getItem sku)) (some item) ∧
    quote.sku = item.sku ∧ quote.unitPriceMinor = item.unitPriceMinor ∧
    quote.catalogVersion = version

end Past

/-- What one part of the pipeline has done to the world. -/
def part (which : Part) (past : ShopPast) : Past :=
  past.filterMap fun s =>
    match s.action with
    | .within which' action =>
        if which' = which then some ⟨action, s.input.toInput, s.before.world⟩ else none
    | _ => none

section May

variable (P : Platform)

/-- The offer was priced at an item that the transaction has read. -/
def Priced (past : ShopPast) (n : Nat) (args : PurchaseArgs) (offer : EligibleOffer) : Prop :=
  ∃ item, ReadItem P past n args.offerSku item ∧
    offer.totalMinor = item.unitPriceMinor * offer.quantity

/-- The quote a purchase makes of the offer it took up. -/
structure QuotesOffer (args : PurchaseArgs) (offer : EligibleOffer) (quote : QuoteRecord) : Prop where
  id : quote.id = args.quoteId
  mandateId : quote.mandateId = args.addonMandateId
  total : quote.totalMinor = quote.unitPriceMinor * offer.quantity

/-- The call is a purchase whose transaction has taken up the offer. -/
structure TakesUp (call : ShopCall) (past : ShopPast) (n : Nat) (args : PurchaseArgs)
    (offer : EligibleOffer) : Prop where
  buys : call = .purchaseUpsell args
  pended : Sent P past n (.tryMarkPending (pendingArgs args offer)) true
  priced : Priced P past n args offer

def StatementMay (call : ShopCall) (past : ShopPast) (n : Nat) : Statement → Prop
  | .tryMarkPending pending => ∃ args offer, call = .purchaseUpsell args ∧
      pending = pendingArgs args offer ∧ Priced P past n args offer
  | .recordOffered .. => ∃ baseOrderId ids, call = .listEligibleOffers baseOrderId ids
  | .addMandate mandate => Unsent past n Statement.AddsMandate ∧ ∃ args offer,
      TakesUp P call past n args offer ∧ mandate = addonMandate P args offer
  | .addQuote quote => Unsent past n Statement.AddsQuote ∧
      ((∃ args quoteId now, call = .createQuote args quoteId now ∧ Pins P past n args.sku quote) ∨
        ∃ args offer, TakesUp P call past n args offer ∧
          Sent P past n (.addMandate (addonMandate P args offer)) () ∧
          Pins P past n args.offerSku quote ∧ QuotesOffer args offer quote)
  | .bumpVersion | .setPrice .. => ∃ args, call = .mutatePriceDemoOnly args
  | _ => True

/-- The call is a purchase that has committed what it made of the offer. The item was
read twice by the transaction, for the offer and for the quote. -/
structure HasOpened (call : ShopCall) (past : ShopPast) (args : PurchaseArgs) (n : Nat)
    (offer : EligibleOffer) (quote : QuoteRecord) : Prop where
  buys : call = .purchaseUpsell args
  opened : Opened P past ⟨pendingArgs args offer, addonMandate P args offer, quote⟩
  priced : Priced P past n args offer
  requoted : ∃ item, ReadItem P past n args.offerSku item ∧
    quote.unitPriceMinor = item.unitPriceMinor
  quotes : QuotesOffer args offer quote

/-- A purchase proposes its own mandate and its own quote. -/
structure Proposes (args : PurchaseArgs) (proposal : Saga.ProposeArgs) : Prop where
  mandateId : proposal.mandateId = args.addonMandateId
  quoteId : proposal.quoteId = args.quoteId

/-- What a call of the shop may issue, given what it has done. -/
def ShopMay (call : ShopCall) (past : ShopPast) : ShopAction → Prop
  | .statement n statement => Began P past n ∧ StatementMay P call past n statement
  | .commit n => Began P past n
  | .mark key mark => ¬ Marked P past ∧ ∃ args n offer quote,
      HasOpened P call past args n offer quote ∧ key = args.key ∧
      ∀ orderId, mark = .settled orderId → ∃ proposal accepted sagaId, Proposes args proposal ∧
        Accepts P (part .proposing past) proposal accepted sagaId ∧
        orderId = accepted.getD "None"
  | .within which action => SparesCatalog action ∧
      ((which = .proposing ∧ ∃ application, call = .pipeline application ∧
          May P application.1 (part .proposing past) action) ∨
        ∃ args n offer quote, HasOpened P call past args n offer quote ∧
          match which with
          | .proposing => ∃ proposal, Proposes args proposal ∧
              May P (.handleOrderPropose proposal args.orderId) (part .proposing past) action
          | .completing => ∃ complete,
              May P (.completePurchase complete) (part .completing past) action)
  | .declineAllOffered baseOrderId => call = .declineUpsell baseOrderId
  | _ => True

end May

/-! ## Longer histories -/

section Longer

variable {P : Platform} {past longest : ShopPast}

theorem Replied.unique {s : ShopStep} {action : ShopAction} {value value' : ShopValue action}
    (one : Replied P s action value) (two : Replied P s action value') : value = value' :=
  Except.ok.inj (one.2.symm.trans two.2)

theorem Began.mono {n : Nat} (began : Began P past n) (longer : past <:+ longest) :
    Began P longest n := by
  obtain ⟨s, member, replied⟩ := began
  exact ⟨s, longer.subset member, replied⟩

theorem ReadItem.mono {n : Nat} {sku : String} {item : Agents.CatalogItemRow}
    (read : ReadItem P past n sku item) (longer : past <:+ longest) : ReadItem P longest n sku item := by
  obtain ⟨s, member, replied⟩ := read
  exact ⟨s, longer.subset member, replied⟩

theorem Priced.mono {n : Nat} {args : PurchaseArgs} {offer : EligibleOffer}
    (priced : Priced P past n args offer) (longer : past <:+ longest) : Priced P longest n args offer := by
  obtain ⟨item, read, total⟩ := priced
  exact ⟨item, read.mono longer, total⟩

/-- What a transaction has sent stays sent while it does not commit. -/
theorem Sent.cons {n : Nat} {statement : Statement} {value : statement.Value}
    {s : ShopStep} (sent : Sent P past n statement value) (open' : s.action ≠ .commit n) :
    Sent P (s :: past) n statement value := .inr ⟨sent, open'⟩

theorem Opened.mono {purchase : Purchase} (opened : Opened P past purchase)
    (longer : past <:+ longest) : Opened P longest purchase := by
  induction longest with
  | nil =>
      rw [List.suffix_nil.mp longer] at opened
      exact opened
  | cons s longest ih =>
      rcases List.suffix_cons_iff.mp longer with rfl | earlier
      · exact opened
      · exact .inr (ih earlier)

theorem HasOpened.mono {call : ShopCall} {args : PurchaseArgs} {n : Nat} {offer : EligibleOffer}
    {quote : QuoteRecord} (has : HasOpened P call past args n offer quote)
    (longer : past <:+ longest) : HasOpened P call longest args n offer quote := by
  obtain ⟨item, read, same⟩ := has.requoted
  exact ⟨has.buys, has.opened.mono longer, has.priced.mono longer, ⟨item, read.mono longer, same⟩,
    has.quotes⟩

end Longer

end Actl.Upsell
