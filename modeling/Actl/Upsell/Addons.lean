import Actl.Foundation.Keyed
import Mathlib.Algebra.BigOperators.Group.List.Basic
import Mathlib.Algebra.Ring.Int.Defs
import Actl.Platform

/-!
# Add-on purchases

The rows of `addon_purchases`: one for each add-on that was shown or bought for a
base order, with the constraint that a base order has one row per offer. What the
repository's statements make of a row is given row by row: an insertion with
`ON CONFLICT` sees the row with its key or none, an update the row it selects.

A row is looked up by its key only; its drawn id is never read.
-/

set_option autoImplicit false

namespace Actl.Upsell

open Foundation (Keyed)

inductive AddonStatus where
  | offered
  | pending
  | settled
  | failed
  | declined
  deriving DecidableEq, Repr

structure AddonPurchaseRecord where
  id : String
  baseOrderId : String
  offerSku : String
  status : AddonStatus
  addonMandateId : Option String
  addonOrderId : Option String
  priceMinor : Int
  currency : String
  deriving DecidableEq

/-- The base order and the offer, which no two rows share. -/
abbrev AddonKey : Type := String × String

def AddonPurchaseRecord.key (row : AddonPurchaseRecord) : AddonKey :=
  (row.baseOrderId, row.offerSku)

abbrev AddonPurchases : Type := Keyed AddonPurchaseRecord AddonKey AddonPurchaseRecord.key

/-! ## Insertions -/

/-- `record_offered`: the row that is inserted, if none is there. -/
def recordOfferedRow (id : String) (key : AddonKey) (priceMinor : Int) (currency : String) :
    Option AddonPurchaseRecord → Option AddonPurchaseRecord
  | none => some
      { id := id, baseOrderId := key.1, offerSku := key.2, status := .offered
        addonMandateId := none, addonOrderId := none, priceMinor := priceMinor
        currency := currency }
  | some _ => none

/-- What `try_mark_pending` is called with. -/
structure PendingArgs where
  id : String
  key : AddonKey
  addonMandateId : String
  priceMinor : Int
  currency : String
  deriving DecidableEq

/-- `try_mark_pending`: the row as it is inserted, or an offered row as it is
updated, which keeps its price. Any other row is left alone. -/
def tryMarkPendingRow (args : PendingArgs) : Option AddonPurchaseRecord → Option AddonPurchaseRecord
  | none => some
      { id := args.id, baseOrderId := args.key.1, offerSku := args.key.2, status := .pending
        addonMandateId := some args.addonMandateId, addonOrderId := none
        priceMinor := args.priceMinor, currency := args.currency }
  | some row =>
      if row.status = .offered then
        some { row with status := .pending, addonMandateId := some args.addonMandateId }
      else none

/-! ## Updates -/

/-- How a purchase ends on its row. -/
inductive Mark where
  | settled (addonOrderId : String)
  | failed
  deriving DecidableEq

def Mark.apply : Mark → AddonPurchaseRecord → AddonPurchaseRecord
  | .settled addonOrderId, row => { row with status := .settled, addonOrderId := some addonOrderId }
  | .failed, row => { row with status := .failed }

theorem Mark.key_apply (mark : Mark) (row : AddonPurchaseRecord) : (mark.apply row).key = row.key := by
  cases mark with
  | settled addonOrderId => rfl
  | failed => rfl

/-- `mark_settled` and `mark_failed`, which write whatever status the row has. -/
def markRow (addons : AddonPurchases) (key : AddonKey) (mark : Mark) : AddonPurchases :=
  addons.modify (fun row => row.key = key) mark.apply mark.key_apply

def declined (row : AddonPurchaseRecord) : AddonPurchaseRecord := { row with status := .declined }

theorem key_declined (row : AddonPurchaseRecord) : (declined row).key = row.key := rfl

/-- The rows `decline_all_offered` selects. -/
def declinable (baseOrderId : String) (row : AddonPurchaseRecord) : Bool :=
  row.baseOrderId = baseOrderId ∧ row.status = .offered

def declineAllOffered (addons : AddonPurchases) (baseOrderId : String) : AddonPurchases :=
  addons.modify (declinable baseOrderId) declined key_declined

/-! ## Sums -/

/-- `sum_price_minor_by_status`. -/
def sumPriceMinorByStatus (addons : AddonPurchases) (status : AddonStatus) : Int :=
  ((addons.rows.filter fun row => row.status = status).map AddonPurchaseRecord.priceMinor).sum

/-! ## What becomes of a row -/

/-- The moves of a row's status: an add-on is shown, declined, taken up, and ends. -/
inductive Moves : Option AddonStatus → AddonStatus → Prop where
  | shown : Moves none .offered
  | declined : Moves (some .offered) .declined
  | boughtUnseen : Moves none .pending
  | bought : Moves (some .offered) .pending
  | settled : Moves (some .pending) .settled
  | failed : Moves (some .pending) .failed

theorem recordOfferedRow_moves {id : String} {key : AddonKey} {priceMinor : Int} {currency : String}
    {found : Option AddonPurchaseRecord} {row : AddonPurchaseRecord}
    (written : recordOfferedRow id key priceMinor currency found = some row) :
    row.key = key ∧ Moves (found.map AddonPurchaseRecord.status) row.status ∧
      row.status = .offered := by
  cases found with
  | none =>
      cases written
      exact ⟨rfl, .shown, rfl⟩
  | some old => cases written

theorem tryMarkPendingRow_moves {args : PendingArgs} {found : Option AddonPurchaseRecord}
    {row : AddonPurchaseRecord} (written : tryMarkPendingRow args found = some row)
    (named : ∀ old, found = some old → old.key = args.key) :
    row.key = args.key ∧ Moves (found.map AddonPurchaseRecord.status) row.status ∧
      row.status = .pending ∧ row.addonMandateId = some args.addonMandateId ∧
      (∀ old, found = some old → row.priceMinor = old.priceMinor) ∧
      (found = none → row.priceMinor = args.priceMinor) := by
  cases found with
  | none =>
      cases written
      exact ⟨rfl, .boughtUnseen, rfl, rfl, nofun, fun _ => rfl⟩
  | some old =>
      simp only [tryMarkPendingRow] at written
      split at written
      next offered =>
        cases written
        refine ⟨named old rfl, ?_, rfl, rfl, fun _ same => ?_, nofun⟩
        · rw [Option.map_some, offered]
          exact .bought
        · cases same
          rfl
      next => cases written

end Actl.Upsell
