import Actl.Agents.Buyer

/-!
# Add-on offers

Eligibility and pricing of `application/upsell_service.py`. The category of an add-on
says how its price is multiplied; the multiplier is also the number of nights its
quote is made for, so that offer and quote come to the same total at the same price.
-/

set_option autoImplicit false

namespace Actl.Upsell

open Agents (CatalogItemRow)

/-- `_ADDON_CATEGORY_PREFIX`. -/
def addonCategoryPrefix : String := "travel.addon."

/-- `_HOTEL_CATEGORY`. -/
def hotelCategory : String := "travel.hotel"

def isAddon (item : CatalogItemRow) : Bool :=
  addonCategoryPrefix.toList.isPrefixOf item.category.toList

/-- `_OFFER_TITLES`. -/
def offerTitles : List (String × String) := [
  ("ADDON-BREAKFAST-GOA", "Daily breakfast"),
  ("ADDON-AIRPORT-PICKUP-GOA", "Airport pickup"),
  ("ADDON-ROOM-UPGRADE-GOA", "Room upgrade")]

structure BaseOrderContext where
  mandateId : String
  nights : Int
  rooms : Int
  locationCity : String
  locationCountry : String
  deriving DecidableEq

structure EligibleOffer where
  sku : String
  category : String
  title : String
  unitPriceMinor : Int
  totalMinor : Int
  currency : String
  refundable : Bool
  quantityDescription : String
  quantity : Int
  deriving DecidableEq

/-- `_pricing_multiplier`. -/
def pricingMultiplier (category : String) (nights rooms : Int) : Option Int :=
  if category = addonCategoryPrefix ++ "flat" then some 1
  else if category = addonCategoryPrefix ++ "per_night" then some nights
  else if category = addonCategoryPrefix ++ "per_guest_per_night" then some (nights * rooms)
  else none

def plural (n : Int) : String := if n ≠ 1 then "s" else ""

/-- `_describe_quantity`. -/
def describeQuantity (category : String) (nights rooms : Int) : String :=
  if category = addonCategoryPrefix ++ "flat" then "one-time"
  else if category = addonCategoryPrefix ++ "per_night" then
    toString nights ++ " night" ++ plural nights
  else if category = addonCategoryPrefix ++ "per_guest_per_night" then
    toString rooms ++ " guest" ++ plural rooms ++ " x " ++ toString nights ++ " night" ++ plural nights
  else ""

/-- `_to_offer`. -/
def toOffer (addon : CatalogItemRow) (nights rooms : Int) : Option EligibleOffer :=
  match pricingMultiplier addon.category nights rooms with
  | none => none
  | some multiplier =>
      if multiplier ≤ 0 then none
      else some
        { sku := addon.sku
          category := addon.category
          title := (offerTitles.lookup addon.sku).getD addon.sku
          unitPriceMinor := addon.unitPriceMinor
          totalMinor := addon.unitPriceMinor * multiplier
          currency := "INR"
          refundable := addon.refundable
          quantityDescription := describeQuantity addon.category nights rooms
          quantity := multiplier }

/-- An offer is priced at its item's price, as often as it says. -/
theorem toOffer_eq_some {addon : CatalogItemRow} {nights rooms : Int} {offer : EligibleOffer}
    (made : toOffer addon nights rooms = some offer) :
    offer.sku = addon.sku ∧ offer.category = addon.category ∧ 0 < offer.quantity ∧
      offer.totalMinor = addon.unitPriceMinor * offer.quantity := by
  unfold toOffer at made
  split at made
  next => cases made
  next multiplier priced =>
    split at made
    next => cases made
    next positive =>
      cases made
      exact ⟨rfl, rfl, Int.not_le.mp positive, rfl⟩

end Actl.Upsell
