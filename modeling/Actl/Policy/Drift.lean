import Actl.Policy.Bounds
import Actl.Fixture

/-!
# Price drift

The drift rule turns the distance between the quoted and the current total into
basis points, rounds down and compares. Rounding down gives away what is left over:
the rule passes a distance below the next basis point (`priceDelta_passes_iff`). With
no drift allowed at all it still passes a price that moved by less than one part in
ten thousand (`Fixture.drifted_and_allowed`).
-/

set_option autoImplicit false

namespace Actl.Policy

open Mandates (Mandate)

/-- The distance between the two totals, in ten-thousandths of the currency's minor unit. -/
def scaledDrift (intent : PurchaseIntent) : Int :=
  (intent.currentTotalMinor - intent.quotedTotalMinor).natAbs * 10000

theorem deltaBps_of_quoted {intent : PurchaseIntent} (quoted : 0 < intent.quotedTotalMinor) :
    deltaBps intent = scaledDrift intent / intent.quotedTotalMinor := by
  have present : intent.quotedTotalMinor ≠ 0 := by omega
  rw [deltaBps, if_neg present, Int.fdiv_eq_ediv_of_nonneg _ (Int.le_of_lt quoted)]
  rfl

/-- A current total closer to the quoted one drifts by no more basis points. -/
theorem deltaBps_mono {intent intent' : PurchaseIntent} (quoted : 0 < intent.quotedTotalMinor)
    (same : intent'.quotedTotalMinor = intent.quotedTotalMinor)
    (closer : (intent'.currentTotalMinor - intent.quotedTotalMinor).natAbs
      ≤ (intent.currentTotalMinor - intent.quotedTotalMinor).natAbs) :
    deltaBps intent' ≤ deltaBps intent := by
  rw [deltaBps_of_quoted quoted, deltaBps_of_quoted (same ▸ quoted), same]
  refine Int.ediv_le_ediv quoted ?_
  simp only [scaledDrift, same]
  omega

theorem priceDelta_passes (P : Platform) (mandate : Mandate) (intent : PurchaseIntent)
    (ctx : PolicyContext) : (priceDelta P mandate intent ctx).result = .pass ↔
      deltaBps intent ≤ mandate.bounds.maxPriceDeltaBps := by
  simp only [priceDelta, outcome]
  split
  · next within => simpa using within
  · next exceeded => simpa using exceeded

/-- The drift rule passes every distance below the next basis point. -/
theorem priceDelta_passes_iff (P : Platform) (mandate : Mandate) {intent : PurchaseIntent}
    (ctx : PolicyContext) (quoted : 0 < intent.quotedTotalMinor) :
    (priceDelta P mandate intent ctx).result = .pass ↔
      scaledDrift intent < (mandate.bounds.maxPriceDeltaBps + 1) * intent.quotedTotalMinor := by
  rw [priceDelta_passes, deltaBps_of_quoted quoted, ← Int.lt_add_one_iff,
    Int.ediv_lt_iff_lt_mul quoted]

/-- The totals on which rounding down changes nothing: the distance does not fall
inside the first basis point that is too much, and a free quote is not measured
against a tolerance of its whole price. -/
def Unrounded (mandate : Mandate) (intent : PurchaseIntent) : Prop :=
  if intent.quotedTotalMinor = 0 then
    intent.currentTotalMinor = 0 ∨ mandate.bounds.maxPriceDeltaBps < 10000
  else
    ¬(mandate.bounds.maxPriceDeltaBps * intent.quotedTotalMinor < scaledDrift intent ∧
      scaledDrift intent < (mandate.bounds.maxPriceDeltaBps + 1) * intent.quotedTotalMinor)

theorem scaledDrift_eq_zero {intent : PurchaseIntent} :
    scaledDrift intent ≤ 0 ↔ intent.currentTotalMinor = intent.quotedTotalMinor := by
  simp only [scaledDrift]
  omega

/-- The rule and the exact bound agree where rounding changes nothing. -/
theorem priceDelta_exact_iff {P : Platform} {mandate : Mandate} {intent : PurchaseIntent}
    {ctx : PolicyContext} (quoted : 0 ≤ intent.quotedTotalMinor)
    (bps : 0 ≤ mandate.bounds.maxPriceDeltaBps) :
    ((priceDelta P mandate intent ctx).result = .pass ↔
      scaledDrift intent ≤ mandate.bounds.maxPriceDeltaBps * intent.quotedTotalMinor) ↔
        Unrounded mandate intent := by
  by_cases free : intent.quotedTotalMinor = 0
  · rw [priceDelta_passes, Unrounded, if_pos free, free, Int.mul_zero, scaledDrift_eq_zero, free,
      deltaBps, if_pos free]
    split
    · next unmoved => simp [unmoved, bps]
    · next moved => simp [moved]
  · have present : 0 < intent.quotedTotalMinor := by omega
    rw [priceDelta_passes_iff P mandate ctx present, Unrounded, if_neg free, Int.add_mul,
      Int.one_mul]
    omega

/-- An allowed intent passed the drift rule. -/
theorem priceDelta_of_allow {P : Platform} {mandate : Mandate} {intent : PurchaseIntent}
    {ctx : PolicyContext} (allowed : (evaluate P mandate intent ctx).verdict = .allow) :
    (priceDelta P mandate intent ctx).result = .pass :=
  (priceDelta_passes P mandate intent ctx).mpr
    (evaluate_allow_iff_withinBounds.mp allowed).drift

/-- The drift rule is exact, and without tolerance an allowed price is the quoted
one, on exactly the totals on which rounding down changes nothing. -/
theorem price_delta_exact_iff_unrounded (P : Platform) (mandate : Mandate)
    (intent : PurchaseIntent) (ctx : PolicyContext) (quoted : 0 ≤ intent.quotedTotalMinor)
    (bps : 0 ≤ mandate.bounds.maxPriceDeltaBps) :
    (((priceDelta P mandate intent ctx).result = .pass ↔
        ((intent.currentTotalMinor - intent.quotedTotalMinor).natAbs : Int) * 10000
          ≤ mandate.bounds.maxPriceDeltaBps * intent.quotedTotalMinor) ∧
      (mandate.bounds.maxPriceDeltaBps = 0 →
        (evaluate P mandate intent ctx).verdict = .allow →
          intent.currentTotalMinor = intent.quotedTotalMinor)) ↔
      Unrounded mandate intent := by
  have rule : _ ↔ Unrounded mandate intent :=
    @priceDelta_exact_iff P mandate intent ctx quoted bps
  rw [← rule]
  refine ⟨And.left, fun exact => ⟨exact, fun none allowed => ?_⟩⟩
  have within := exact.mp (priceDelta_of_allow allowed)
  rw [none, Int.zero_mul] at within
  exact scaledDrift_eq_zero.mp within

namespace Fixture

open Actl.Fixture (platform mandate intentOf seaView seaViewHash start)

/-- The context of the first purchase. -/
def context : PolicyContext where
  now := start
  reservedMinor := 0
  txnCount := 0
  catalogVersion := 1
  decisionId := "dec_1"
  decisionTtlS := 30

/-- The first purchase after the price rose by less than a basis point. -/
def drifted : PurchaseIntent :=
  { intentOf seaView seaViewHash with currentTotalMinor := 420041 }

/-- The drift rule passes a purchase whose price moved although none may move, and
the policy allows it. -/
theorem drifted_and_allowed :
    mandate.bounds.maxPriceDeltaBps = 0 ∧
      drifted.quotedTotalMinor = 420000 ∧ drifted.currentTotalMinor = 420041 ∧
      (priceDelta platform mandate drifted context).result = .pass ∧
      ¬(((drifted.currentTotalMinor - drifted.quotedTotalMinor).natAbs : Int) * 10000
        ≤ mandate.bounds.maxPriceDeltaBps * drifted.quotedTotalMinor) ∧
      (evaluate platform mandate
        { drifted with intentHash := computeIntentHash platform drifted } context).verdict
          = .allow := by
  decide +kernel

/-- On an unmoved price the rule and the bound agree. -/
theorem unmoved_is_exact :
    (priceDelta platform mandate (intentOf seaView seaViewHash) context).result = .pass ↔
      (0 : Int) ≤ mandate.bounds.maxPriceDeltaBps * 420000 :=
  ((price_delta_exact_iff_unrounded platform mandate (intentOf seaView seaViewHash) context
    (by decide) (by decide)).mpr (by unfold Unrounded; decide)).1

end Fixture

end Actl.Policy
