import Mathlib.Algebra.Order.Field.Rat
import Mathlib.Data.Nat.Log
import Mathlib.Tactic.FieldSimp
import Mathlib.Tactic.Linarith
import Mathlib.Tactic.Positivity
import Mathlib.Tactic.Ring

/-!
# Decimal arithmetic in a context

Decimal floating-point numbers without a sign: a coefficient and a power of ten. A
context bounds the number of digits and the exponent. A result that does not fit is
rounded, half to even (`DecimalContext.round`), and a result that is too large is an
overflow (`DecimalContext.finalize`).

Two facts about products are needed where amounts are computed: a number that fits is
its own result (`round_of_fits`), and multiplying a result by a hundred is exact
(`value_hundredfold`).
-/

set_option autoImplicit false

namespace Actl.Foundation

/-- A coefficient and a power of ten. -/
structure DecimalNumber where
  coefficient : Nat
  exponent : Int
  deriving DecidableEq, Repr

namespace DecimalNumber

def value (x : DecimalNumber) : ℚ := x.coefficient * (10 : ℚ) ^ x.exponent

def digitCount (n : Nat) : Nat := Nat.log 10 n + 1

/-- The exponent of the leading digit. -/
def adjusted (x : DecimalNumber) : Int := x.exponent + (digitCount x.coefficient - 1 : Nat)

def scale (x : DecimalNumber) (n : Nat) : DecimalNumber := ⟨x.coefficient * n, x.exponent⟩

/-- The number is whole. -/
def isWhole (x : DecimalNumber) : Bool :=
  0 ≤ x.exponent || x.coefficient % 10 ^ (-x.exponent).toNat = 0

/-- A whole number as an integer. -/
def toNat (x : DecimalNumber) : Nat :=
  if 0 ≤ x.exponent then x.coefficient * 10 ^ x.exponent.toNat
  else x.coefficient / 10 ^ (-x.exponent).toNat

theorem value_scale (x : DecimalNumber) (n : Nat) : (x.scale n).value = n * x.value := by
  simp only [value, scale, Nat.cast_mul]
  ring

theorem value_nonneg (x : DecimalNumber) : 0 ≤ x.value :=
  mul_nonneg (Nat.cast_nonneg _) (zpow_nonneg (by norm_num) _)

theorem value_eq_zero_iff (x : DecimalNumber) : x.value = 0 ↔ x.coefficient = 0 := by
  rw [value, mul_eq_zero, Nat.cast_eq_zero]
  exact or_iff_left (zpow_ne_zero _ (by norm_num))

/-- The power of ten of an exponent below zero. -/
theorem pow_neg_exponent {e : Int} (below : ¬ 0 ≤ e) :
    (10 : ℚ) ^ e * (10 ^ (-e).toNat : ℕ) = 1 := by
  have positive : ((-e).toNat : Int) = -e := Int.toNat_of_nonneg (by omega)
  rw [Nat.cast_pow, Nat.cast_ofNat, ← zpow_natCast, positive, ← zpow_add₀ (by norm_num),
    add_neg_cancel, zpow_zero]

theorem pow_exponent {e : Int} (above : 0 ≤ e) : (10 : ℚ) ^ e = (10 ^ e.toNat : ℕ) := by
  have same : (e.toNat : Int) = e := Int.toNat_of_nonneg above
  rw [Nat.cast_pow, Nat.cast_ofNat, ← zpow_natCast, same]

theorem value_eq_toNat {x : DecimalNumber} (whole : x.isWhole = true) : x.value = x.toNat := by
  unfold isWhole at whole
  rw [value, toNat]
  by_cases above : 0 ≤ x.exponent
  · rw [if_pos above, pow_exponent above, Nat.cast_mul]
  · rw [if_neg above]
    simp only [above, decide_false, Bool.false_or, decide_eq_true_eq] at whole
    have split : x.coefficient = 10 ^ (-x.exponent).toNat
        * (x.coefficient / 10 ^ (-x.exponent).toNat) :=
      (Nat.mul_div_cancel' (Nat.dvd_of_mod_eq_zero whole)).symm
    have unit := pow_neg_exponent above
    calc (x.coefficient : ℚ) * 10 ^ x.exponent
        = (10 ^ (-x.exponent).toNat * (x.coefficient / 10 ^ (-x.exponent).toNat) : ℕ)
            * 10 ^ x.exponent := by rw [← split]
      _ = (x.coefficient / 10 ^ (-x.exponent).toNat : ℕ)
            * (10 ^ x.exponent * (10 ^ (-x.exponent).toNat : ℕ)) := by
          rw [Nat.cast_mul]
          ring
      _ = (x.coefficient / 10 ^ (-x.exponent).toNat : ℕ) := by rw [unit, mul_one]

theorem isWhole_iff (x : DecimalNumber) : x.isWhole = true ↔ ∃ n : ℕ, x.value = n := by
  refine ⟨fun whole => ⟨x.toNat, value_eq_toNat whole⟩, ?_⟩
  rintro ⟨n, same⟩
  unfold isWhole
  by_cases above : 0 ≤ x.exponent
  · simp [above]
  · have unit := pow_neg_exponent above
    have product : x.coefficient = n * 10 ^ (-x.exponent).toNat := by
      have lifted : (x.coefficient : ℚ) = (n * 10 ^ (-x.exponent).toNat : ℕ) := by
        rw [Nat.cast_mul, ← same, value, mul_assoc, unit, mul_one]
      exact_mod_cast lifted
    simp [product]

end DecimalNumber

open DecimalNumber

/-! ## Rounding -/

/-- Division, rounding half to even. -/
def halfEven (n unit : Nat) : Nat :=
  if 2 * (n % unit) < unit then n / unit
  else if unit < 2 * (n % unit) then n / unit + 1
  else if n / unit % 2 = 0 then n / unit else n / unit + 1

theorem halfEven_of_dvd {n unit : Nat} (positive : 0 < unit) (divides : unit ∣ n) :
    halfEven n unit = n / unit := by
  rw [halfEven, Nat.mod_eq_zero_of_dvd divides, if_pos (by omega)]

theorem halfEven_le (n : Nat) {unit : Nat} : halfEven n unit ≤ n / unit + 1 := by
  unfold halfEven
  split
  · omega
  split
  · omega
  split
  · omega
  · omega

structure DecimalContext where
  prec : Nat
  emin : Int
  emax : Int
  positive : 0 < prec

namespace DecimalContext

variable (ctx : DecimalContext)

/-- The least exponent a number can have. -/
def etiny : Int := ctx.emin - (ctx.prec - 1 : Nat)

/-- How many digits of the number are too many. -/
def excess (x : DecimalNumber) : Nat :=
  max (digitCount x.coefficient - ctx.prec) (ctx.etiny - x.exponent).toNat

def round (x : DecimalNumber) : DecimalNumber :=
  ⟨halfEven x.coefficient (10 ^ ctx.excess x), x.exponent + ctx.excess x⟩

/-- The rounded number, unless it is too large. -/
def finalize (x : DecimalNumber) : Option DecimalNumber :=
  if (ctx.round x).coefficient ≠ 0 ∧ ctx.emax < (ctx.round x).adjusted then none
  else some (ctx.round x)

/-- The number has no more digits than the context and its exponent is in range. -/
structure Fits (x : DecimalNumber) : Prop where
  digits : digitCount x.coefficient ≤ ctx.prec
  tiny : ctx.etiny ≤ x.exponent
  large : x.adjusted ≤ ctx.emax

variable {ctx}

theorem round_of_fits {x : DecimalNumber} (fits : ctx.Fits x) : ctx.round x = x := by
  have none : ctx.excess x = 0 := by
    have digits := fits.digits
    have tiny := fits.tiny
    rw [excess]
    omega
  rw [round, none, Nat.pow_zero, halfEven_of_dvd Nat.one_pos (one_dvd _), Nat.div_one]
  simp

theorem finalize_of_fits {x : DecimalNumber} (fits : ctx.Fits x) : ctx.finalize x = some x := by
  rw [finalize, round_of_fits fits, if_neg]
  exact fun tooLarge => absurd tooLarge.2 (not_lt.mpr fits.large)

theorem eq_round_of_finalize {x r : DecimalNumber} (done : ctx.finalize x = some r) :
    r = ctx.round x := by
  rw [finalize] at done
  split at done
  · cases done
  · exact (Option.some.inj done).symm

/-- Rounding is exact when only zeros are cut off. -/
theorem value_round_of_dvd {x : DecimalNumber} (zeros : 10 ^ ctx.excess x ∣ x.coefficient) :
    (ctx.round x).value = x.value := by
  have split := Nat.div_mul_cancel zeros
  rw [round, halfEven_of_dvd (by positivity) zeros, DecimalNumber.value, DecimalNumber.value,
    zpow_add₀ (by norm_num), zpow_natCast]
  calc ((x.coefficient / 10 ^ ctx.excess x : ℕ) : ℚ) * (10 ^ x.exponent * 10 ^ ctx.excess x)
      = ((x.coefficient / 10 ^ ctx.excess x * 10 ^ ctx.excess x : ℕ) : ℚ) * 10 ^ x.exponent := by
        rw [Nat.cast_mul, Nat.cast_pow, Nat.cast_ofNat]
        ring
    _ = x.coefficient * 10 ^ x.exponent := by rw [split]

theorem digitCount_le_iff {n k : Nat} (positive : 0 < k) : digitCount n ≤ k ↔ n < 10 ^ k := by
  rw [digitCount, Nat.succ_le_iff]
  cases n with
  | zero => simp [positive]
  | succ n => exact Nat.log_lt_iff_lt_pow (by norm_num) (by omega)

/-- A rounded coefficient has at most the digits of the context, or is the next power
of ten. -/
theorem round_coefficient_le (x : DecimalNumber) : (ctx.round x).coefficient ≤ 10 ^ ctx.prec := by
  have large : x.coefficient < 10 ^ (ctx.prec + ctx.excess x) := by
    rw [← digitCount_le_iff (Nat.add_pos_left ctx.positive _)]
    have most := Nat.le_max_left (digitCount x.coefficient - ctx.prec)
      (ctx.etiny - x.exponent).toNat
    rw [← excess] at most
    omega
  have quotient : x.coefficient / 10 ^ ctx.excess x < 10 ^ ctx.prec := by
    rw [Nat.div_lt_iff_lt_mul (by positivity), ← Nat.pow_add]
    exact large
  calc (ctx.round x).coefficient ≤ x.coefficient / 10 ^ ctx.excess x + 1 := halfEven_le _
    _ ≤ 10 ^ ctx.prec := quotient

/-- A result that stays well below the largest exponent is no overflow. -/
theorem finalize_of_le {x : DecimalNumber}
    (low : x.exponent + ctx.excess x + ctx.prec ≤ ctx.emax) :
    ctx.finalize x = some (ctx.round x) := by
  have digits : digitCount (ctx.round x).coefficient ≤ ctx.prec + 1 := by
    rw [digitCount_le_iff (Nat.succ_pos _)]
    exact Nat.lt_of_le_of_lt (round_coefficient_le x)
      (Nat.pow_lt_pow_right (by norm_num) (Nat.lt_succ_self _))
  have exponent : (ctx.round x).exponent = x.exponent + ctx.excess x := rfl
  rw [finalize, if_neg]
  rintro ⟨-, large⟩
  rw [adjusted, exponent] at large
  omega

theorem etiny_le_round (x : DecimalNumber) : ctx.etiny ≤ (ctx.round x).exponent := by
  have most := Nat.le_max_right (digitCount x.coefficient - ctx.prec)
    (ctx.etiny - x.exponent).toNat
  rw [← excess] at most
  have exponent : (ctx.round x).exponent = x.exponent + ctx.excess x := rfl
  omega

/-- A hundred times a rounded number is exact, as far as it is in range: the digits
that are too many are zeros. -/
theorem value_hundredfold {x r : DecimalNumber}
    (done : ctx.finalize ((ctx.round x).scale 100) = some r) :
    r.value = 100 * (ctx.round x).value := by
  have small : (ctx.round x).coefficient ≤ 10 ^ ctx.prec := round_coefficient_le x
  have tiny : ctx.etiny ≤ (ctx.round x).exponent := etiny_le_round x
  rw [eq_round_of_finalize done]
  have zeros : 10 ^ ctx.excess ((ctx.round x).scale 100)
      ∣ ((ctx.round x).scale 100).coefficient := by
    have count : ctx.excess ((ctx.round x).scale 100)
        = digitCount ((ctx.round x).coefficient * 100) - ctx.prec := by
      rw [excess, scale]
      dsimp only
      omega
    rw [count, scale]
    dsimp only
    rcases Nat.lt_or_eq_of_le small with below | power
    · have digits : digitCount ((ctx.round x).coefficient * 100) ≤ ctx.prec + 2 := by
        rw [digitCount_le_iff (by omega), Nat.pow_add]
        omega
      exact (Nat.pow_dvd_pow 10 (by omega : _ ≤ 2)).trans (Dvd.intro_left _ rfl)
    · have digits : digitCount ((ctx.round x).coefficient * 100) ≤ ctx.prec + 3 := by
        rw [digitCount_le_iff (by omega), Nat.pow_add, power]
        have positive : 0 < 10 ^ ctx.prec := by positivity
        omega
      have hundred : (ctx.round x).coefficient * 100 = 10 ^ (ctx.prec + 2) := by
        rw [power, Nat.pow_add]
      rw [hundred] at digits ⊢
      have positive := ctx.positive
      exact Nat.pow_dvd_pow 10 (by omega)
  rw [value_round_of_dvd zeros, value_scale]
  norm_num

end DecimalContext

end Actl.Foundation
