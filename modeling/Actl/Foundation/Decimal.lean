import Mathlib.Algebra.Order.Field.Rat
import Mathlib.Data.Nat.Digits.Lemmas
import Mathlib.Tactic.Linarith
import Mathlib.Tactic.Positivity
import Mathlib.Tactic.Ring

/-!
# Decimal digits and doubles

A decimal is a list of digits, most significant first, and a power of ten. It is in its
shortest form when it has neither leading nor trailing zeros (`Shortest`).

A finite double is a mantissa and a power of two. The decimal that a runtime prints for
it is the shortest one that is read back as the double, and among those of that length
the closest one (`Prints`). Below 2⁵³ a whole double prints as itself
(`prints_whole`).
-/

set_option autoImplicit false

namespace Actl.Foundation

/-! ## Digits -/

/-- The natural number with the given decimal digits. -/
def decimal (digits : List Nat) : Nat := digits.foldl (fun n d => 10 * n + d) 0

/-- Decimal digits without leading or trailing zeros; zero has none. -/
structure Shortest (digits : List Nat) : Prop where
  small : ∀ d ∈ digits, d < 10
  leading : digits.head? ≠ some 0
  trailing : digits.getLast? ≠ some 0

theorem decimal_append_singleton (digits : List Nat) (d : Nat) :
    decimal (digits ++ [d]) = 10 * decimal digits + d := by
  simp [decimal, List.foldl_append]

theorem decimal_zeros (digits : List Nat) (n : Nat) :
    decimal (digits ++ List.replicate n 0) = decimal digits * 10 ^ n := by
  induction n with
  | zero => simp
  | succ n ih =>
      rw [List.replicate_succ', ← List.append_assoc, decimal_append_singleton, ih, Nat.pow_succ,
        Nat.add_zero, Nat.mul_comm 10, Nat.mul_assoc]

theorem decimal_lt {digits : List Nat} (small : ∀ d ∈ digits, d < 10) :
    decimal digits < 10 ^ digits.length := by
  induction digits using List.reverseRecOn with
  | nil => decide
  | append_singleton digits d ih =>
      have digit : d < 10 := small d (List.mem_append_right _ List.mem_cons_self)
      have front := ih fun d member => small d (List.mem_append_left _ member)
      rw [decimal_append_singleton, List.length_append, List.length_singleton, Nat.pow_succ]
      omega

theorem le_decimal {digits : List Nat} (present : digits ≠ []) (leading : digits.head? ≠ some 0) :
    10 ^ (digits.length - 1) ≤ decimal digits := by
  induction digits using List.reverseRecOn with
  | nil => exact absurd rfl present
  | append_singleton digits d ih =>
      rw [decimal_append_singleton, List.length_append, List.length_singleton, Nat.add_sub_cancel]
      cases digits with
      | nil =>
          have nonzero : d ≠ 0 := fun zero => leading (by rw [zero]; rfl)
          have none : decimal [] = 0 := rfl
          rw [none, List.length_nil, Nat.pow_zero]
          omega
      | cons first digits =>
          have front := ih (by simp) leading
          rw [List.length_cons, Nat.add_sub_cancel] at front
          rw [List.length_cons, Nat.pow_succ]
          omega

/-- A shortest decimal is not a multiple of ten. -/
theorem Shortest.mod_ten {digits : List Nat} (shortest : Shortest digits) (present : digits ≠ []) :
    decimal digits % 10 ≠ 0 := by
  rcases List.eq_nil_or_concat' digits with none | ⟨front, d, rfl⟩
  · exact absurd none present
  · have digit : d < 10 := shortest.small d (List.mem_append_right _ List.mem_cons_self)
    have nonzero : d ≠ 0 := fun zero => shortest.trailing (by rw [zero]; simp)
    rw [decimal_append_singleton]
    omega

theorem Shortest.pos {digits : List Nat} (shortest : Shortest digits) (present : digits ≠ []) :
    0 < decimal digits :=
  Nat.pos_of_ne_zero fun zero => shortest.mod_ten present (by rw [zero])

/-- Every positive number has a shortest decimal, no longer than the number is wide. -/
theorem exists_shortest {n : Nat} (positive : 0 < n) :
    ∃ digits power, Shortest digits ∧ digits ≠ [] ∧ decimal digits * 10 ^ power = n := by
  induction n using Nat.strongRecOn with
  | ind n ih =>
      by_cases round : n % 10 = 0
      · obtain ⟨digits, power, shortest, present, value⟩ := ih (n / 10) (by omega) (by omega)
        refine ⟨digits, power + 1, shortest, present, ?_⟩
        rw [Nat.pow_succ, ← Nat.mul_assoc, value]
        omega
      · have last : (Nat.digits 10 n).head? = some (n % 10) := by
          rw [Nat.digits_def' (by decide) positive, List.head?_cons]
        have present : Nat.digits 10 n ≠ [] := Nat.digits_ne_nil_iff_ne_zero.mpr (by omega)
        refine ⟨(Nat.digits 10 n).reverse, 0, ⟨fun d member => ?_, fun zero => ?_, fun zero => ?_⟩,
          by simpa using present, ?_⟩
        · exact Nat.digits_lt_base (by decide) (List.mem_reverse.mp member)
        · rw [List.head?_reverse, List.getLast?_eq_some_getLast present, Option.some.injEq] at zero
          exact Nat.getLast_digit_ne_zero 10 (by omega) zero
        · rw [List.getLast?_reverse, last, Option.some.injEq] at zero
          exact round zero
        · rw [Nat.pow_zero, Nat.mul_one]
          have folded : ∀ digits : List Nat, decimal digits.reverse = Nat.ofDigits 10 digits := by
            intro digits
            induction digits with
            | nil => rfl
            | cons d digits later =>
                rw [List.reverse_cons, decimal_append_singleton, later, Nat.ofDigits_cons]
                omega
          rw [folded, Nat.ofDigits_digits]

/-! ## Doubles -/

/-- The magnitude of a finite double, its mantissa as large as the range of powers allows. -/
structure Double where
  mantissa : Nat
  power : Int
  short : mantissa < 2 ^ 53
  inRange : -1074 ≤ power ∧ power ≤ 971
  normal : 2 ^ 52 ≤ mantissa ∨ power = -1074

def Double.value (x : Double) : ℚ := x.mantissa * (2 : ℚ) ^ x.power

theorem Double.value_nonneg (x : Double) : 0 ≤ x.value :=
  mul_nonneg (Nat.cast_nonneg _) (le_of_lt (zpow_pos (by norm_num) _))

/-- Reading a decimal yields the closest double, on a tie the one with the even mantissa. -/
structure RoundsTo (q : ℚ) (x : Double) : Prop where
  nearest : ∀ y : Double, |q - x.value| ≤ |q - y.value|
  even : ∀ y : Double, y.value ≠ x.value → |q - x.value| = |q - y.value| → x.mantissa % 2 = 0

/-- The value of a decimal. -/
def decimalValue (digits : List Nat) (exponent : Int) : ℚ :=
  (decimal digits : ℚ) * (10 : ℚ) ^ exponent

/-- The decimal that is printed for a double: the shortest that is read back as the
double, and no other of that length is closer. -/
structure Prints (x : Double) (digits : List Nat) (exponent : Int) : Prop where
  shortest : Shortest digits
  zero : digits = [] ↔ x.mantissa = 0
  reads : RoundsTo (decimalValue digits exponent) x
  least : ∀ digits' exponent', Shortest digits' → RoundsTo (decimalValue digits' exponent') x →
    digits.length ≤ digits'.length
  closest : ∀ digits' exponent', Shortest digits' → digits'.length = digits.length →
    RoundsTo (decimalValue digits' exponent') x →
      |decimalValue digits exponent - x.value| ≤ |decimalValue digits' exponent' - x.value|

/-- A double is read back from its own value. -/
theorem roundsTo_value (x : Double) : RoundsTo x.value x where
  nearest y := by
    rw [sub_self, abs_zero]
    exact abs_nonneg _
  even y other same := by
    rw [sub_self, abs_zero, eq_comm, abs_eq_zero, sub_eq_zero] at same
    exact absurd same.symm other

/-- Every number up to 2⁵³, scaled by a power of two, is a double. -/
theorem exists_double {n : Nat} (short : n ≤ 2 ^ 53) (power : Int) (low : -1000 ≤ power)
    (high : power ≤ 900) : ∃ x : Double, x.value = n * (2 : ℚ) ^ power := by
  rcases Nat.eq_zero_or_pos n with rfl | positive
  · refine ⟨⟨0, -1074, by decide, by decide, .inr rfl⟩, ?_⟩
    rw [Double.value, Nat.cast_zero, zero_mul, zero_mul]
  rcases Nat.eq_or_lt_of_le short with rfl | short
  · refine ⟨⟨2 ^ 52, power + 1, by decide, by omega, .inl (Nat.le_refl _)⟩, ?_⟩
    rw [Double.value, zpow_add_one₀ (by norm_num)]
    push_cast
    ring
  have floor : 2 ^ Nat.log 2 n ≤ n := Nat.pow_log_le_self 2 (by omega)
  have ceiling : n < 2 ^ (Nat.log 2 n + 1) := Nat.lt_pow_succ_log_self (by decide) n
  have width : Nat.log 2 n ≤ 52 := by
    have bits : Nat.log 2 n < 53 := Nat.log_lt_of_lt_pow (by omega) short
    omega
  have least : 2 ^ 52 ≤ n * 2 ^ (52 - Nat.log 2 n) := by
    have scale : 2 ^ Nat.log 2 n * 2 ^ (52 - Nat.log 2 n) = 2 ^ 52 := by
      rw [← Nat.pow_add, Nat.add_sub_cancel' width]
    rw [← scale]
    exact Nat.mul_le_mul_right _ floor
  have greatest : n * 2 ^ (52 - Nat.log 2 n) < 2 ^ 53 := by
    have scale : 2 ^ (Nat.log 2 n + 1) * 2 ^ (52 - Nat.log 2 n) = 2 ^ 53 := by
      rw [← Nat.pow_add]
      congr 1
      omega
    rw [← scale]
    exact Nat.mul_lt_mul_of_pos_right ceiling (Nat.two_pow_pos _)
  refine ⟨⟨n * 2 ^ (52 - Nat.log 2 n), power - (52 - Nat.log 2 n : Nat), greatest, by omega,
    .inl least⟩, ?_⟩
  rw [Double.value]
  push_cast
  rw [mul_assoc, ← zpow_natCast, ← zpow_add₀ (by norm_num)]
  congr 2
  omega

/-! ## Whole doubles -/

theorem le_of_abs_le {q v d : ℚ} (positive : 0 < d) (below : |q - v| ≤ |q - (v - d)|) :
    v - d / 2 ≤ q := by
  rw [← sq_le_sq] at below
  nlinarith

theorem ge_of_abs_le {q v d : ℚ} (positive : 0 < d) (above : |q - v| ≤ |q - (v + d)|) :
    q ≤ v + d / 2 := by
  rw [← sq_le_sq] at above
  nlinarith

/-- What is read as a whole number below 2⁵³ lies within a half of it. -/
theorem RoundsTo.within_half {q : ℚ} {x : Double} (reads : RoundsTo q x) {n : Nat}
    (positive : 0 < n) (short : n < 2 ^ 53) (whole : x.value = n) :
    (n : ℚ) - 1 / 2 ≤ q ∧ q ≤ n + 1 / 2 := by
  obtain ⟨above, up⟩ := exists_double (show n + 1 ≤ 2 ^ 53 by omega) 0 (by decide) (by decide)
  obtain ⟨below, down⟩ := exists_double (show n - 1 ≤ 2 ^ 53 by omega) 0 (by decide) (by decide)
  have nearer := reads.nearest above
  have nearer' := reads.nearest below
  rw [up, whole] at nearer
  rw [down, whole] at nearer'
  push_cast [Nat.cast_sub (show 1 ≤ n from positive)] at nearer nearer'
  rw [mul_one] at nearer nearer'
  exact ⟨le_of_abs_le one_pos nearer', ge_of_abs_le one_pos nearer⟩

/-- What is read as one is more than 31/32. -/
theorem RoundsTo.near_one {q : ℚ} {x : Double} (reads : RoundsTo q x) (one : x.value = 1) :
    31 / 32 ≤ q := by
  obtain ⟨below, down⟩ := exists_double (show 15 ≤ 2 ^ 53 by decide) (-4) (by decide) (by decide)
  have nearer := reads.nearest below
  have step : below.value = 1 - 1 / 16 := by
    rw [down]
    norm_num
  rw [step, one] at nearer
  have bound := le_of_abs_le (by norm_num) nearer
  linarith

/-- A decimal with a fraction, multiplied by a power of ten that makes it whole. -/
theorem decimalValue_broken (digits : List Nat) {exponent : Int} (broken : exponent < 0) {q : ℚ}
    (positive : 0 ≤ q) (least : q ≤ decimalValue digits exponent) :
    10 * q ≤ (decimal digits : ℚ) := by
  obtain ⟨power, rfl⟩ : ∃ power : Nat, exponent = -((power : Int) + 1) :=
    ⟨(-exponent - 1).toNat, by omega⟩
  have ten : (0 : ℚ) < 10 ^ (power + 1) := by positivity
  have value : decimalValue digits (-((power : Int) + 1)) * 10 ^ (power + 1)
      = (decimal digits : ℚ) := by
    rw [decimalValue, zpow_neg, ← Nat.cast_succ, zpow_natCast, mul_assoc,
      inv_mul_cancel₀ (ne_of_gt ten), mul_one]
  have scaled := mul_le_mul_of_nonneg_right least (le_of_lt ten)
  rw [value] at scaled
  have large : (10 : ℚ) ≤ 10 ^ (power + 1) := by
    rw [pow_succ]
    have one : (1 : ℚ) ≤ 10 ^ power := one_le_pow₀ (by norm_num)
    linarith
  calc 10 * q = q * 10 := mul_comm _ _
    _ ≤ q * 10 ^ (power + 1) := mul_le_mul_of_nonneg_left large positive
    _ ≤ decimal digits := scaled

/-- A whole number below 2⁵³ prints as itself. -/
theorem prints_whole {x : Double} {n : Nat} (positive : 0 < n) (short : n < 2 ^ 53)
    (whole : x.value = n) {digits : List Nat} {exponent : Int} (prints : Prints x digits exponent) :
    decimalValue digits exponent = n := by
  have present : digits ≠ [] := by
    intro none
    rw [Double.value, prints.zero.mp none, Nat.cast_zero, zero_mul] at whole
    have zero : n = 0 := by exact_mod_cast whole.symm
    omega
  obtain ⟨low, high⟩ := prints.reads.within_half positive short whole
  by_cases whole' : 0 ≤ exponent
  · -- A whole number within a half of another one is that number.
    obtain ⟨power, rfl⟩ := Int.eq_ofNat_of_zero_le whole'
    have value : decimalValue digits power = ((decimal digits * 10 ^ power : Nat) : ℚ) := by
      rw [decimalValue]
      push_cast
      rw [zpow_natCast]
    rw [value] at low high ⊢
    have least : n < decimal digits * 10 ^ power + 1 := by
      have cast : (n : ℚ) < ((decimal digits * 10 ^ power + 1 : Nat) : ℚ) := by
        push_cast at low ⊢
        linarith
      exact_mod_cast cast
    have greatest : decimal digits * 10 ^ power < n + 1 := by
      have cast : ((decimal digits * 10 ^ power : Nat) : ℚ) < ((n + 1 : Nat) : ℚ) := by
        push_cast at high ⊢
        linarith
      exact_mod_cast cast
    have same : decimal digits * 10 ^ power = n := by omega
    rw [same]
  · -- A fraction would take more digits than the number itself.
    exfalso
    have broken : exponent < 0 := by omega
    obtain ⟨digits', power, shortest', present', value'⟩ := exists_shortest positive
    have exact : decimalValue digits' power = x.value := by
      rw [whole, ← value', decimalValue]
      push_cast
      rw [zpow_natCast]
    have length := prints.least digits' power shortest' (exact ▸ roundsTo_value x)
    have below := decimal_lt prints.shortest.small
    have large := le_decimal present' shortest'.leading
    have nonempty : 0 < digits'.length := List.length_pos_iff.mpr present'
    have wide : 10 ^ digits.length ≤ 10 ^ digits'.length := Nat.pow_le_pow_right (by decide) length
    have power' : 10 ^ digits'.length = 10 * 10 ^ (digits'.length - 1) := by
      rw [← Nat.pow_succ']
      congr 1
      omega
    have part : decimal digits' ≤ n := by
      rw [← value']
      exact Nat.le_mul_of_pos_right _ (Nat.pow_pos (by decide))
    have one' : (1 : ℚ) ≤ n := by exact_mod_cast positive
    have scaled := decimalValue_broken digits broken (by linarith) low
    have scaled' : 10 * n ≤ decimal digits + 5 := by
      have cast : ((10 * n : Nat) : ℚ) ≤ ((decimal digits + 5 : Nat) : ℚ) := by
        push_cast
        linarith
      exact_mod_cast cast
    have single : n = 1 := by
      have same : decimal digits' = 10 ^ (digits'.length - 1) := by omega
      have odd := shortest'.mod_ten present'
      rw [same] at odd
      have short' : digits'.length - 1 = 0 := by
        by_contra more
        obtain ⟨m, size⟩ : ∃ m, digits'.length - 1 = m + 1 := ⟨digits'.length - 2, by omega⟩
        rw [size, Nat.pow_succ, Nat.mul_mod_left] at odd
        exact odd rfl
      rw [short', Nat.pow_zero] at power' same
      omega
    subst single
    have near := prints.reads.near_one (by rw [whole, Nat.cast_one])
    have ten := decimalValue_broken digits broken (by norm_num) near
    have single : digits'.length = 1 := by
      by_contra more
      obtain ⟨m, size⟩ : ∃ m, digits'.length - 1 = m + 1 := ⟨digits'.length - 2, by omega⟩
      rw [size, Nat.pow_succ] at large
      have one : 0 < 10 ^ m := Nat.pow_pos (by decide)
      omega
    have few : (decimal digits : ℚ) ≤ 9 := by
      have nine : decimal digits ≤ 9 := by
        rw [single, Nat.pow_one] at wide
        omega
      exact_mod_cast nine
    linarith

/-- A double that is one digit times a power of ten prints as that digit. -/
theorem prints_digit {x : Double} {d : Nat} {exponent : Int} (positive : 0 < d) (small : d < 10)
    (exact : decimalValue [d] exponent = x.value) : Prints x [d] exponent where
  shortest := ⟨by simpa using small, by simpa using Nat.ne_of_gt positive,
    by simpa using Nat.ne_of_gt positive⟩
  zero := by
    have present : x.value ≠ 0 := by
      have one : decimal [d] = d := by simp [decimal]
      rw [← exact, decimalValue, one]
      exact mul_ne_zero (by exact_mod_cast Nat.ne_of_gt positive)
        (ne_of_gt (zpow_pos (by norm_num) _))
    refine ⟨fun none => (nomatch none), fun none => absurd ?_ present⟩
    rw [Double.value, none, Nat.cast_zero, zero_mul]
  reads := exact ▸ roundsTo_value x
  least digits' exponent' shortest' reads' := by
    rw [List.length_singleton]
    refine List.length_pos_iff.mpr fun none => ?_
    -- Zero is a double of its own.
    have nearest := reads'.nearest ⟨0, -1074, by decide, by decide, .inr rfl⟩
    have zero : decimalValue digits' exponent' = 0 := by
      rw [none, decimalValue]
      norm_num [decimal]
    have origin : Double.value ⟨0, -1074, by decide, by decide, .inr rfl⟩ = 0 := by
      rw [Double.value, Nat.cast_zero, zero_mul]
    rw [zero, origin, sub_self, abs_zero, zero_sub, abs_neg, abs_nonpos_iff, ← exact, decimalValue,
      mul_eq_zero] at nearest
    have one : decimal [d] = d := by simp [decimal]
    rcases nearest with digit | power
    · rw [one] at digit
      have absent : d = 0 := by exact_mod_cast digit
      omega
    · exact absurd power (ne_of_gt (zpow_pos (by norm_num) _))
  closest digits' exponent' _ _ _ := by
    rw [exact, sub_self, abs_zero]
    exact abs_nonneg _

end Actl.Foundation
