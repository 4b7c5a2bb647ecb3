import Mathlib.Data.List.Induction
import Mathlib.Tactic.Ring

/-!
# Numerals of a fixed length

A numeral is a list of digits in a base, the most significant first. `numeral` writes a
number in a given number of digits and `number` reads it again; the two are inverse to
each other between the numbers below `base ^ length` and the lists of `length` digits
(`number_numeral`, `numeral_number`). How large a number is shows in its first digit
(`number_lt_iff`).
-/

set_option autoImplicit false

namespace Actl.Foundation

section Positional

variable (base : Nat)

/-- The number that the digits stand for. -/
def number (digits : List Nat) : Nat := digits.foldl (fun value digit => value * base + digit) 0

/-- The last digits of a number, as many as are asked for. -/
def numeral : Nat → Nat → List Nat
  | 0, _ => []
  | length + 1, value => numeral length (value / base) ++ [value % base]

@[simp] theorem number_nil : number base [] = 0 := rfl

@[simp] theorem number_append_singleton (digits : List Nat) (digit : Nat) :
    number base (digits ++ [digit]) = number base digits * base + digit := by
  simp only [number, List.foldl_append, List.foldl_cons, List.foldl_nil]

@[simp] theorem length_numeral (length value : Nat) : (numeral base length value).length = length := by
  induction length generalizing value with
  | zero => rfl
  | succ length ih => rw [numeral, List.length_append, ih, List.length_singleton]

/-- The first digit counts the powers of the base. -/
theorem number_cons (digit : Nat) (digits : List Nat) :
    number base (digit :: digits) = digit * base ^ digits.length + number base digits := by
  induction digits using List.reverseRecOn with
  | nil => simp [number]
  | append_singleton digits final ih =>
      rw [← List.cons_append, number_append_singleton, ih, number_append_singleton,
        List.length_append, List.length_singleton, pow_succ]
      ring

variable {base}

/-- Digits of the base are the digits of a numeral. -/
theorem lt_of_mem_numeral (positive : 0 < base) {length value digit : Nat}
    (member : digit ∈ numeral base length value) : digit < base := by
  induction length generalizing value with
  | zero => cases member
  | succ length ih =>
      rcases List.mem_append.mp member with early | final
      · exact ih early
      · rw [List.mem_singleton.mp final]
        exact Nat.mod_lt _ positive

/-- The numeral of a number stands for the number, up to the digits it leaves out. -/
theorem number_numeral_mod (length value : Nat) :
    number base (numeral base length value) = value % base ^ length := by
  induction length generalizing value with
  | zero => simp [numeral, Nat.mod_one]
  | succ length ih =>
      rw [numeral, number_append_singleton, ih, pow_succ', Nat.mod_mul]
      ring

theorem number_numeral {length value : Nat} (small : value < base ^ length) :
    number base (numeral base length value) = value := by
  rw [number_numeral_mod, Nat.mod_eq_of_lt small]

/-- A numeral of proper digits is the one that is written for its number. -/
theorem numeral_number {digits : List Nat} (proper : ∀ digit ∈ digits, digit < base) :
    numeral base digits.length (number base digits) = digits := by
  induction digits using List.reverseRecOn with
  | nil => rfl
  | append_singleton digits final ih =>
      have last : final < base := proper final (List.mem_append_right _ List.mem_cons_self)
      have positive : 0 < base := Nat.zero_lt_of_lt last
      have quotient : (number base digits * base + final) / base = number base digits := by
        rw [Nat.add_comm, Nat.add_mul_div_right _ _ positive, Nat.div_eq_of_lt last, Nat.zero_add]
      have rest : (number base digits * base + final) % base = final := by
        rw [Nat.add_comm, Nat.add_mul_mod_self_right, Nat.mod_eq_of_lt last]
      rw [List.length_append, List.length_singleton, numeral, number_append_singleton, quotient, rest,
        ih fun digit member => proper digit (List.mem_append_left _ member)]

theorem number_lt {digits : List Nat} (proper : ∀ digit ∈ digits, digit < base) :
    number base digits < base ^ digits.length := by
  induction digits using List.reverseRecOn with
  | nil => simp
  | append_singleton digits final ih =>
      have last : final < base := proper final (List.mem_append_right _ List.mem_cons_self)
      have front := ih fun digit member => proper digit (List.mem_append_left _ member)
      rw [number_append_singleton, List.length_append, List.length_singleton, pow_succ]
      calc number base digits * base + final < number base digits * base + base := by omega
        _ = (number base digits + 1) * base := by ring
        _ ≤ base ^ digits.length * base := Nat.mul_le_mul_right _ front

/-- A number is below a multiple of the power of its later digits exactly when its first
digit is below the multiple. -/
theorem number_lt_iff {digit bound : Nat} {digits : List Nat}
    (proper : ∀ digit ∈ digits, digit < base) :
    number base (digit :: digits) < bound * base ^ digits.length ↔ digit < bound := by
  have rest := number_lt proper
  rw [number_cons]
  constructor
  · intro small
    by_contra large
    have above := Nat.mul_le_mul_right (base ^ digits.length) (not_lt.mp large)
    omega
  · intro less
    have below := Nat.mul_le_mul_right (base ^ digits.length) (Nat.succ_le_of_lt less)
    rw [Nat.succ_mul] at below
    omega

end Positional

end Actl.Foundation
