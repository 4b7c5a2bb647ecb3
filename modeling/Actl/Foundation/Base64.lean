import Mathlib.Data.List.Basic

/-!
# Base64 as a lenient runtime reads it

The encoder writes four digits for three bytes and fills the last group with `=`. The
decoder is the state machine of a runtime that is not strict: it passes over characters
that are no digits, stops at the padding that completes a group, and fails only when the
text ends inside one. It reads the digits of both alphabets.

What was encoded is decoded, also when its padding was stripped and put back by the
length of the text (`decode_repadded`).
-/

set_option autoImplicit false

namespace Actl.Foundation.Base64

/-! ## Digits -/

/-- The digit for six bits, in the alphabet for URLs. -/
def digit (bits : Nat) : Char :=
  if bits < 26 then Char.ofNat (0x41 + bits)
  else if bits < 52 then Char.ofNat (0x61 + (bits - 26))
  else if bits < 62 then Char.ofNat (0x30 + (bits - 52))
  else if bits = 62 then '-'
  else '_'

/-- The six bits of a digit. -/
def bits? (c : Char) : Option Nat :=
  if 'A' ≤ c ∧ c ≤ 'Z' then some (c.toNat - 0x41)
  else if 'a' ≤ c ∧ c ≤ 'z' then some (c.toNat - 0x61 + 26)
  else if '0' ≤ c ∧ c ≤ '9' then some (c.toNat - 0x30 + 52)
  else if c = '-' ∨ c = '+' then some 62
  else if c = '_' ∨ c = '/' then some 63
  else none

theorem bits?_digit : ∀ bits < 64, bits? (digit bits) = some bits := by decide

theorem digit_ne_pad : ∀ bits < 64, digit bits ≠ '=' := by decide

theorem digit_ne_dot : ∀ bits < 64, digit bits ≠ '.' := by decide

/-! ## Encoding -/

/-- The digits of a sequence of bytes, without padding. -/
def digits : List UInt8 → List Char
  | a :: b :: c :: bytes =>
      digit (a.toNat / 4) :: digit (a.toNat % 4 * 16 + b.toNat / 16) ::
        digit (b.toNat % 16 * 4 + c.toNat / 64) :: digit (c.toNat % 64) :: digits bytes
  | [a, b] =>
      [digit (a.toNat / 4), digit (a.toNat % 4 * 16 + b.toNat / 16), digit (b.toNat % 16 * 4)]
  | [a] => [digit (a.toNat / 4), digit (a.toNat % 4 * 16)]
  | [] => []

/-- As many `=` as complete the last group of a text. -/
def padding (text : List Char) : List Char := List.replicate ((4 - text.length % 4) % 4) '='

/-- The digits with padding. -/
def encode (bytes : List UInt8) : List Char := digits bytes ++ padding (digits bytes)

/-- `rstrip("=")`. -/
def stripPadding (text : List Char) : List Char :=
  (text.reverse.dropWhile fun c => c = '=').reverse

/-! ## Decoding -/

/-- The decoder inside a group: how many digits of it were read, the bits that no byte
has yet, and the padding since. -/
def decodeFrom : List Char → Nat → Nat → Nat → Option (List UInt8)
  | [], 0, _, _ => some []
  | [], _ + 1, _, _ => none
  | c :: text, read, left, pads =>
      if c = '=' then
        if 2 ≤ read then
          if 4 ≤ read + (pads + 1) then some [] else decodeFrom text read left (pads + 1)
        else decodeFrom text read left pads
      else
        match bits? c with
        | none => decodeFrom text read left pads
        | some bits =>
            match read with
            | 0 => decodeFrom text 1 bits 0
            | 1 => (decodeFrom text 2 (bits % 16) 0).map (UInt8.ofNat (left * 4 + bits / 16) :: ·)
            | 2 => (decodeFrom text 3 (bits % 4) 0).map (UInt8.ofNat (left * 16 + bits / 4) :: ·)
            | _ => (decodeFrom text 0 0 0).map (UInt8.ofNat (left * 64 + bits) :: ·)

def decode (text : List Char) : Option (List UInt8) := decodeFrom text 0 0 0

/-! ## The round trip -/

section RoundTrip

variable {text : List Char} {first second third fourth left pads : Nat}

/-- Four digits are three bytes. -/
theorem decodeFrom_group (small : first < 64) (small' : second < 64) (small'' : third < 64)
    (last : fourth < 64) : decodeFrom
      (digit first :: digit second :: digit third :: digit fourth :: text) 0 left pads
        = (decodeFrom text 0 0 0).map fun bytes => UInt8.ofNat (first * 4 + second / 16) ::
          UInt8.ofNat (second % 16 * 16 + third / 4) ::
          UInt8.ofNat (third % 4 * 64 + fourth) :: bytes := by
  simp only [decodeFrom, if_neg (digit_ne_pad _ small), if_neg (digit_ne_pad _ small'),
    if_neg (digit_ne_pad _ small''), if_neg (digit_ne_pad _ last), bits?_digit _ small,
    bits?_digit _ small', bits?_digit _ small'', bits?_digit _ last, Option.map_map]
  rfl

/-- Three digits and padding are two bytes. -/
theorem decodeFrom_three (small : first < 64) (small' : second < 64) (last : third < 64) :
    decodeFrom [digit first, digit second, digit third, '='] 0 left pads
      = some [UInt8.ofNat (first * 4 + second / 16),
        UInt8.ofNat (second % 16 * 16 + third / 4)] := by
  simp only [decodeFrom, if_neg (digit_ne_pad _ small), if_neg (digit_ne_pad _ small'),
    if_neg (digit_ne_pad _ last), bits?_digit _ small, bits?_digit _ small', bits?_digit _ last]
  rfl

/-- Two digits and padding are one byte. -/
theorem decodeFrom_two (small : first < 64) (last : second < 64) :
    decodeFrom [digit first, digit second, '=', '='] 0 left pads
      = some [UInt8.ofNat (first * 4 + second / 16)] := by
  simp only [decodeFrom, if_neg (digit_ne_pad _ small), if_neg (digit_ne_pad _ last),
    bits?_digit _ small, bits?_digit _ last]
  rfl

/-- What was encoded is decoded. -/
theorem decode_encode (bytes : List UInt8) : decode (encode bytes) = some bytes := by
  have eq_of_toNat {a : UInt8} {n : Nat} (same : n = a.toNat) : UInt8.ofNat n = a := by
    rw [same, UInt8.ofNat_toNat]
  rw [decode, encode]
  induction bytes using digits.induct with
  | case1 a b c bytes ih =>
      have width : (digits (a :: b :: c :: bytes)).length = (digits bytes).length + 4 := rfl
      have pads : padding (digits (a :: b :: c :: bytes)) = padding (digits bytes) := by
        rw [padding, padding, width, Nat.add_mod_right]
      have small := a.toNat_lt
      have small' := b.toNat_lt
      have small'' := c.toNat_lt
      rw [pads, digits, List.cons_append, List.cons_append, List.cons_append, List.cons_append,
        decodeFrom_group (by omega) (by omega) (by omega) (by omega), ih, Option.map_some,
        eq_of_toNat (a := a) (by omega), eq_of_toNat (a := b) (by omega),
        eq_of_toNat (a := c) (by omega)]
  | case2 a b =>
      have small := a.toNat_lt
      have small' := b.toNat_lt
      refine (decodeFrom_three (by omega) (by omega) (by omega)).trans ?_
      rw [eq_of_toNat (a := a) (by omega), eq_of_toNat (a := b) (by omega)]
  | case3 a =>
      have small := a.toNat_lt
      refine (decodeFrom_two (by omega) (by omega)).trans ?_
      rw [eq_of_toNat (a := a) (by omega)]
  | case4 => rfl

/-- The characters that digits are. -/
theorem digits_digit (bytes : List UInt8) :
    ∀ c ∈ digits bytes, ∃ bits < 64, c = digit bits := by
  induction bytes using digits.induct with
  | case1 a b c bytes ih =>
      have small := a.toNat_lt
      have small' := b.toNat_lt
      have small'' := c.toNat_lt
      intro d member
      simp only [digits, List.mem_cons] at member
      rcases member with rfl | rfl | rfl | rfl | member
      · exact ⟨_, by omega, rfl⟩
      · exact ⟨_, by omega, rfl⟩
      · exact ⟨_, by omega, rfl⟩
      · exact ⟨_, by omega, rfl⟩
      · exact ih d member
  | case2 a b =>
      have small := a.toNat_lt
      have small' := b.toNat_lt
      intro d member
      simp only [digits, List.mem_cons, List.not_mem_nil, or_false] at member
      rcases member with rfl | rfl | rfl
      · exact ⟨_, by omega, rfl⟩
      · exact ⟨_, by omega, rfl⟩
      · exact ⟨_, by omega, rfl⟩
  | case3 a =>
      have small := a.toNat_lt
      intro d member
      simp only [digits, List.mem_cons, List.not_mem_nil, or_false] at member
      rcases member with rfl | rfl
      · exact ⟨_, by omega, rfl⟩
      · exact ⟨_, by omega, rfl⟩
  | case4 =>
      intro d member
      cases member

/-- Stripping the padding leaves the digits. -/
theorem stripPadding_encode (bytes : List UInt8) : stripPadding (encode bytes) = digits bytes := by
  have padded : ∀ c ∈ (padding (digits bytes)).reverse, decide (c = '=') = true := by
    intro c member
    rw [List.mem_reverse, padding] at member
    exact decide_eq_true (List.eq_of_mem_replicate member)
  have bare : ((digits bytes).reverse.dropWhile fun c => c = '=') = (digits bytes).reverse := by
    cases reversed : (digits bytes).reverse with
    | nil => rfl
    | cons c text =>
        have member : c ∈ digits bytes := List.mem_reverse.mp (reversed ▸ List.mem_cons_self)
        obtain ⟨bits, small, rfl⟩ := digits_digit bytes c member
        rw [List.dropWhile_cons_of_neg]
        simpa using digit_ne_pad bits small
  rw [stripPadding, encode, List.reverse_append, List.dropWhile_append_of_pos padded, bare,
    List.reverse_reverse]

/-- Digits whose padding was stripped and put back are decoded. -/
theorem decode_repadded (bytes : List UInt8) :
    decode (stripPadding (encode bytes) ++ padding (stripPadding (encode bytes))) = some bytes := by
  rw [stripPadding_encode]
  exact decode_encode bytes

end RoundTrip

end Actl.Foundation.Base64
