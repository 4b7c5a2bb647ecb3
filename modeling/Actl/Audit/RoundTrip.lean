import Mathlib.Tactic.IntervalCases
import Actl.Foundation.Decimal
import Actl.Audit.Parser

/-!
# Reading a canonical text back

The parser reads every canonical text, and what it reads is the value in its canonical
form (`parse_jcs`): members in the order of their keys, and a float whose layout has
neither fraction nor exponent as the integer it equals. Strings come first, then
numbers, where each of the four layouts is one case, then values by induction.
-/

set_option autoImplicit false

namespace Actl.Audit

open Foundation (Shortest decimal)

/-! ## Strings -/

/-- Every escape is read back as the character it stands for. -/
theorem unescape_escapeChar : ∀ n < 0x80, escaped n = true → ∀ rest,
    ∃ more, escapeChar (Char.ofNat n) = '\\' :: more ∧
      unescape? (more ++ rest) = some (Char.ofNat n, rest) := by
  intro n bound special rest
  have cases : n < 0x20 ∨ n = 0x22 ∨ n = 0x5C := by simpa [escaped] using special
  have all : ∀ n < 0x60, (n < 0x20 ∨ n = 0x22 ∨ n = 0x5C) →
      escapeChar (Char.ofNat n) = '\\' :: (escapeChar (Char.ofNat n)).tail := by
    decide
  refine ⟨(escapeChar (Char.ofNat n)).tail, all n (by omega) cases, ?_⟩
  rcases cases with control | rfl | rfl
  · interval_cases n <;> rfl
  · rfl
  · rfl

theorem escapeChar_of_plain {c : Char} (plain : escaped c.toNat = false) : escapeChar c = [c] := by
  simp only [escaped, decide_eq_false_iff_not, not_or] at plain
  unfold escapeChar
  split
  all_goals first | omega | skip
  rw [if_neg (by omega)]

/-- Reading the escape of a character yields the character. -/
theorem parseChars_escapeChar (fuel : Nat) (c : Char) (rest : List Char) :
    parseChars (fuel + 1) (escapeChar c ++ rest)
      = (parseChars fuel rest).map fun (chars, rest) => (c :: chars, rest) := by
  cases special : escaped c.toNat with
  | true =>
      have bound : c.toNat < 0x80 := by
        simp only [escaped, decide_eq_true_eq] at special
        omega
      obtain ⟨more, escape, read⟩ := unescape_escapeChar c.toNat bound special rest
      rw [Char.ofNat_toNat] at escape read
      rw [escape, List.cons_append, parseChars, if_neg (by decide), if_pos rfl, read]
      simp only [Option.bind_eq_bind, Option.bind_some]
      cases parseChars fuel rest <;> rfl
  | false =>
      have ordinary := special
      simp only [escaped, decide_eq_false_iff_not, not_or] at ordinary
      have unquoted : c ≠ '\x22' := by
        rintro rfl
        exact ordinary.2.1 rfl
      have unescaped : c ≠ '\\' := by
        rintro rfl
        exact ordinary.2.2 rfl
      rw [escapeChar_of_plain special, List.cons_append, List.nil_append, parseChars,
        if_neg unquoted, if_neg unescaped, if_neg ordinary.1]
      cases parseChars fuel rest <;> rfl

theorem parseChars_quoted (text rest : List Char) (fuel : Nat) (enough : text.length < fuel) :
    parseChars fuel (text.flatMap escapeChar ++ '\x22' :: rest) = some (text, rest) := by
  induction text generalizing fuel with
  | nil =>
      obtain ⟨fuel, rfl⟩ := Nat.exists_eq_add_of_lt enough
      rfl
  | cons c text ih =>
      cases fuel with
      | zero => simp at enough
      | succ fuel =>
          rw [List.flatMap_cons, List.append_assoc, parseChars_escapeChar, ih fuel (by
            simp only [List.length_cons] at enough
            omega)]
          rfl

theorem length_escapeChar (c : Char) : 1 ≤ (escapeChar c).length := by
  unfold escapeChar
  split
  all_goals first | decide | skip
  split <;> simp

theorem length_le_flatMap_escapeChar (text : List Char) :
    text.length ≤ (text.flatMap escapeChar).length := by
  induction text with
  | nil => simp
  | cons c text ih =>
      have one := length_escapeChar c
      simp only [List.flatMap_cons, List.length_append, List.length_cons]
      omega

/-- A quoted string is read back, whatever follows. -/
theorem parseString_quoted (s : String) (rest : List Char) :
    parseString (s.toList.flatMap escapeChar ++ '\x22' :: rest) = some (s, rest) := by
  have long := length_le_flatMap_escapeChar s.toList
  rw [parseString, parseChars_quoted _ _ _ (by
    simp only [List.length_append]
    omega)]
  simp [String.ofList_toList]

/-! ## Numbers -/

/-- What can follow a value inside a canonical text. -/
def Stops : List Char → Prop
  | [] => True
  | c :: _ => c = ',' ∨ c = ']' ∨ c = '\x7d'

/-- No digit comes next. -/
def Undigited : List Char → Prop
  | [] => True
  | c :: _ => c.isDigit = false

theorem Stops.undigited {rest : List Char} (stops : Stops rest) : Undigited rest := by
  cases rest with
  | nil => trivial
  | cons c rest => rcases stops with rfl | rfl | rfl <;> rfl

theorem scanDigits_append {digits rest : List Char} (all : ∀ c ∈ digits, c.isDigit = true)
    (ends : Undigited rest) : scanDigits (digits ++ rest) = (digits, rest) := by
  rw [scanDigits, List.takeWhile_append_of_pos all, List.dropWhile_append_of_pos all]
  cases rest with
  | nil => simp
  | cons c rest =>
      have last : c.isDigit = false := ends
      simp [last]

def signText (negative : Bool) : List Char := if negative then ['-'] else []

def fractionText (digits : List Char) : List Char := if digits = [] then [] else '.' :: digits

def exponentText : Option Int → List Char
  | none => []
  | some e => 'e' :: (if 0 ≤ e then '+' else '-') :: Nat.toDigits 10 e.natAbs

theorem natOf_toDigits (n : Nat) : natOf (Nat.toDigits 10 n) = n := Nat.ofDigitChars_ten_toDigits

theorem isDigit_toDigits (n : Nat) : ∀ c ∈ Nat.toDigits 10 n, c.isDigit = true := fun _ member =>
  Nat.isDigit_of_mem_toDigits (by decide) (by decide) member

theorem parseSign_append {negative : Bool} {text : List Char}
    (digit : ∃ c more, text = c :: more ∧ c.isDigit = true) :
    parseSign (signText negative ++ text) = (negative, text) := by
  obtain ⟨c, more, rfl, digit⟩ := digit
  cases negative with
  | true => rfl
  | false =>
      simp only [signText, Bool.false_eq_true, if_false, List.nil_append, parseSign]
      split
      · next same =>
          rw [(List.cons.inj same).1] at digit
          cases digit
      · rfl

theorem parseFraction_append {digits rest : List Char} (all : ∀ c ∈ digits, c.isDigit = true)
    (ends : Undigited rest) (undotted : rest.head? ≠ some '.') :
    parseFraction (fractionText digits ++ rest) = some (digits, rest) := by
  rw [fractionText]
  split
  · next none =>
      subst none
      simp only [List.nil_append, parseFraction]
      split
      · simp at undotted
      · rfl
  · next present =>
      simp only [List.cons_append, parseFraction, scanDigits_append all ends, if_neg present]

theorem parseExponent_append (exponent : Option Int) {rest : List Char} (stops : Stops rest) :
    parseExponent (exponentText exponent ++ rest) = some (exponent, rest) := by
  cases exponent with
  | none =>
      cases rest with
      | nil => rfl
      | cons c rest => rcases stops with rfl | rfl | rfl <;> rfl
  | some e =>
      have digits := scanDigits_append (isDigit_toDigits e.natAbs) stops.undigited
      by_cases positive : 0 ≤ e
      · simp only [exponentText, if_pos positive, List.cons_append, parseExponent, true_or, if_true,
          parseExponentSign, digits, Nat.toDigits_ne_nil, if_false, natOf_toDigits,
          Bool.false_eq_true]
        rw [Int.natAbs_of_nonneg positive]
      · simp only [exponentText, if_neg positive, List.cons_append, parseExponent, true_or, if_true,
          parseExponentSign, digits, Nat.toDigits_ne_nil, if_false, natOf_toDigits]
        rw [Int.ofNat_natAbs_of_nonpos (by omega), Int.neg_neg]

/-- A number laid out by the grammar is read as the integer or the decimal it says. -/
theorem parseNumber_layout (negative : Bool) (whole fraction : List Char) (exponent : Option Int)
    {rest : List Char} (digits : ∀ c ∈ whole, c.isDigit = true) (present : whole ≠ [])
    (leading : whole.head? = some '0' → whole = ['0'])
    (fractional : ∀ c ∈ fraction, c.isDigit = true) (stops : Stops rest) :
    parseNumber (signText negative ++ (whole ++ (fractionText fraction
        ++ (exponentText exponent ++ rest))))
      = some (if fraction = [] ∧ exponent = none then
          .int (if negative then -(natOf whole : Int) else natOf whole)
        else floatOf negative ((whole ++ fraction).map fun c => c.toNat - 0x30)
          (exponent.getD 0 - (fraction.length : Int)), rest) := by
  have tail : Undigited (exponentText exponent ++ rest) ∧
      (exponentText exponent ++ rest).head? ≠ some '.' := by
    cases exponent with
    | some e => exact ⟨rfl, by simp [exponentText]⟩
    | none =>
        cases rest with
        | nil => exact ⟨trivial, by simp [exponentText]⟩
        | cons c rest => rcases stops with rfl | rfl | rfl <;> exact ⟨rfl, by simp [exponentText]⟩
  have dotted : Undigited (fractionText fraction ++ (exponentText exponent ++ rest)) := by
    rw [fractionText]
    split
    · exact tail.1
    · rfl
  have first : ∃ c more, whole ++ (fractionText fraction ++ (exponentText exponent ++ rest))
      = c :: more ∧ c.isDigit = true := by
    cases whole with
    | nil => exact absurd rfl present
    | cons c whole => exact ⟨c, _, rfl, digits c List.mem_cons_self⟩
  have proper : ¬(whole = [] ∨ (whole.head? = some '0' ∧ whole ≠ ['0'])) := by
    rintro (none | ⟨zero, more⟩)
    · exact present none
    · exact more (leading zero)
  simp only [parseNumber, parseSign_append first, scanDigits_append digits dotted, if_neg proper,
    parseFraction_append fractional tail.1 tail.2, parseExponent_append exponent stops,
    Option.bind_eq_bind, Option.bind_some]
  split <;> rfl

/-! ## Integers and floats -/

/-- What a float is read back as: its layout has neither fraction nor exponent below
10²¹ where its value is whole. -/
def readNumber (negative : Bool) (digits : List Nat) (exponent : Int) : JSONValue :=
  if digits = [] then .int 0
  else if 0 ≤ exponent ∧ exponent + digits.length ≤ 21 then
    .int (if negative then -((decimal digits * 10 ^ exponent.toNat : Nat) : Int)
      else (decimal digits * 10 ^ exponent.toNat : Nat))
  else .float negative digits exponent

theorem parseNumber_int (n : Int) {rest : List Char} (stops : Stops rest) :
    parseNumber ((toString n).toList ++ rest) = some (.int n, rest) := by
  have leading : ∀ m : Nat, (Nat.toDigits 10 m).head? = some '0' → Nat.toDigits 10 m = ['0'] := by
    intro m
    induction m using Nat.strongRecOn with
    | ind m ih =>
        intro zero
        rcases Nat.lt_or_ge m 10 with small | large
        · rw [Nat.toDigits_of_lt_base small] at zero ⊢
          rw [List.head?_cons, Option.some.injEq] at zero
          rw [zero]
        · rw [Nat.toDigits_of_base_le (by decide) large] at zero
          have first := ih (m / 10) (by omega)
          cases digits : Nat.toDigits 10 (m / 10) with
          | nil => exact absurd digits Nat.toDigits_ne_nil
          | cons c more =>
              rw [digits] at first zero
              have single := first zero
              have value := natOf_toDigits (m / 10)
              rw [digits, single] at value
              have none : natOf ['0'] = 0 := rfl
              omega
  have layout : ∀ negative : Bool, parseNumber (signText negative ++ (Nat.toDigits 10 n.natAbs
      ++ rest)) = some (.int (if negative then -(n.natAbs : Int) else n.natAbs), rest) := by
    intro negative
    have read := parseNumber_layout negative (Nat.toDigits 10 n.natAbs) [] none
      (isDigit_toDigits n.natAbs) Nat.toDigits_ne_nil (leading n.natAbs) (by simp) stops
    simp only [fractionText, exponentText, List.nil_append, if_true, and_self, natOf_toDigits]
      at read
    exact read
  rw [toList_toString]
  split
  · next positive =>
      have read := layout false
      simp only [signText, Bool.false_eq_true, if_false, List.nil_append,
        Int.natAbs_of_nonneg positive] at read
      rwa [show n.natAbs = n.toNat by omega] at read
  · next negative =>
      have read := layout true
      simp only [signText, if_true, List.cons_append, List.nil_append] at read
      rw [Int.ofNat_natAbs_of_nonpos (by omega), Int.neg_neg] at read
      rwa [show n.natAbs = (-n).toNat by omega] at read

/-! The digits of a float and the characters they are written with. -/

def digitChars (digits : List Nat) : List Char := digits.map Nat.digitChar

theorem toList_digitString {digits : List Nat} (small : ∀ d ∈ digits, d < 10) :
    (digitString digits).toList = digitChars digits := by
  have each : ∀ d ∈ digits, (toString d).toList = [Nat.digitChar d] := fun d member => by
    rw [Nat.toString_eq_repr, Nat.toList_repr, Nat.toDigits_of_lt_base (small d member)]
  rw [digitString, digitChars]
  induction digits with
  | nil => rfl
  | cons d digits ih =>
      have here := each d List.mem_cons_self
      simp only [List.map_cons, String.join_cons, String.toList_append, here,
        ih (fun d member => small d (List.mem_cons_of_mem _ member))
          (fun d member => each d (List.mem_cons_of_mem _ member)), List.cons_append, List.nil_append]

theorem isDigit_digitChars {digits : List Nat} (small : ∀ d ∈ digits, d < 10) :
    ∀ c ∈ digitChars digits, c.isDigit = true := by
  intro c member
  obtain ⟨d, here, rfl⟩ := List.mem_map.mp member
  have all : ∀ d < 10, (Nat.digitChar d).isDigit = true := by decide
  exact all d (small d here)

theorem digitChars_toNat {digits : List Nat} (small : ∀ d ∈ digits, d < 10) :
    ((digitChars digits).map fun c => c.toNat - 0x30) = digits := by
  have all : ∀ d < 10, (Nat.digitChar d).toNat - 0x30 = d := by decide
  rw [digitChars, List.map_map]
  exact (List.map_congr_left fun d member => all d (small d member)).trans (List.map_id _)

theorem digitChars_append (digits digits' : List Nat) :
    digitChars (digits ++ digits') = digitChars digits ++ digitChars digits' := List.map_append

theorem natOf_digitChars {digits : List Nat} (small : ∀ d ∈ digits, d < 10) :
    natOf (digitChars digits) = decimal digits := by
  have step : ∀ start, Nat.ofDigitChars 10 (digitChars digits) start
      = digits.foldl (fun n d => 10 * n + d) start := by
    induction digits with
    | nil => exact fun start => rfl
    | cons d digits ih =>
        intro start
        rw [digitChars, List.map_cons,
          Nat.ofDigitChars_cons_digitChar_of_lt_ten (small d List.mem_cons_self), List.foldl_cons]
        exact ih (fun d member => small d (List.mem_cons_of_mem _ member)) _
  exact step 0

/-- Leading zeros do not matter, and the shortest digits are kept. -/
theorem floatOf_shortest {digits : List Nat} (shortest : Shortest digits) (present : digits ≠ [])
    (negative : Bool) (padding : Nat) (exponent : Int) :
    floatOf negative (List.replicate padding 0 ++ digits) exponent
      = .float negative digits exponent := by
  have front : (List.replicate padding 0 ++ digits).dropWhile (fun d => decide (d = 0))
      = digits := by
    rw [List.dropWhile_append_of_pos (by simp)]
    cases digits with
    | nil => rfl
    | cons d digits =>
        have nonzero : d ≠ 0 := fun zero => shortest.leading (by rw [zero]; rfl)
        simp [nonzero]
  have back : digits.reverse.dropWhile (fun d => decide (d = 0)) = digits.reverse := by
    cases reversed : digits.reverse with
    | nil => rfl
    | cons d more =>
        have last : digits.getLast? = some d := by
          rw [List.getLast?_eq_head?_reverse, reversed, List.head?_cons]
        have nonzero : d ≠ 0 := fun zero => shortest.trailing (by rw [last, zero])
        simp [nonzero]
  simp only [floatOf, front, back, List.reverse_reverse, if_neg present, Nat.sub_self]
  simp

theorem toList_zeros (n : Nat) : (zeros n).toList = List.replicate n '0' := String.toList_ofList

/-! The four layouts of a float's text. -/

theorem toList_sign (negative : Bool) :
    (if negative then "-" else "").toList = signText negative := by
  cases negative <;> rfl

theorem encodeNumber_whole {digits : List Nat} (small : ∀ d ∈ digits, d < 10)
    (present : digits ≠ []) (negative : Bool) {exponent : Int} (whole : 0 ≤ exponent)
    (short : exponent + digits.length ≤ 21) :
    (encodeNumber negative digits exponent).toList
      = signText negative ++ (digitChars digits ++ List.replicate exponent.toNat '0') := by
  have layout : (digits.length : Int) ≤ exponent + digits.length ∧
      exponent + digits.length ≤ 21 := ⟨by omega, short⟩
  have padding : exponent + digits.length - digits.length = exponent := by omega
  simp only [encodeNumber, if_neg present, if_pos layout, String.toList_append, toList_sign,
    toList_zeros, toList_digitString small, padding]

theorem encodeNumber_pointed {digits : List Nat} (small : ∀ d ∈ digits, d < 10)
    (present : digits ≠ []) (negative : Bool) {exponent : Int} (broken : exponent < 0)
    (large : 0 < exponent + digits.length) (short : exponent + digits.length ≤ 21) :
    (encodeNumber negative digits exponent).toList
      = signText negative ++ (digitChars (digits.take (exponent + digits.length).toNat)
        ++ '.' :: digitChars (digits.drop (exponent + digits.length).toNat)) := by
  have layout : ¬((digits.length : Int) ≤ exponent + digits.length ∧
      exponent + digits.length ≤ 21) := by omega
  simp only [encodeNumber, if_neg present, if_neg layout, if_pos (And.intro large short),
    String.toList_append, toList_sign,
    toList_digitString fun d member => small d (List.mem_of_mem_take member),
    toList_digitString fun d member => small d (List.mem_of_mem_drop member), List.append_assoc]
  rfl

theorem encodeNumber_small {digits : List Nat} (small : ∀ d ∈ digits, d < 10)
    (present : digits ≠ []) (negative : Bool) {exponent : Int}
    (near : -6 < exponent + digits.length) (below : exponent + digits.length ≤ 0) :
    (encodeNumber negative digits exponent).toList
      = signText negative ++ '0' :: '.' :: (List.replicate (-(exponent + digits.length)).toNat '0'
        ++ digitChars digits) := by
  have long : 0 < digits.length := List.length_pos_iff.mpr present
  have layout : ¬((digits.length : Int) ≤ exponent + digits.length ∧
      exponent + digits.length ≤ 21) := by omega
  have layout' : ¬(0 < exponent + digits.length ∧ exponent + digits.length ≤ 21) := by omega
  simp only [encodeNumber, if_neg present, if_neg layout, if_neg layout',
    if_pos (And.intro near below), String.toList_append, toList_sign, toList_zeros,
    toList_digitString small, List.append_assoc]
  rfl

theorem encodeNumber_exponential {digits : List Nat} (small : ∀ d ∈ digits, d < 10)
    (present : digits ≠ []) (negative : Bool) {exponent : Int}
    (far : exponent + digits.length ≤ -6 ∨ 21 < exponent + digits.length) :
    (encodeNumber negative digits exponent).toList
      = signText negative ++ (digitChars (digits.take 1) ++ (fractionText (digitChars (digits.drop 1))
        ++ exponentText (some (exponent + digits.length - 1)))) := by
  have layout : ¬((digits.length : Int) ≤ exponent + digits.length ∧
      exponent + digits.length ≤ 21) := by
    have long : 0 < digits.length := List.length_pos_iff.mpr present
    omega
  have layout' : ¬(0 < exponent + digits.length ∧ exponent + digits.length ≤ 21) := by omega
  have layout'' : ¬(-6 < exponent + digits.length ∧ exponent + digits.length ≤ 0) := by omega
  have power : (if 0 ≤ exponent + (digits.length : Int) - 1 then "+" else "-").toList
        ++ (toString (exponent + (digits.length : Int) - 1).natAbs).toList
      = (if 0 ≤ exponent + (digits.length : Int) - 1 then '+' else '-')
        :: Nat.toDigits 10 (exponent + (digits.length : Int) - 1).natAbs := by
    rw [Nat.toString_eq_repr, Nat.toList_repr]
    split <;> rfl
  have mantissa : (if (digits.length : Int) = 1 then digitString (digits.take 1)
        else digitString (digits.take 1) ++ "." ++ digitString (digits.drop 1)).toList
      = digitChars (digits.take 1) ++ fractionText (digitChars (digits.drop 1)) := by
    have front : (digitString (digits.take 1)).toList = digitChars (digits.take 1) :=
      toList_digitString fun d member => small d (List.mem_of_mem_take member)
    have back : (digitString (digits.drop 1)).toList = digitChars (digits.drop 1) :=
      toList_digitString fun d member => small d (List.mem_of_mem_drop member)
    have none : digitChars (digits.drop 1) = [] ↔ (digits.length : Int) = 1 := by
      have long : 0 < digits.length := List.length_pos_iff.mpr present
      simp only [digitChars, List.map_eq_nil_iff, List.drop_eq_nil_iff]
      omega
    simp only [fractionText, none]
    split
    · simp only [front, List.append_nil]
    · simp only [String.toList_append, front, back, List.append_assoc]
      rfl
  simp only [encodeNumber, if_neg present, if_neg layout, if_neg layout', if_neg layout'',
    String.toList_append, toList_sign, mantissa, power, List.append_assoc, exponentText]
  rfl

theorem isDigit_replicate_zero (n : Nat) : ∀ c ∈ List.replicate n '0', c.isDigit = true :=
  fun c member => by
    rw [List.eq_of_mem_replicate member]
    rfl

/-- The shortest digits do not begin with a zero, nor does a part of them. -/
theorem head_ne_zero {digits front tail : List Nat} (shortest : Shortest digits)
    (cut : front ++ tail = digits) (nonempty : front ≠ []) (text : List Char) :
    (digitChars front ++ text).head? ≠ some '0' := by
  intro zero
  cases front with
  | nil => exact nonempty rfl
  | cons d front =>
      have all : ∀ d < 10, Nat.digitChar d = '0' → d = 0 := by decide
      simp only [digitChars, List.map_cons, List.cons_append, List.head?_cons,
        Option.some.injEq] at zero
      refine shortest.leading ?_
      rw [← cut, List.cons_append, List.head?_cons,
        all d (shortest.small d (cut ▸ List.mem_cons_self)) zero]

section Layouts

variable {digits : List Nat} (shortest : Shortest digits) (present : digits ≠ []) (negative : Bool)
  {exponent : Int} {rest : List Char} (stops : Stops rest)

include shortest present stops

theorem parseNumber_whole (whole : 0 ≤ exponent ∧ exponent + digits.length ≤ 21) :
    parseNumber ((encodeNumber negative digits exponent).toList ++ rest)
      = some (.int (if negative then -((decimal digits * 10 ^ exponent.toNat : Nat) : Int)
          else (decimal digits * 10 ^ exponent.toNat : Nat)), rest) := by
  have small := shortest.small
  have value : natOf (digitChars digits ++ List.replicate exponent.toNat '0')
      = decimal digits * 10 ^ exponent.toNat := by
    rw [natOf, Nat.ofDigitChars_append, Nat.ofDigitChars_replicate_zero, Nat.mul_comm]
    exact congrArg (· * _) (natOf_digitChars small)
  have read := parseNumber_layout negative
    (digitChars digits ++ List.replicate exponent.toNat '0') [] none
    (fun c member => (List.mem_append.mp member).elim (isDigit_digitChars small c)
      (isDigit_replicate_zero _ c))
    (by simp [digitChars, present])
    (fun zero => absurd zero (head_ne_zero shortest (List.append_nil _) present _)) (by simp) stops
  rw [encodeNumber_whole small present negative whole.1 whole.2, List.append_assoc]
  simp only [fractionText, exponentText, List.nil_append, if_true, and_self, value] at read
  exact read

theorem parseNumber_pointed (broken : exponent < 0) (large : 0 < exponent + digits.length)
    (short : exponent + digits.length ≤ 21) :
    parseNumber ((encodeNumber negative digits exponent).toList ++ rest)
      = some (.float negative digits exponent, rest) := by
  have small := shortest.small
  have cut := List.take_append_drop (exponent + digits.length).toNat digits
  have fraction : digitChars (digits.drop (exponent + digits.length).toNat) ≠ [] := by
    simp only [digitChars, ne_eq, List.map_eq_nil_iff, List.drop_eq_nil_iff]
    omega
  have front : digits.take (exponent + digits.length).toNat ≠ [] := by
    simp only [ne_eq, List.take_eq_nil_iff, not_or]
    exact ⟨by omega, present⟩
  have read := parseNumber_layout negative
    (digitChars (digits.take (exponent + digits.length).toNat))
    (digitChars (digits.drop (exponent + digits.length).toNat)) none
    (isDigit_digitChars fun d member => small d (List.mem_of_mem_take member))
    (by simpa [digitChars] using front)
    (fun zero => absurd zero (by simpa using head_ne_zero shortest cut front []))
    (isDigit_digitChars fun d member => small d (List.mem_of_mem_drop member)) stops
  have moved : (0 : Int) - ((digitChars (digits.drop (exponent + digits.length).toNat)).length
      : Int) = exponent := by
    simp only [digitChars, List.length_map, List.length_drop]
    omega
  rw [if_neg (fun none => fraction none.1), ← digitChars_append, cut, digitChars_toNat small,
    Option.getD_none, moved] at read
  have float := floatOf_shortest shortest present negative 0 exponent
  rw [List.replicate_zero, List.nil_append] at float
  rw [encodeNumber_pointed small present negative broken large short, ← float, ← read]
  simp only [fractionText, if_neg fraction, exponentText, List.nil_append, List.append_assoc]

theorem parseNumber_small (near : -6 < exponent + digits.length)
    (below : exponent + digits.length ≤ 0) :
    parseNumber ((encodeNumber negative digits exponent).toList ++ rest)
      = some (.float negative digits exponent, rest) := by
  have small := shortest.small
  have read := parseNumber_layout negative ['0']
    (List.replicate (-(exponent + digits.length)).toNat '0' ++ digitChars digits) none
    (isDigit_replicate_zero 1) (by simp) (fun _ => rfl)
    (fun c member => (List.mem_append.mp member).elim (isDigit_replicate_zero _ c)
      (isDigit_digitChars small c)) stops
  have fraction : List.replicate (-(exponent + digits.length)).toNat '0'
      ++ digitChars digits ≠ [] := by
    simp [digitChars, present]
  have padded : ((['0'] ++ (List.replicate (-(exponent + digits.length)).toNat '0'
      ++ digitChars digits)).map fun c => c.toNat - 0x30)
        = List.replicate ((-(exponent + digits.length)).toNat + 1) 0 ++ digits := by
    rw [← List.append_assoc, List.map_append, digitChars_toNat small,
      show ['0'] = List.replicate 1 '0' from rfl, List.replicate_append_replicate,
      List.map_replicate, Nat.add_comm]
    rfl
  have moved : (0 : Int) - ((List.replicate (-(exponent + digits.length)).toNat '0'
      ++ digitChars digits).length : Int) = exponent := by
    simp only [digitChars, List.length_map, List.length_append, List.length_replicate]
    omega
  rw [if_neg (fun none => fraction none.1), padded, Option.getD_none, moved,
    floatOf_shortest shortest present] at read
  rw [encodeNumber_small small present negative near below, ← read]
  simp only [fractionText, if_neg fraction, exponentText, List.nil_append, List.append_assoc,
    List.cons_append]

theorem parseNumber_exponential
    (far : exponent + digits.length ≤ -6 ∨ 21 < exponent + digits.length) :
    parseNumber ((encodeNumber negative digits exponent).toList ++ rest)
      = some (.float negative digits exponent, rest) := by
  have small := shortest.small
  have long : 0 < digits.length := List.length_pos_iff.mpr present
  have cut := List.take_append_drop 1 digits
  have front : digits.take 1 ≠ [] := by simp [present]
  have read := parseNumber_layout negative (digitChars (digits.take 1))
    (digitChars (digits.drop 1)) (some (exponent + digits.length - 1))
    (isDigit_digitChars fun d member => small d (List.mem_of_mem_take member))
    (by simpa [digitChars] using front)
    (fun zero => absurd zero (by simpa using head_ne_zero shortest cut front []))
    (isDigit_digitChars fun d member => small d (List.mem_of_mem_drop member)) stops
  have moved : exponent + (digits.length : Int) - 1
      - ((digitChars (digits.drop 1)).length : Int) = exponent := by
    simp only [digitChars, List.length_map, List.length_drop]
    omega
  rw [if_neg (fun none => by cases none.2), ← digitChars_append, cut, digitChars_toNat small,
    Option.getD_some, moved] at read
  have float := floatOf_shortest shortest present negative 0 exponent
  rw [List.replicate_zero, List.nil_append] at float
  rw [encodeNumber_exponential small present negative far, ← float, ← read]
  simp only [List.append_assoc]

end Layouts

/-- Every float's text is read back as what the float is. -/
theorem parseNumber_float {digits : List Nat} (shortest : Shortest digits) (negative : Bool)
    (exponent : Int) {rest : List Char} (stops : Stops rest) :
    parseNumber ((encodeNumber negative digits exponent).toList ++ rest)
      = some (readNumber negative digits exponent, rest) := by
  by_cases present : digits = []
  · simp only [encodeNumber, readNumber, if_pos present]
    exact parseNumber_int 0 stops
  · simp only [readNumber, if_neg present]
    by_cases whole : 0 ≤ exponent ∧ exponent + digits.length ≤ 21
    · rw [if_pos whole, parseNumber_whole shortest present negative stops whole]
    · rw [if_neg whole]
      by_cases pointed : 0 < exponent + digits.length ∧ exponent + digits.length ≤ 21
      · exact parseNumber_pointed shortest present negative stops (by omega) pointed.1 pointed.2
      · by_cases near : -6 < exponent + digits.length ∧ exponent + digits.length ≤ 0
        · exact parseNumber_small shortest present negative stops near.1 near.2
        · exact parseNumber_exponential shortest present negative stops (by omega)

/-! ## Values -/

mutual
/-- The value a canonical text is read back as: members in the order of their keys,
and floats without fraction and exponent as integers. -/
def canonical : JSONValue → JSONValue
  | .null => .null
  | .bool value => .bool value
  | .int value => .int value
  | .float negative digits exponent => readNumber negative digits exponent
  | .str value => .str value
  | .arr items => .arr (canonicalItems items)
  | .obj members => .obj (sortKeys (canonicalMembers members))

def canonicalItems : List JSONValue → List JSONValue
  | [] => []
  | item :: items => canonical item :: canonicalItems items

def canonicalMembers : List (String × JSONValue) → List (String × JSONValue)
  | [] => []
  | (key, value) :: members => (key, canonical value) :: canonicalMembers members
end

theorem canonicalItems_eq_map (items : List JSONValue) :
    canonicalItems items = items.map canonical := by
  induction items with
  | nil => rfl
  | cons item items ih => rw [canonicalItems, ih, List.map_cons]

theorem canonicalMembers_eq_map (members : List (String × JSONValue)) :
    canonicalMembers members = members.map fun m => (m.1, canonical m.2) := by
  induction members with
  | nil => rfl
  | cons m members ih => rw [canonicalMembers, ih, List.map_cons]

/-- A value that a Python program can hold: floats have their shortest digits, and the
keys of an object are different. -/
inductive Serialisable : JSONValue → Prop where
  | null : Serialisable .null
  | bool (value : Bool) : Serialisable (.bool value)
  | int (value : Int) : Serialisable (.int value)
  | float (negative : Bool) {digits : List Nat} (exponent : Int) (shortest : Shortest digits) :
      Serialisable (.float negative digits exponent)
  | str (value : String) : Serialisable (.str value)
  | arr {items : List JSONValue} (each : ∀ item ∈ items, Serialisable item) :
      Serialisable (.arr items)
  | obj {members : List (String × JSONValue)} (keys : (members.map Prod.fst).Nodup)
      (each : ∀ m ∈ members, Serialisable m.2) : Serialisable (.obj members)

theorem skipBlanks_cons {c : Char} (visible : isBlank c = false) (rest : List Char) :
    skipBlanks (c :: rest) = c :: rest := by
  simp [skipBlanks, visible]

/-- A number's text begins with a digit or a sign. -/
def NumberStart (c : Char) : Prop := c = '-' ∨ c.isDigit = true

theorem parseValue_number (fuel : Nat) {c : Char} (start : NumberStart c) (rest : List Char) :
    parseValue (fuel + 1) (c :: rest) = parseNumber (c :: rest) := by
  have other : isBlank c = false ∧ c ≠ 'n' ∧ c ≠ 't' ∧ c ≠ 'f' ∧ c ≠ '\x22' ∧ c ≠ '[' ∧
      c ≠ '\x7b' := by
    rcases start with rfl | digit
    · decide
    · refine ⟨?_, ?_, ?_, ?_, ?_, ?_, ?_⟩
      · simp only [isBlank, decide_eq_false_iff_not]
        rintro (rfl | rfl | rfl | rfl) <;> cases digit
      all_goals
        rintro rfl
        cases digit
  obtain ⟨visible, n, t, f, quote, bracket, brace⟩ := other
  rw [parseValue, skipBlanks_cons visible]
  simp only [if_neg n, if_neg t, if_neg f, if_neg quote, if_neg bracket, if_neg brace]

theorem numberStart_sign {negative : Bool} {text : List Char}
    (digit : ∃ c more, text = c :: more ∧ c.isDigit = true) :
    ∃ c more, signText negative ++ text = c :: more ∧ NumberStart c := by
  obtain ⟨c, more, rfl, digit⟩ := digit
  cases negative with
  | true => exact ⟨'-', c :: more, rfl, .inl rfl⟩
  | false => exact ⟨c, more, rfl, .inr digit⟩

theorem numberStart_int (n : Int) : ∃ c more, (toString n).toList = c :: more ∧ NumberStart c := by
  have digits : ∀ m : Nat, ∃ c more, Nat.toDigits 10 m = c :: more ∧ c.isDigit = true := fun m => by
    cases text : Nat.toDigits 10 m with
    | nil => exact absurd text Nat.toDigits_ne_nil
    | cons c more => exact ⟨c, more, rfl, isDigit_toDigits m c (text ▸ List.mem_cons_self)⟩
  rw [toList_toString]
  split
  · obtain ⟨c, more, text, digit⟩ := digits n.toNat
    exact ⟨c, more, text, .inr digit⟩
  · exact ⟨'-', _, rfl, .inl rfl⟩

theorem numberStart_float {digits : List Nat} (small : ∀ d ∈ digits, d < 10) (negative : Bool)
    (exponent : Int) :
    ∃ c more, (encodeNumber negative digits exponent).toList = c :: more ∧ NumberStart c := by
  have front : ∀ {front : List Nat} (text : List Char), front ≠ [] → (∀ d ∈ front, d < 10) →
      ∃ c more, digitChars front ++ text = c :: more ∧ c.isDigit = true := by
    intro front text nonempty small
    cases front with
    | nil => exact absurd rfl nonempty
    | cons d front =>
        exact ⟨_, _, rfl, isDigit_digitChars small _ List.mem_cons_self⟩
  by_cases present : digits = []
  · simp only [encodeNumber, if_pos present]
    exact ⟨'0', [], rfl, .inr rfl⟩
  · by_cases whole : 0 ≤ exponent ∧ exponent + digits.length ≤ 21
    · rw [encodeNumber_whole small present negative whole.1 whole.2]
      exact numberStart_sign (front _ present small)
    · by_cases pointed : 0 < exponent + digits.length ∧ exponent + digits.length ≤ 21
      · rw [encodeNumber_pointed small present negative (by omega) pointed.1 pointed.2]
        refine numberStart_sign (front _ ?_ fun d member => small d (List.mem_of_mem_take member))
        simp only [ne_eq, List.take_eq_nil_iff, not_or]
        exact ⟨by omega, present⟩
      · by_cases near : -6 < exponent + digits.length ∧ exponent + digits.length ≤ 0
        · rw [encodeNumber_small small present negative near.1 near.2]
          exact numberStart_sign ⟨'0', _, rfl, rfl⟩
        · rw [encodeNumber_exponential small present negative (by omega)]
          exact numberStart_sign (front _ (by simp [present])
            fun d member => small d (List.mem_of_mem_take member))

/-- A canonical text begins with something other than a blank or a bracket. -/
theorem canonicalText_start {value : JSONValue} (formed : Serialisable value) :
    ∃ c more, canonicalText value = c :: more ∧ isBlank c = false ∧ c ≠ ']' := by
  have number : ∀ {text : List Char}, (∃ c more, text = c :: more ∧ NumberStart c) →
      ∃ c more, text = c :: more ∧ isBlank c = false ∧ c ≠ ']' := by
    rintro text ⟨c, more, rfl, rfl | digit⟩
    · exact ⟨_, _, rfl, by decide⟩
    · refine ⟨c, more, rfl, ?_, ?_⟩
      · simp only [isBlank, decide_eq_false_iff_not]
        rintro (rfl | rfl | rfl | rfl) <;> cases digit
      · rintro rfl
        cases digit
  cases formed with
  | null => exact ⟨_, _, rfl, by decide⟩
  | bool value => cases value <;> exact ⟨_, _, rfl, by decide⟩
  | int value =>
      rw [canonicalText]
      exact number (numberStart_int value)
  | float negative exponent shortest =>
      rw [canonicalText]
      exact number (numberStart_float shortest.small negative exponent)
  | str value => exact ⟨_, _, by rw [canonicalText, quoted], by decide⟩
  | arr each => exact ⟨_, _, by rw [canonicalText], by decide⟩
  | obj keys each => exact ⟨_, _, by rw [canonicalText], by decide⟩

/-- The value is read back off its canonical text, with this much fuel. -/
def ReadsBack (value : JSONValue) : Prop :=
  ∀ (fuel : Nat) (rest : List Char), (canonicalText value).length ≤ fuel → Stops rest →
    parseValue fuel (canonicalText value ++ rest) = some (canonical value, rest)

/-- An array that does not close at once holds items. -/
theorem parseValue_bracket (fuel : Nat) {c : Char} {text : List Char} (visible : isBlank c = false)
    (unclosed : c ≠ ']') : parseValue (fuel + 1) ('[' :: c :: text)
      = (parseItems fuel (c :: text)).map fun (items, rest) => (.arr items, rest) := by
  rw [parseValue, skipBlanks_cons (by decide)]
  simp only [Char.reduceEq, if_false, if_true]
  rw [skipBlanks_cons visible]
  split
  · next same => exact absurd (List.cons.inj same).1 unclosed
  · rfl

theorem parseItems_canonicalText {items : List JSONValue} (nonempty : items ≠ [])
    (each : ∀ item ∈ items, ReadsBack item) {fuel : Nat}
    (enough : (commaJoin (items.map canonicalText)).length < fuel) (rest : List Char) :
    parseItems fuel (commaJoin (items.map canonicalText) ++ ']' :: rest)
      = some (items.map canonical, rest) := by
  induction items generalizing fuel with
  | nil => exact absurd rfl nonempty
  | cons item items ih =>
      obtain ⟨fuel, rfl⟩ : ∃ n, fuel = n + 1 := ⟨fuel - 1, by omega⟩
      have here := each item List.mem_cons_self
      cases items with
      | nil =>
          have text : commaJoin ([item].map canonicalText) = canonicalText item := rfl
          rw [text] at enough ⊢
          rw [parseItems, here fuel (']' :: rest) (by omega) (.inr (.inl rfl))]
          rfl
      | cons item' items =>
          have text : commaJoin ((item :: item' :: items).map canonicalText)
              = canonicalText item ++ ',' :: commaJoin ((item' :: items).map canonicalText) := rfl
          rw [text, List.length_append, List.length_cons] at enough
          have later := ih (by simp) (fun i member => each i (List.mem_cons_of_mem _ member))
            (show _ < fuel by omega)
          rw [text, List.append_assoc, List.cons_append, parseItems,
            here fuel (',' :: _) (by omega) (.inl rfl)]
          simp only [Option.bind_eq_bind, Option.bind_some]
          rw [skipBlanks_cons (by decide)]
          simp only [later, Option.bind_some]
          rfl

/-- The text of one member. -/
def memberChars (m : String × JSONValue) : List Char := quoted m.1 ++ ':' :: canonicalText m.2

/-- The text of a member and what follows, with the opening quotation mark in front. -/
theorem memberChars_append (m : String × JSONValue) (rest : List Char) :
    memberChars m ++ rest = '\x22' :: (m.1.toList.flatMap escapeChar
      ++ '\x22' :: ':' :: (canonicalText m.2 ++ rest)) := by
  simp [memberChars, quoted, List.append_assoc]

/-- An object that does not close at once holds members. -/
theorem parseValue_brace (fuel : Nat) {c : Char} {text : List Char} (visible : isBlank c = false)
    (unclosed : c ≠ '\x7d') : parseValue (fuel + 1) ('\x7b' :: c :: text)
      = (parseMembers fuel (c :: text)).map fun (members, rest) => (.obj members, rest) := by
  rw [parseValue, skipBlanks_cons (by decide)]
  simp only [Char.reduceEq, if_false, if_true]
  rw [skipBlanks_cons visible]
  split
  · next same => exact absurd (List.cons.inj same).1 unclosed
  · rfl

theorem parseMembers_canonicalText {members : List (String × JSONValue)} (nonempty : members ≠ [])
    (each : ∀ m ∈ members, ReadsBack m.2) {fuel : Nat}
    (enough : (commaJoin (members.map memberChars)).length < fuel) (rest : List Char) :
    parseMembers fuel (commaJoin (members.map memberChars) ++ '\x7d' :: rest)
      = some (members.map fun m => (m.1, canonical m.2), rest) := by
  have long : ∀ m, (canonicalText m.2).length ≤ (memberChars m).length := fun m => by
    simp only [memberChars, List.length_append, List.length_cons]
    omega
  induction members generalizing fuel with
  | nil => exact absurd rfl nonempty
  | cons m members ih =>
      obtain ⟨fuel, rfl⟩ : ∃ n, fuel = n + 1 := ⟨fuel - 1, by omega⟩
      have here := each m List.mem_cons_self
      have value := long m
      cases members with
      | nil =>
          have text : commaJoin ([m].map memberChars) = memberChars m := rfl
          rw [text] at enough ⊢
          rw [memberChars_append, parseMembers, skipBlanks_cons (by decide)]
          simp only [parseString_quoted, Option.bind_eq_bind, Option.bind_some]
          rw [skipBlanks_cons (by decide)]
          simp only [here fuel ('\x7d' :: rest) (by omega) (.inr (.inr rfl)), Option.bind_some]
          rfl
      | cons m' members =>
          have text : commaJoin ((m :: m' :: members).map memberChars)
              = memberChars m ++ ',' :: commaJoin ((m' :: members).map memberChars) := rfl
          rw [text, List.length_append, List.length_cons] at enough
          have later := ih (by simp) (fun x member => each x (List.mem_cons_of_mem _ member))
            (show _ < fuel by omega)
          rw [text, List.append_assoc, List.cons_append, memberChars_append, parseMembers,
            skipBlanks_cons (by decide)]
          simp only [parseString_quoted, Option.bind_eq_bind, Option.bind_some]
          rw [skipBlanks_cons (by decide)]
          simp only [here fuel (',' :: _) (by omega) (.inl rfl), Option.bind_some]
          rw [skipBlanks_cons (by decide)]
          simp only [later, Option.bind_some]
          rfl

/-- The sorted members are the members. -/
theorem mem_sortKeys {α : Type} {members : List (String × α)} {m : String × α} :
    m ∈ sortKeys members ↔ m ∈ members := List.mem_insertionSort _

theorem canonicalText_obj (members : List (String × JSONValue)) :
    canonicalText (.obj members)
      = '\x7b' :: (commaJoin ((sortKeys members).map memberChars) ++ ['\x7d']) := by
  rw [canonicalText, memberTexts_eq_map, sortKeys_map, List.map_map]
  rfl

theorem parseValue_canonicalText {value : JSONValue} (formed : Serialisable value) :
    ReadsBack value := by
  induction value using JSONValue.induction with
  | null =>
      intro fuel rest enough stops
      obtain ⟨fuel, rfl⟩ : ∃ n, fuel = n + 1 := ⟨fuel - 1, by
        have long : (canonicalText .null).length = 4 := rfl
        omega⟩
      rfl
  | bool value =>
      intro fuel rest enough stops
      obtain ⟨fuel, rfl⟩ : ∃ n, fuel = n + 1 := ⟨fuel - 1, by
        have long : 4 ≤ (canonicalText (.bool value)).length := by cases value <;> decide
        omega⟩
      cases value <;> rfl
  | int value =>
      intro fuel rest enough stops
      rw [canonicalText] at enough ⊢
      obtain ⟨c, more, text, start⟩ := numberStart_int value
      have read := parseNumber_int value stops
      rw [text] at enough read ⊢
      obtain ⟨fuel, rfl⟩ : ∃ n, fuel = n + 1 := ⟨fuel - 1, by
        rw [List.length_cons] at enough
        omega⟩
      rw [List.cons_append] at read ⊢
      rw [parseValue_number fuel start, read, canonical]
  | float negative digits exponent =>
      intro fuel rest enough stops
      cases formed with
      | float _ _ shortest =>
        rw [canonicalText] at enough ⊢
        obtain ⟨c, more, text, start⟩ := numberStart_float shortest.small negative exponent
        have read := parseNumber_float shortest negative exponent stops
        rw [text] at enough read ⊢
        obtain ⟨fuel, rfl⟩ : ∃ n, fuel = n + 1 := ⟨fuel - 1, by
          rw [List.length_cons] at enough
          omega⟩
        rw [List.cons_append] at read ⊢
        rw [parseValue_number fuel start, read, canonical]
  | str value =>
      intro fuel rest enough stops
      rw [canonicalText, quoted, List.length_cons] at enough
      obtain ⟨fuel, rfl⟩ : ∃ n, fuel = n + 1 := ⟨fuel - 1, by omega⟩
      rw [canonicalText, quoted, List.cons_append, List.append_assoc, List.cons_append,
        List.nil_append, parseValue, skipBlanks_cons (by decide)]
      simp only [parseString_quoted]
      rfl
  | arr items ih =>
      intro fuel rest enough stops
      cases formed with
      | arr each =>
        rw [canonicalText, itemTexts_eq_map] at enough ⊢
        rw [List.length_cons, List.length_append] at enough
        obtain ⟨fuel, rfl⟩ : ∃ n, fuel = n + 1 := ⟨fuel - 1, by omega⟩
        rw [canonical, canonicalItems_eq_map, List.cons_append, List.append_assoc,
          List.cons_append, List.nil_append]
        by_cases empty : items = []
        · subst empty
          rfl
        · have read := parseItems_canonicalText empty (fun item member =>
            ih item member (each item member)) (show _ < fuel by
              rw [List.length_cons, List.length_nil] at enough
              omega) rest
          obtain ⟨item, items, rfl⟩ := List.exists_cons_of_ne_nil empty
          obtain ⟨c, more, text, visible, unclosed⟩ :=
            canonicalText_start (each item List.mem_cons_self)
          obtain ⟨tail, joined⟩ : ∃ tail, commaJoin ((item :: items).map canonicalText)
              = c :: tail := by
            cases items with
            | nil => exact ⟨more, text⟩
            | cons item' items =>
                exact ⟨_, congrArg (· ++ ',' :: commaJoin ((item' :: items).map canonicalText)) text⟩
          rw [joined, List.cons_append] at read ⊢
          rw [parseValue_bracket fuel visible unclosed, read]
          rfl
  | obj members ih =>
      intro fuel rest enough stops
      cases formed with
      | obj keys each =>
        rw [canonicalText_obj] at enough ⊢
        rw [List.length_cons, List.length_append] at enough
        obtain ⟨fuel, rfl⟩ : ∃ n, fuel = n + 1 := ⟨fuel - 1, by omega⟩
        rw [canonical, canonicalMembers_eq_map, sortKeys_map, List.cons_append, List.append_assoc,
          List.cons_append, List.nil_append]
        by_cases empty : sortKeys members = []
        · rw [empty]
          rfl
        · have read := parseMembers_canonicalText empty (fun m member =>
            ih m (mem_sortKeys.mp member) (each m (mem_sortKeys.mp member))) (show _ < fuel by
              rw [List.length_cons, List.length_nil] at enough
              omega) rest
          obtain ⟨m, sorted, parts⟩ := List.exists_cons_of_ne_nil empty
          obtain ⟨tail, joined⟩ : ∃ tail, commaJoin ((sortKeys members).map memberChars)
              = '\x22' :: tail := by
            rw [parts]
            cases sorted with
            | nil => exact ⟨_, rfl⟩
            | cons m' sorted => exact ⟨_, rfl⟩
          rw [joined, List.cons_append] at read ⊢
          rw [parseValue_brace fuel (by decide) (by decide), read]
          rfl

/-- The bytes of a text are decoded to the text. -/
theorem fromUTF8_encode (s : String) : String.fromUTF8? ⟨(encode s).toArray⟩ = some s := by
  have bytes : (⟨(encode s).toArray⟩ : ByteArray) = s.toByteArray := ByteArray.ext (by simp [encode])
  rw [bytes, String.fromUTF8?, dif_pos s.isValidUTF8]
  rfl

/-- What is read back off the canonical text of a value is its canonical form. -/
theorem parse_jcs {value : JSONValue} (formed : Serialisable value) :
    parse (jcs value) = some (canonical value) := by
  have text : jcs value = encode (String.ofList (canonicalText value)) := by
    rw [jcs_eq_utf8, encode_eq_utf8, String.toList_ofList]
  have read := parseValue_canonicalText formed ((canonicalText value).length + 1) []
    (Nat.le_succ _) trivial
  rw [List.append_nil] at read
  simp only [parse, text, fromUTF8_encode, Option.bind_eq_bind, Option.bind_some,
    String.toList_ofList, parseText, read]
  rfl

/-- In objects with one canonical text, values under one key have one canonical form. -/
theorem canonical_eq_of_jcs_eq {members members' : List (String × JSONValue)}
    (formed : Serialisable (.obj members)) (formed' : Serialisable (.obj members'))
    (same : jcs (.obj members) = jcs (.obj members')) {key : String} {value value' : JSONValue}
    (member : (key, value) ∈ members) (member' : (key, value') ∈ members') :
    canonical value = canonical value' := by
  have read := parse_jcs formed
  rw [same, parse_jcs formed', Option.some.injEq, canonical, canonical, JSONValue.obj.injEq,
    canonicalMembers_eq_map, canonicalMembers_eq_map] at read
  have here : (key, canonical value) ∈ sortKeys (members.map fun m => (m.1, canonical m.2)) :=
    mem_sortKeys.mpr (List.mem_map.mpr ⟨_, member, rfl⟩)
  rw [← read, mem_sortKeys] at here
  obtain ⟨m, present, equal⟩ := List.mem_map.mp here
  obtain ⟨named, equal⟩ := Prod.mk.inj equal
  cases formed' with
  | obj keys each =>
      have sole := List.inj_on_of_nodup_map keys present member' named
      rw [← equal, sole]

end Actl.Audit
