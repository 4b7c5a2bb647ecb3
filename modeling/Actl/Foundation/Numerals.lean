import Mathlib.Data.List.TakeWhile
import Actl.Foundation.Decimal

/-!
# Blanks and decimal digits of Unicode

The characters a text is stripped of, and the characters that stand for a decimal
digit: ten in a row for each script (Unicode 15.0).
-/

set_option autoImplicit false

namespace Actl.Foundation

/-! ## Blanks -/

/-- The code points that count as white space. -/
def blankCodes : List Nat := [
  0x9, 0xa, 0xb, 0xc, 0xd, 0x1c, 0x1d, 0x1e, 0x1f, 0x20, 0x85, 0xa0, 0x1680, 0x2000, 0x2001,
  0x2002, 0x2003, 0x2004, 0x2005, 0x2006, 0x2007, 0x2008, 0x2009, 0x200a, 0x2028, 0x2029, 0x202f,
  0x205f, 0x3000]

def isBlank (c : Char) : Bool := blankCodes.contains c.toNat

/-- The text without the blanks around it. -/
def strip (text : List Char) : List Char :=
  ((text.dropWhile isBlank).reverse.dropWhile isBlank).reverse

theorem strip_of_no_blank {text : List Char} (none : ∀ c ∈ text, isBlank c = false) :
    strip text = text := by
  have kept : ∀ {text : List Char}, (∀ c ∈ text, isBlank c = false) →
      text.dropWhile isBlank = text := by
    intro text none
    cases text with
    | nil => rfl
    | cons c text => rw [List.dropWhile_cons_of_neg (by simp [none c List.mem_cons_self])]
  rw [strip, kept none, kept (fun c member => none c (List.mem_reverse.mp member)),
    List.reverse_reverse]

/-- A character that is not a blank is not stripped. -/
theorem mem_strip {text : List Char} {c : Char} (member : c ∈ text)
    (visible : isBlank c = false) : c ∈ strip text := by
  have kept : ∀ {text : List Char}, c ∈ text → c ∈ text.dropWhile isBlank := by
    intro text member
    rw [← List.takeWhile_append_dropWhile (p := isBlank) (l := text)] at member
    rcases List.mem_append.mp member with front | back
    · have blank := List.mem_takeWhile_imp front
      rw [visible] at blank
      cases blank
    · exact back
  exact List.mem_reverse.mpr (kept (List.mem_reverse.mpr (kept member)))

theorem strip_sublist (text : List Char) : (strip text).Sublist text := by
  have stripped := (List.dropWhile_sublist isBlank (l := (text.dropWhile isBlank).reverse)).reverse
  rw [List.reverse_reverse] at stripped
  exact stripped.trans (List.dropWhile_sublist isBlank)

/-! ## Digits -/

/-- The code points of the zeros. -/
def zeroCodes : List Nat := [
  0x30, 0x660, 0x6f0, 0x7c0, 0x966, 0x9e6, 0xa66, 0xae6, 0xb66, 0xbe6, 0xc66, 0xce6, 0xd66, 0xde6,
  0xe50, 0xed0, 0xf20, 0x1040, 0x1090, 0x17e0, 0x1810, 0x1946, 0x19d0, 0x1a80, 0x1a90, 0x1b50,
  0x1bb0, 0x1c40, 0x1c50, 0xa620, 0xa8d0, 0xa900, 0xa9d0, 0xa9f0, 0xaa50, 0xabf0, 0xff10, 0x104a0,
  0x10d30, 0x11066, 0x110f0, 0x11136, 0x111d0, 0x112f0, 0x11450, 0x114d0, 0x11650, 0x116c0,
  0x11730, 0x118e0, 0x11950, 0x11c50, 0x11d50, 0x11da0, 0x11f50, 0x16a60, 0x16ac0, 0x16b50,
  0x1d7ce, 0x1d7d8, 0x1d7e2, 0x1d7ec, 0x1d7f6, 0x1e140, 0x1e2f0, 0x1e4f0, 0x1e950, 0x1fbf0]

/-- The digit a character stands for. -/
def decimalDigit? (c : Char) : Option Nat :=
  (zeroCodes.find? fun code => code ≤ c.toNat && c.toNat < code + 10).map (c.toNat - ·)

/-- The digit of a character in ASCII. -/
def asciiDigit? (c : Char) : Option Nat :=
  if 48 ≤ c.toNat ∧ c.toNat ≤ 57 then some (c.toNat - 48) else none

theorem asciiDigit?_eq_some {c : Char} {d : Nat} (digit : asciiDigit? c = some d) :
    c.toNat = d + 48 ∧ d < 10 := by
  rw [asciiDigit?] at digit
  split at digit
  · cases digit
    omega
  · cases digit

theorem decimalDigit?_of_ascii {c : Char} {d : Nat} (digit : asciiDigit? c = some d) :
    decimalDigit? c = some d := by
  obtain ⟨code, small⟩ := asciiDigit?_eq_some digit
  have first : (zeroCodes.find? fun code => code ≤ c.toNat && c.toNat < code + 10) = some 48 := by
    rw [zeroCodes, List.find?_cons_of_pos]
    simp only [Bool.and_eq_true, decide_eq_true_eq]
    omega
  rw [decimalDigit?, first, Option.map_some]
  congr 1
  omega

theorem asciiDigit?_of_isDigit {c : Char} (digit : c.isDigit = true) :
    asciiDigit? c = some (c.toNat - 48) := by
  obtain ⟨low, high⟩ := Char.isDigit_iff_toNat.mp digit
  exact if_pos ⟨low, high⟩

theorem isBlank_of_ascii {c : Char} {d : Nat} (digit : asciiDigit? c = some d) :
    isBlank c = false := by
  obtain ⟨code, small⟩ := asciiDigit?_eq_some digit
  simp only [isBlank, blankCodes, List.contains_eq_mem, List.mem_cons, List.not_mem_nil, or_false,
    decide_eq_false_iff_not, not_or]
  omega

theorem mapM_of_forall {α β : Type} {f : α → Option β} {g : α → β} {l : List α}
    (each : ∀ a ∈ l, f a = some (g a)) : l.mapM f = some (l.map g) := by
  induction l with
  | nil => rfl
  | cons a l ih =>
      rw [List.mapM_cons, each a List.mem_cons_self,
        ih fun b member => each b (List.mem_cons_of_mem _ member)]
      rfl

theorem forall₂_of_mapM {α β : Type} {f : α → Option β} {l : List α} {l' : List β}
    (mapped : l.mapM f = some l') : List.Forall₂ (fun a b => f a = some b) l l' := by
  induction l generalizing l' with
  | nil =>
      cases mapped
      exact .nil
  | cons a l ih =>
      rw [List.mapM_cons] at mapped
      obtain ⟨b, here, rest⟩ := Option.bind_eq_some_iff.mp mapped
      obtain ⟨bs, there, same⟩ := Option.bind_eq_some_iff.mp rest
      cases same
      exact .cons here (ih there)

theorem exists_of_forall₂ {α β : Type} {r : α → β → Prop} {l : List α} {l' : List β}
    (each : List.Forall₂ r l l') {b : β} (member : b ∈ l') : ∃ a ∈ l, r a b := by
  induction each with
  | nil => cases member
  | cons here _ ih =>
      rcases List.mem_cons.mp member with rfl | later
      · exact ⟨_, List.mem_cons_self, here⟩
      · obtain ⟨a, present, there⟩ := ih later
        exact ⟨a, List.mem_cons_of_mem _ present, there⟩

/-- The digits of a text that has only ASCII digits. -/
def asciiDigits? (text : List Char) : Option (List Nat) := text.mapM asciiDigit?

theorem asciiDigits?_digits {text : List Char} {digits : List Nat}
    (read : asciiDigits? text = some digits) : ∀ c ∈ text, ∃ d, asciiDigit? c = some d := by
  induction text generalizing digits with
  | nil => exact fun c member => by cases member
  | cons c text ih =>
      rw [asciiDigits?, List.mapM_cons] at read
      obtain ⟨d, here, rest⟩ := Option.bind_eq_some_iff.mp read
      obtain ⟨ds, there, -⟩ := Option.bind_eq_some_iff.mp rest
      intro c' member
      rcases List.mem_cons.mp member with rfl | earlier
      · exact ⟨d, here⟩
      · exact ih there c' earlier

end Actl.Foundation
