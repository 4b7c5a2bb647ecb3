import Mathlib.Data.List.Basic

/-!
# Text by code points

The text of a runtime that keeps code points: besides characters it may hold a
surrogate without its partner, as an escape can spell one. Such a text is no string
and has no encoding (`string?`).
-/

set_option autoImplicit false

namespace Actl.Foundation

/-- A character, or the surrogate this far behind U+D800. -/
inductive CodePoint where
  | char (c : Char)
  | surrogate (unit : Fin 0x800)
  deriving DecidableEq

namespace CodePoint

def char? : CodePoint → Option Char
  | .char c => some c
  | .surrogate _ => none

def isAscii : CodePoint → Bool
  | .char c => c.toNat < 128
  | .surrogate _ => false

end CodePoint

abbrev CodeText : Type := List CodePoint

namespace CodeText

def ofChars (chars : List Char) : CodeText := chars.map .char

def ofString (text : String) : CodeText := ofChars text.toList

/-- The characters, unless there is a surrogate among them. -/
def chars? (text : CodeText) : Option (List Char) := text.mapM CodePoint.char?

/-- The string, unless there is a surrogate in it. -/
def string? (text : CodeText) : Option String := text.chars?.map String.ofList

def isAscii (text : CodeText) : Bool := text.all CodePoint.isAscii

@[simp] theorem chars?_ofChars (chars : List Char) : (ofChars chars).chars? = some chars := by
  induction chars with
  | nil => rfl
  | cons c chars ih =>
      rw [chars?, ofChars] at ih ⊢
      rw [List.map_cons, List.mapM_cons, ih]
      rfl

@[simp] theorem string?_ofString (text : String) : (ofString text).string? = some text := by
  rw [string?, ofString, chars?_ofChars, Option.map_some, String.ofList_toList]

theorem ofString_injective : Function.Injective ofString := fun text text' same =>
  Option.some.inj ((string?_ofString text).symm.trans
    ((congrArg string? same).trans (string?_ofString text')))

theorem ofChars_append (chars chars' : List Char) :
    ofChars (chars ++ chars') = ofChars chars ++ ofChars chars' := List.map_append

/-- A text with a string consists of its characters. -/
theorem eq_ofChars_of_chars? {text : CodeText} {chars : List Char}
    (plain : text.chars? = some chars) : text = ofChars chars := by
  induction text generalizing chars with
  | nil =>
      cases plain
      rfl
  | cons point text ih =>
      rw [chars?, List.mapM_cons] at plain
      cases point with
      | surrogate unit => cases plain
      | char c =>
          cases rest : chars? text with
          | none =>
              rw [chars?] at rest
              rw [rest] at plain
              cases plain
          | some chars' =>
              have same := ih rest
              rw [chars?] at rest
              rw [rest] at plain
              obtain rfl := Option.some.inj plain
              rw [same]
              rfl

end CodeText

end Actl.Foundation
