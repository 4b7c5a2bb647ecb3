import Actl.Audit.Canonical
import Actl.Foundation.CodeText

/-!
# Values as they are loaded

What `json.loads` makes of a request: the escapes of a text may leave a lone surrogate
in it, and a number may be out of range or spelled `NaN`. Canonicalisation raises on
both, on the number in `_encode_number` and on the text when it is encoded.
-/

set_option autoImplicit false

namespace Actl.Audit

open Foundation (CodeText)

inductive LoadedValue where
  | null
  | bool (value : Bool)
  | int (value : Int)
  | float (negative : Bool) (digits : List Nat) (exponent : Int)
  /-- An infinity, or what is not a number. -/
  | nonFinite (text : String)
  | str (value : CodeText)
  | arr (items : List LoadedValue)
  | obj (members : List (CodeText × LoadedValue))

namespace LoadedValue

/-- The value under a key of an object. -/
def get? : LoadedValue → String → Option LoadedValue
  | .obj members, key => members.lookup (CodeText.ofString key)
  | _, _ => none

mutual
/-- The value, if it has a canonical text. -/
def plain? : LoadedValue → Option JSONValue
  | .null => some .null
  | .bool value => some (.bool value)
  | .int value => some (.int value)
  | .float negative digits exponent => some (.float negative digits exponent)
  | .nonFinite _ => none
  | .str value => value.string?.map .str
  | .arr items => (plainItems? items).map .arr
  | .obj members => (plainMembers? members).map .obj

def plainItems? : List LoadedValue → Option (List JSONValue)
  | [] => some []
  | item :: items => do
      let item ← plain? item
      let items ← plainItems? items
      return item :: items

def plainMembers? : List (CodeText × LoadedValue) → Option (List (String × JSONValue))
  | [] => some []
  | (key, value) :: members => do
      let key ← key.string?
      let value ← plain? value
      let members ← plainMembers? members
      return (key, value) :: members
end

mutual
/-- A value without such texts and numbers. -/
def ofJson : JSONValue → LoadedValue
  | .null => .null
  | .bool value => .bool value
  | .int value => .int value
  | .float negative digits exponent => .float negative digits exponent
  | .str value => .str (CodeText.ofString value)
  | .arr items => .arr (ofItems items)
  | .obj members => .obj (ofMembers members)

def ofItems : List JSONValue → List LoadedValue
  | [] => []
  | item :: items => ofJson item :: ofItems items

def ofMembers : List (String × JSONValue) → List (CodeText × LoadedValue)
  | [] => []
  | (key, value) :: members => (CodeText.ofString key, ofJson value) :: ofMembers members
end

theorem ofMembers_append (members members' : List (String × JSONValue)) :
    ofMembers (members ++ members') = ofMembers members ++ ofMembers members' := by
  induction members with
  | nil => rfl
  | cons m members ih => rw [List.cons_append, ofMembers, ofMembers, ih, List.cons_append]

mutual
@[simp] theorem plain?_ofJson : (value : JSONValue) → (ofJson value).plain? = some value
  | .null | .bool _ | .int _ | .float _ _ _ => rfl
  | .str value => by rw [ofJson, plain?, CodeText.string?_ofString, Option.map_some]
  | .arr items => by rw [ofJson, plain?, plainItems?_ofItems, Option.map_some]
  | .obj members => by rw [ofJson, plain?, plainMembers?_ofMembers, Option.map_some]

theorem plainItems?_ofItems : (items : List JSONValue) → plainItems? (ofItems items) = some items
  | [] => rfl
  | item :: items => by
      rw [ofItems, plainItems?, plain?_ofJson, plainItems?_ofItems]
      rfl

theorem plainMembers?_ofMembers :
    (members : List (String × JSONValue)) → plainMembers? (ofMembers members) = some members
  | [] => rfl
  | (key, value) :: members => by
      rw [ofMembers, plainMembers?, CodeText.string?_ofString, plain?_ofJson,
        plainMembers?_ofMembers]
      rfl
end

theorem plainMembers?_append {members : List (String × JSONValue)} (key : CodeText)
    (value : LoadedValue) : plainMembers? (ofMembers members ++ [(key, value)]) = (do
      let key ← key.string?
      let value ← value.plain?
      return members ++ [(key, value)]) := by
  induction members with
  | nil => 
      rw [ofMembers, List.nil_append, plainMembers?, plainMembers?]
      rfl
  | cons m members ih =>
      rw [ofMembers, List.cons_append, plainMembers?, CodeText.string?_ofString, plain?_ofJson, ih]
      cases key.string? with
      | none => rfl
      | some key =>
          cases value.plain? with
          | none => rfl
          | some value => rfl

/-- A value that is read is read under its key. -/
theorem get?_ofJson (members : List (String × JSONValue)) (key : String) :
    (ofJson (.obj members)).get? key = (members.lookup key).map ofJson := by
  rw [ofJson, get?]
  induction members with
  | nil => rfl
  | cons m members ih =>
      obtain ⟨name, value⟩ := m
      have same : (CodeText.ofString key == CodeText.ofString name) = (key == name) := by
        rw [Bool.eq_iff_iff, beq_iff_eq, beq_iff_eq]
        exact CodeText.ofString_injective.eq_iff
      rw [ofMembers, List.lookup_cons, List.lookup_cons, ih, same]
      cases key == name with
      | true => rfl
      | false => rfl

/-- `jcs(value).encode("utf-8")`. -/
def canonicalBytes (value : LoadedValue) : Except Failure Bytes :=
  match value.plain? with
  | some value => .ok (jcs value)
  | none => .error .valueError

@[simp] theorem canonicalBytes_ofJson (value : JSONValue) :
    (ofJson value).canonicalBytes = .ok (jcs value) := by
  rw [canonicalBytes, plain?_ofJson]

end LoadedValue

end Actl.Audit
