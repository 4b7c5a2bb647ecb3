import Mathlib.Data.List.Lex
import Mathlib.Data.List.Sort
import Actl.Platform

/-!
# Canonical JSON

The canonicalization scheme of RFC 8785 as `domain/audit/canonical.py` computes
it: no white space, object members sorted by the UTF-16 code units of their
keys, minimal string escapes and the ECMAScript layout of numbers.
-/

set_option autoImplicit false

namespace Actl.Audit

/-- The UTF-16 code units of a character. -/
def utf16Units (c : Char) : List Nat :=
  let n := c.toNat
  if n < 0x10000 then [n] else [0xD800 + (n - 0x10000) / 0x400, 0xDC00 + (n - 0x10000) % 0x400]

def utf16 (s : String) : List Nat := s.toList.flatMap utf16Units

/-- The escape of one byte. Every character that is escaped is a single byte, and
no byte of a longer character is below 0x80. -/
def escapeByte (b : UInt8) : Bytes :=
  match b.toNat with
  | 0x22 => [0x5C, 0x22]
  | 0x5C => [0x5C, 0x5C]
  | 0x08 => [0x5C, 0x62]
  | 0x0C => [0x5C, 0x66]
  | 0x0A => [0x5C, 0x6E]
  | 0x0D => [0x5C, 0x72]
  | 0x09 => [0x5C, 0x74]
  | n =>
      if n < 0x20 then
        [0x5C, 0x75, 0x30, 0x30, (Nat.digitChar (n / 16)).toUInt8, (Nat.digitChar (n % 16)).toUInt8]
      else [b]

def encodeString (s : String) : Bytes := 0x22 :: ((encode s).flatMap escapeByte ++ [0x22])

def digitString (digits : List Nat) : String := String.join (digits.map toString)

def zeros (n : Nat) : String := String.ofList (List.replicate n '0')

/-- The ECMAScript layout of a number from its shortest digits. -/
def encodeNumber (negative : Bool) (digits : List Nat) (exponent : Int) : String :=
  if digits = [] then "0" else
  let sign := if negative then "-" else ""
  let k : Int := digits.length
  let n := exponent + k
  let body :=
    if k ≤ n ∧ n ≤ 21 then digitString digits ++ zeros (n - k).toNat
    else if 0 < n ∧ n ≤ 21 then
      digitString (digits.take n.toNat) ++ "." ++ digitString (digits.drop n.toNat)
    else if -6 < n ∧ n ≤ 0 then "0." ++ zeros (-n).toNat ++ digitString digits
    else
      let mantissa :=
        if k = 1 then digitString (digits.take 1)
        else digitString (digits.take 1) ++ "." ++ digitString (digits.drop 1)
      let e := n - 1
      mantissa ++ "e" ++ (if 0 ≤ e then "+" else "-") ++ toString e.natAbs
  sign ++ body

/-- Members in the order of their keys' UTF-16 code units. -/
def sortMembers (members : List (String × Bytes)) : List (String × Bytes) :=
  members.insertionSort fun a b => utf16 a.1 ≤ utf16 b.1

/-- `",".join(..)`. -/
def joinComma : List Bytes → Bytes
  | [] => []
  | [item] => item
  | item :: items => item ++ 0x2C :: joinComma items

mutual
/-- `jcs(value).encode()`, the form in which the canonical text is hashed.
Members are encoded first and then sorted by their keys, which is the same text
as sorting first. -/
def jcs : JSONValue → Bytes
  | .null => encode "null"
  | .bool true => encode "true"
  | .bool false => encode "false"
  | .str value => encodeString value
  | .int value => encode (toString value)
  | .float negative digits exponent => encode (encodeNumber negative digits exponent)
  | .obj members =>
      0x7B :: (joinComma ((sortMembers (jcsMembers members)).map fun (key, value) =>
        encodeString key ++ 0x3A :: value) ++ [0x7D])
  | .arr items => 0x5B :: (joinComma (jcsItems items) ++ [0x5D])

def jcsItems : List JSONValue → List Bytes
  | [] => []
  | item :: items => jcs item :: jcsItems items

def jcsMembers : List (String × JSONValue) → List (String × Bytes)
  | [] => []
  | (key, value) :: members => (key, jcs value) :: jcsMembers members
end

example : jcs (.obj [("b", .int 2), ("a", .arr [.null, .str "x\ny"])])
    = encode "\x7b\"a\":[null,\"x\\ny\"],\"b\":2\x7d" := by decide +kernel

example : encodeNumber false [1, 5] 20 = "1.5e+21" := by decide

end Actl.Audit
