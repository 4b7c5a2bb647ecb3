import Actl.Audit.Text

/-!
# Reading JSON

A parser for the grammar of RFC 8259, over the characters of a text: blanks between
tokens, every escape of a string, surrogate pairs included, and every form of a
number. A number without fraction or exponent is read as an integer and any other as
the decimal it denotes. Members of an object come in the order of the text.

The parser descends by fuel; the length of the text is enough of it for every
canonical text (`parseValue_canonicalText` in the next module).
-/

set_option autoImplicit false

namespace Actl.Audit

/-! ## Strings -/

def isBlank (c : Char) : Bool := c = ' ' ∨ c = '\t' ∨ c = '\n' ∨ c = '\r'

def skipBlanks (text : List Char) : List Char := text.dropWhile isBlank

/-- The value of a hexadecimal digit. -/
def hexDigit? (c : Char) : Option Nat :=
  if '0' ≤ c ∧ c ≤ '9' then some (c.toNat - 0x30)
  else if 'a' ≤ c ∧ c ≤ 'f' then some (c.toNat - 0x57)
  else if 'A' ≤ c ∧ c ≤ 'F' then some (c.toNat - 0x37)
  else none

/-- A code unit of four hexadecimal digits. -/
def hexUnit? : List Char → Option (Nat × List Char)
  | a :: b :: c :: d :: rest => do
      let a ← hexDigit? a
      let b ← hexDigit? b
      let c ← hexDigit? c
      let d ← hexDigit? d
      some (((a * 16 + b) * 16 + c) * 16 + d, rest)
  | _ => none

/-- The character of a numeric escape. A high surrogate needs a low one after it. -/
def numericEscape? (text : List Char) : Option (Char × List Char) := do
  let (unit, rest) ← hexUnit? text
  if 0xD800 ≤ unit ∧ unit < 0xDC00 then
    match rest with
    | '\\' :: 'u' :: rest => do
        let (low, rest) ← hexUnit? rest
        if 0xDC00 ≤ low ∧ low < 0xE000 then
          some (Char.ofNat (0x10000 + (unit - 0xD800) * 0x400 + (low - 0xDC00)), rest)
        else none
    | _ => none
  else if 0xDC00 ≤ unit ∧ unit < 0xE000 then none
  else some (Char.ofNat unit, rest)

/-- The character of an escape with one letter. -/
def shortEscape? (c : Char) : Option Char :=
  match c.toNat with
  | 0x22 => some '\x22'
  | 0x5C => some '\\'
  | 0x2F => some '/'
  | 0x62 => some '\x08'
  | 0x66 => some '\x0c'
  | 0x6E => some '\n'
  | 0x72 => some '\r'
  | 0x74 => some '\t'
  | _ => none

/-- What stands after a backslash. -/
def unescape? : List Char → Option (Char × List Char)
  | [] => none
  | c :: rest => if c = 'u' then numericEscape? rest else (shortEscape? c).map (·, rest)

/-- The characters up to the closing quotation mark. -/
def parseChars : Nat → List Char → Option (List Char × List Char)
  | 0, _ => none
  | _ + 1, [] => none
  | fuel + 1, c :: rest =>
      if c = '\x22' then some ([], rest)
      else if c = '\\' then do
        let (c, rest) ← unescape? rest
        let (chars, rest) ← parseChars fuel rest
        some (c :: chars, rest)
      else if c.toNat < 0x20 then none
      else do
        let (chars, rest) ← parseChars fuel rest
        some (c :: chars, rest)

/-- A string after its opening quotation mark. -/
def parseString (text : List Char) : Option (String × List Char) := do
  let (chars, rest) ← parseChars (text.length + 1) text
  some (String.ofList chars, rest)

/-! ## Numbers -/

/-- The leading digits of a text, and the rest. -/
def scanDigits (text : List Char) : List Char × List Char :=
  (text.takeWhile Char.isDigit, text.dropWhile Char.isDigit)

def parseFraction (text : List Char) : Option (List Char × List Char) :=
  match text with
  | '.' :: rest =>
      let (digits, rest) := scanDigits rest
      if digits = [] then none else some (digits, rest)
  | _ => some ([], text)

def natOf (digits : List Char) : Nat := Nat.ofDigitChars 10 digits 0

/-- The minus sign a number may begin with. -/
def parseSign (text : List Char) : Bool × List Char :=
  match text with
  | '-' :: rest => (true, rest)
  | text => (false, text)

/-- The sign an exponent may begin with. -/
def parseExponentSign (text : List Char) : Bool × List Char :=
  match text with
  | '-' :: rest => (true, rest)
  | '+' :: rest => (false, rest)
  | text => (false, text)

def parseExponent (text : List Char) : Option (Option Int × List Char) :=
  match text with
  | [] => some (none, [])
  | c :: rest =>
      if c = 'e' ∨ c = 'E' then
        let (negative, rest) := parseExponentSign rest
        let (digits, rest) := scanDigits rest
        if digits = [] then none
        else some (some (if negative then -(natOf digits : Int) else natOf digits), rest)
      else some (none, c :: rest)

/-- The float of a decimal, without its leading and trailing zeros. -/
def floatOf (negative : Bool) (digits : List Nat) (exponent : Int) : JSONValue :=
  let digits := digits.dropWhile (· = 0)
  let shortest := (digits.reverse.dropWhile (· = 0)).reverse
  .float negative shortest
    (if shortest = [] then 0 else exponent + (digits.length - shortest.length : Nat))

def parseNumber (text : List Char) : Option (JSONValue × List Char) := do
  let (negative, rest) := parseSign text
  let (whole, rest) := scanDigits rest
  if whole = [] ∨ (whole.head? = some '0' ∧ whole ≠ ['0']) then none
  else do
    let (fraction, rest) ← parseFraction rest
    let (exponent, rest) ← parseExponent rest
    if fraction = [] ∧ exponent = none then
      some (.int (if negative then -(natOf whole : Int) else natOf whole), rest)
    else
      some (floatOf negative ((whole ++ fraction).map fun c => c.toNat - 0x30)
        (exponent.getD 0 - (fraction.length : Int)), rest)

/-! ## Values -/

/-- The rest of a text after a word it begins with. -/
def expect? (word text : List Char) : Option (List Char) :=
  if word.isPrefixOf text then some (text.drop word.length) else none

mutual
def parseValue : Nat → List Char → Option (JSONValue × List Char)
  | 0, _ => none
  | fuel + 1, text =>
      match skipBlanks text with
      | [] => none
      | c :: rest =>
          if c = 'n' then (expect? ['u', 'l', 'l'] rest).map (.null, ·)
          else if c = 't' then (expect? ['r', 'u', 'e'] rest).map (.bool true, ·)
          else if c = 'f' then (expect? ['a', 'l', 's', 'e'] rest).map (.bool false, ·)
          else if c = '\x22' then (parseString rest).map fun (value, rest) => (.str value, rest)
          else if c = '[' then
            match skipBlanks rest with
            | ']' :: rest => some (.arr [], rest)
            | rest => (parseItems fuel rest).map fun (items, rest) => (.arr items, rest)
          else if c = '\x7b' then
            match skipBlanks rest with
            | '\x7d' :: rest => some (.obj [], rest)
            | rest => (parseMembers fuel rest).map fun (members, rest) => (.obj members, rest)
          else parseNumber (c :: rest)

/-- The items of an array up to its closing bracket. -/
def parseItems : Nat → List Char → Option (List JSONValue × List Char)
  | 0, _ => none
  | fuel + 1, text => do
      let (item, rest) ← parseValue fuel text
      match skipBlanks rest with
      | ',' :: rest => do
          let (items, rest) ← parseItems fuel rest
          some (item :: items, rest)
      | ']' :: rest => some ([item], rest)
      | _ => none

/-- The members of an object up to its closing brace. -/
def parseMembers : Nat → List Char → Option (List (String × JSONValue) × List Char)
  | 0, _ => none
  | fuel + 1, text =>
      match skipBlanks text with
      | '\x22' :: rest => do
          let (key, rest) ← parseString rest
          match skipBlanks rest with
          | ':' :: rest => do
              let (value, rest) ← parseValue fuel rest
              match skipBlanks rest with
              | ',' :: rest => do
                  let (members, rest) ← parseMembers fuel rest
                  some ((key, value) :: members, rest)
              | '\x7d' :: rest => some ([(key, value)], rest)
              | _ => none
          | _ => none
      | _ => none
end

/-- A text that is one value. -/
def parseText (text : List Char) : Option JSONValue := do
  let (value, rest) ← parseValue (text.length + 1) text
  if skipBlanks rest = [] then some value else none

/-- A value in UTF-8. -/
def parse (bytes : Bytes) : Option JSONValue := do
  let text ← String.fromUTF8? ⟨bytes.toArray⟩
  parseText text.toList

end Actl.Audit
