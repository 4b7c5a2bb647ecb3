import Actl.Foundation.DecimalContext
import Actl.Foundation.Numerals

/-!
# Drafts of mandates

`domain/mandate/draft.py`: what a conversation has said, and the draft that is made
of it. A bound in money comes with evidence, the place in the conversation's text
that it was read from. The amount is computed from that text, with decimal arithmetic
in the default context.

`Decimal` reads more than plain numerals: blanks around the text, underscores
anywhere, the decimal digits of every script, signs, exponents, infinities and NaNs.
-/

set_option autoImplicit false

namespace Actl.Mandates

open Foundation (DecimalNumber DecimalContext decimal decimalDigit? asciiDigits? strip)

/-! ## Decimal texts -/

/-- The default context of `decimal`. -/
def defaultContext : DecimalContext where
  prec := 28
  emin := -999999
  emax := 999999
  positive := by decide

/-- A value of `Decimal`. -/
inductive DecimalValue where
  | nan
  | infinity (negative : Bool)
  | finite (negative : Bool) (number : DecimalNumber)

/-- A numeral of ASCII digits with at most one point. -/
def plainNumeral (text : List Char) : Option DecimalNumber :=
  let whole := text.takeWhile (· ≠ '.')
  let fraction := (text.dropWhile (· ≠ '.')).drop 1
  match asciiDigits? (whole ++ fraction) with
  | none => none
  | some digits => if digits = [] then none else some ⟨decimal digits, -fraction.length⟩

/-- The text in ASCII: blanks around it and underscores are left out, and every
decimal digit becomes one of ASCII. -/
def asciiNumeral (text : List Char) : Option (List Char) :=
  ((strip text).filter (· ≠ '_')).mapM fun c =>
    if c.toNat < 128 then some c else (decimalDigit? c).map Nat.digitChar

def signed : List Char → Bool × List Char
  | '-' :: text => (true, text)
  | '+' :: text => (false, text)
  | text => (false, text)

def isExponentMark (c : Char) : Bool := c = 'e' || c = 'E'

/-- The exponents a `Decimal` can have. -/
def Convertible (x : DecimalNumber) : Prop :=
  x.coefficient = 0 ∨ (x.adjusted ≤ 999999999999999999 ∧ -1999999999999999997 ≤ x.exponent)

instance (x : DecimalNumber) : Decidable (Convertible x) :=
  inferInstanceAs (Decidable (_ ∨ _))

/-- A numeral with an exponent. One without is too short to be out of range. -/
def readNumber (text : List Char) : Option DecimalNumber :=
  match plainNumeral (text.takeWhile fun c => !isExponentMark c) with
  | none => none
  | some x =>
      match text.dropWhile fun c => !isExponentMark c with
      | [] => some x
      | _ :: exponent =>
          match asciiDigits? (signed exponent).2 with
          | none => none
          | some digits =>
              let power : Int := if (signed exponent).1 then -decimal digits else decimal digits
              let read : DecimalNumber := ⟨x.coefficient, x.exponent + power⟩
              if digits ≠ [] ∧ Convertible read then some read else none

/-- `nan` or `snan`, with digits behind it. -/
def isNan (text : List Char) : Bool :=
  ["nan", "snan"].any fun name =>
    name.toList.isPrefixOf text && (asciiDigits? (text.drop name.length)).isSome

/-- `Decimal(text)`; no value when it raises `InvalidOperation`. -/
def readDecimal (text : List Char) : Option DecimalValue :=
  match asciiNumeral text with
  | none => none
  | some ascii =>
      let (negative, body) := signed ascii
      let lower := body.map Char.toLower
      if lower = "inf".toList ∨ lower = "infinity".toList then some (.infinity negative)
      else if isNan lower then some .nan
      else (readNumber body).map (.finite negative)

/-! ## Money evidence -/

/-- `MoneyEvidence`: the numeral and where it is said to stand, from `start` to
`stop`. -/
structure MoneyEvidence where
  numeralText : String
  start : Nat
  stop : Nat
  minLength : numeralText ≠ ""
  positive : 0 < stop
  deriving DecidableEq

/-- The exceptions that are not caught: those of decimal arithmetic, and the assertion
of `build_draft`. -/
inductive DraftFailure where
  | invalidOperation
  | overflow
  | overflowError
  | assertionError
  deriving DecidableEq, Repr

def isCurrencySign (c : Char) : Bool := c = '₹' || c = '$'

/-- `.strip().lstrip("₹$").replace(",", "").strip()`. -/
def cleaned (numeral : List Char) : List Char :=
  strip (((strip numeral).dropWhile isCurrencySign).filter (· ≠ ','))

/-- The multiplier of a `k` at the end, and the text before it. -/
def shorthand (text : List Char) : Nat × List Char :=
  match text.getLast? with
  | some c => if c = 'k' ∨ c = 'K' then (1000, text.dropLast) else (1, text)
  | none => (1, text)

/-- The product, as the context rounds it. -/
def times (x : DecimalNumber) (n : Nat) : Except DraftFailure DecimalNumber :=
  match defaultContext.finalize (x.scale n) with
  | none => .error .overflow
  | some product => .ok product

/-- The second half of `verify_money_evidence`: the amount in minor units. -/
def minorOf (numeral : List Char) : Except DraftFailure (Option Nat) :=
  let (multiplier, text) := shorthand (cleaned numeral)
  match readDecimal text with
  | none => .ok none
  -- `major <= 0` raises for a NaN, and `int(minor)` for an infinity.
  | some .nan => .error .invalidOperation
  | some (.infinity negative) => if negative then .ok none else .error .overflowError
  | some (.finite negative x) =>
      if negative ∨ x.coefficient = 0 then .ok none
      else do
        let major ← times x multiplier
        let minor ← times major 100
        if minor.isWhole then return some minor.toNat else return none

/-- `conversation_text[evidence.start : evidence.end]`. -/
def span (conversationText : String) (evidence : MoneyEvidence) : List Char :=
  (conversationText.toList.drop evidence.start).take (evidence.stop - evidence.start)

/-- `verify_money_evidence`. -/
def verifyMoneyEvidence (conversationText : String) (evidence : MoneyEvidence) :
    Except DraftFailure (Option Nat) :=
  if conversationText.toList.length < evidence.stop then .ok none
  else if span conversationText evidence ≠ evidence.numeralText.toList then .ok none
  else minorOf evidence.numeralText.toList

/-! ## Slots -/

inductive Slot where
  | category
  | location
  | checkIn
  | nights
  | rooms
  | currency
  | maxTotalMinor
  deriving DecidableEq, Repr

/-- `REQUIRED_SLOTS`. -/
def requiredSlots : List Slot :=
  [.category, .location, .checkIn, .nights, .rooms, .currency, .maxTotalMinor]

/-- `_SLOT_QUESTIONS`. -/
def slotQuestion : Slot → String
  | .category => "What kind of purchase is this (e.g. a hotel stay)?"
  | .location => "Which city (and country) should I book in?"
  | .checkIn => "What check-in date do you want?"
  | .nights => "How many nights?"
  | .rooms => "How many rooms?"
  | .currency => "What currency is your budget in?"
  | .maxTotalMinor => "What's your total budget for this booking?"

/-- `_QUESTION_PRIORITY`. -/
def questionPriority : List Slot :=
  [.maxTotalMinor, .location, .checkIn, .nights, .rooms, .category, .currency]

/-- `_next_questions`. -/
def nextQuestions (missing : List Slot) : List String :=
  match questionPriority.find? fun slot => slot ∈ missing with
  | some slot => [slotQuestion slot]
  | none => []

structure MandateDraftSlots where
  category : Option String
  location : Option String
  checkIn : Option String
  nights : Option Int
  rooms : Option Int
  currency : Option String
  maxTotalMinorEvidence : Option MoneyEvidence
  maxUnitMinorEvidence : Option MoneyEvidence
  guests : Option Int
  refundable : Option Bool
  deriving DecidableEq

structure MandateDraft where
  slots : MandateDraftSlots
  maxTotalMinor : Nat
  maxUnitMinor : Option Nat
  deriving DecidableEq

structure ClarificationNeeded where
  missingSlots : List Slot
  questions : List String
  slots : MandateDraftSlots
  maxTotalMinor : Option Nat
  deriving DecidableEq

/-- The slot has been filled. -/
def MandateDraftSlots.present (slots : MandateDraftSlots) : Slot → Bool
  | .category => slots.category.isSome
  | .location => slots.location.isSome
  | .checkIn => slots.checkIn.isSome
  | .nights => slots.nights.isSome
  | .rooms => slots.rooms.isSome
  | .currency => slots.currency.isSome
  | .maxTotalMinor => slots.maxTotalMinorEvidence.isSome

/-- `missing_required_slots`. -/
def missingRequiredSlots (slots : MandateDraftSlots) : List Slot :=
  requiredSlots.filter fun slot => !slots.present slot

inductive DraftResult where
  | draft (draft : MandateDraft)
  | clarification (clarification : ClarificationNeeded)
  deriving DecidableEq

/-- The verified amount of the evidence, when there is evidence. -/
def verified (conversationText : String) : Option MoneyEvidence →
    Except DraftFailure (Option Nat)
  | none => .ok none
  | some evidence => verifyMoneyEvidence conversationText evidence

/-- `build_draft`. -/
def buildDraft (conversationText : String) (slots : MandateDraftSlots) :
    Except DraftFailure DraftResult := do
  let missing := missingRequiredSlots slots
  let maxTotalMinor ← verified conversationText slots.maxTotalMinorEvidence
  let missing :=
    if slots.maxTotalMinorEvidence.isSome ∧ maxTotalMinor = none ∧ .maxTotalMinor ∉ missing then
      missing ++ [.maxTotalMinor]
    else missing
  let maxUnitMinor ← verified conversationText slots.maxUnitMinorEvidence
  if missing ≠ [] then
    let ordered := requiredSlots.filter fun slot => slot ∈ missing
    return .clarification ⟨ordered, nextQuestions ordered, slots, maxTotalMinor⟩
  else
    match maxTotalMinor with
    | none => throw .assertionError
    | some maxTotalMinor => return .draft ⟨slots, maxTotalMinor, maxUnitMinor⟩

end Actl.Mandates
