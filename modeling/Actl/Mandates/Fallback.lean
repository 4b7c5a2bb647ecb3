import Actl.Foundation.Regex
import Actl.Mandates.MoneyEvidence

/-!
# What a conversation says, without a model

`application/conversation/deterministic_fallback.py`: the slots that regular
expressions find in the text. The last match of each pattern counts, since a later
message corrects an earlier one. A slot is filled exactly if its pattern matches
somewhere (`Says`), and nothing else goes into it.

Which characters belong to a word is a parameter: all that is used of it is where
words begin and end.
-/

set_option autoImplicit false

namespace Actl.Mandates

open Foundation (Regex Place RegexMatch Pattern decimal decimalDigit? isBlank ok_bind)
open Foundation.Regex (boundary group one many opt plus all oneOf captures slice)

/-! ## Patterns -/

/-- A character of a pattern that ignores case. Besides the two cases of a letter it is
matched by U+0130 and U+0131 for an `i`, by U+017F for an `s`, and by the Kelvin sign
for a `k`. -/
def ignoringCase (letter c : Char) : Bool :=
  c.toLower = letter ||
    (letter = 'i' && (c.toNat = 0x130 || c.toNat = 0x131)) ||
    (letter = 's' && c.toNat = 0x17f) ||
    (letter = 'k' && c.toNat = 0x212a)

def literal (text : String) : Regex := all (text.toList.map fun c => one (ignoringCase c))

/-- `\d`. -/
def digit : Regex := one isDecimalDigit

/-- `[- ]`. -/
def dash : Regex := one fun c => c = '-' || c = ' '

/-- `\b(\d+)`, and what must stand behind. -/
def numbered (behind : List Regex) : Regex := captures boundary (plus isDecimalDigit) (all behind)

/-- `_CATEGORY_RE`. -/
def categoryRe : Pattern where
  regex := captures boundary
    (oneOf [literal "hotel", literal "stay", literal "resort",
      all [literal "room", opt (literal "s")]])
    boundary
  consumes := by decide

/-- `_LOCATION_RE`. -/
def locationRe : Pattern where
  regex := all [boundary, literal "goa", boundary]
  consumes := by decide

/-- `_NIGHTS_RE`. -/
def nightsRe : Pattern where
  regex := numbered [many isBlank, opt dash, many isBlank, literal "night", opt (literal "s"),
    boundary]
  consumes := by decide

/-- `_ROOMS_RE`. -/
def roomsRe : Pattern where
  regex := numbered [many isBlank, literal "room", opt (literal "s"), boundary]
  consumes := by decide

/-- `_GUESTS_RE`. -/
def guestsRe : Pattern where
  regex := numbered [many isBlank,
    oneOf [all [literal "guest", opt (literal "s")], literal "people",
      all [literal "adult", opt (literal "s")], all [literal "person", opt (literal "s")]],
    boundary]
  consumes := by decide

/-- `_REFUND_RE`. -/
def refundRe : Pattern where
  regex := captures boundary
    (oneOf [all [literal "non", opt dash, literal "refundable"], literal "refundable"]) boundary
  consumes := by decide

/-- `_MONTHS`. -/
def months : Regex :=
  oneOf [all [literal "jan", opt (literal "uary")], all [literal "feb", opt (literal "ruary")],
    all [literal "mar", opt (literal "ch")], all [literal "apr", opt (literal "il")],
    literal "may", all [literal "jun", opt (literal "e")], all [literal "jul", opt (literal "y")],
    all [literal "aug", opt (literal "ust")],
    all [literal "sep", opt (all [literal "t", opt (literal "ember")])],
    all [literal "oct", opt (literal "ober")], all [literal "nov", opt (literal "ember")],
    all [literal "dec", opt (literal "ember")]]

/-- `_ISO_DATE_RE`. -/
def isoDateRe : Pattern where
  regex := all [boundary, digit, digit, digit, digit, one (· = '-'), digit, digit, one (· = '-'),
    digit, digit, boundary]
  consumes := by decide

/-- `\d{1,2}(?:st|nd|rd|th)?`. -/
def dayOfMonth : List Regex :=
  [digit, opt digit, opt (oneOf [literal "st", literal "nd", literal "rd", literal "th"])]

/-- `_FUZZY_DATE_RE`. -/
def fuzzyDateRe : Pattern where
  regex := all [boundary,
    oneOf [all (dayOfMonth ++ [plus isBlank, months]), all ([months, plus isBlank] ++ dayOfMonth)],
    boundary]
  consumes := by decide

/-- What marks a number as money. -/
def moneyMark : Regex :=
  oneOf [literal "₹", all [boundary, literal "rs", opt (one (· = '.'))],
    all [boundary, literal "inr", boundary],
    all [boundary, literal "budget", opt (all [plus isBlank, literal "of"])],
    all [boundary, literal "under"], all [boundary, literal "within"],
    all [boundary, literal "up", opt (one (· = ' ')), literal "to"]]

/-- `\d[\d,]*(?:\.\d+)?\s?[kK]?`. -/
def moneyNumeral : Regex :=
  all [digit, many fun c => isDecimalDigit c || c = ',',
    opt (all [one (· = '.'), plus isDecimalDigit]), opt (one isBlank), opt (one (ignoringCase 'k'))]

/-- `_MONEY_RE`. -/
def moneyRe : Pattern where
  regex := captures (all [moneyMark, many isBlank]) moneyNumeral boundary
  consumes := by decide

/-! ## The slots -/

/-- What the text can raise: `int` of too many digits, and the checks of
`MoneyEvidence`. -/
inductive FallbackFailure where
  | valueError
  | validationError
  deriving DecidableEq, Repr

/-- What the group took; every pattern that is asked for its group has one. -/
def span1 (m : RegexMatch) : Nat × Nat := m.group.getD (m.start, m.start)

/-- `match.group(1)`. -/
def group1 (text : List Char) (m : RegexMatch) : List Char := slice text (span1 m).1 (span1 m).2

/-- The value of decimal digits of any script. -/
def digitsValue (digits : List Char) : Nat := decimal (digits.filterMap decimalDigit?)

/-- `int(text)`, of digits: there may be 4300 of them. -/
def pyInt (digits : List Char) : Except FallbackFailure Nat :=
  if 4300 < digits.length then .error .valueError else .ok (digitsValue digits)

/-- `MoneyEvidence(...)`, which checks its fields. -/
def moneyEvidence (numeralText : String) (start stop : Nat) :
    Except FallbackFailure MoneyEvidence :=
  if valid : numeralText ≠ "" ∧ 0 < stop then
    .ok ⟨numeralText, start, stop, valid.1, valid.2⟩
  else .error .validationError

section Slots

variable (isWord : Char → Bool)

/-- The number before the last match's word. -/
def lastNumber (pattern : Pattern) (text : List Char) : Except FallbackFailure (Option Int) :=
  match pattern.lastMatch isWord text with
  | none => .ok none
  | some m => (pyInt (group1 text m)).map fun (n : Nat) => some (n : Int)

/-- The evidence of the last numeral that is marked as money. -/
def lastMoney (text : List Char) : Except FallbackFailure (Option MoneyEvidence) :=
  match moneyRe.lastMatch isWord text with
  | none => .ok none
  | some m =>
      (moneyEvidence (String.ofList (group1 text m)) (span1 m).1 (span1 m).2).map some

/-- `deterministic_slots_from_text`. -/
def deterministicSlotsFromText (conversationText : String) :
    Except FallbackFailure MandateDraftSlots := do
  let text := conversationText.toList
  let category :=
    if (categoryRe.searchFrom isWord text 0).isSome then some "travel.hotel" else none
  let location := if (locationRe.searchFrom isWord text 0).isSome then some "Goa" else none
  let nights ← lastNumber isWord nightsRe text
  let rooms ← lastNumber isWord roomsRe text
  let guests ← lastNumber isWord guestsRe text
  let refundable := (refundRe.lastMatch isWord text).map fun m =>
    !"non".toList.isPrefixOf ((group1 text m).map Char.toLower)
  let dateMatch :=
    (isoDateRe.lastMatch isWord text).or (fuzzyDateRe.lastMatch isWord text)
  let checkIn := dateMatch.map fun m => String.ofList (slice text m.start m.stop)
  let maxTotalMinorEvidence ← lastMoney isWord text
  return {
    category, location, checkIn, nights, rooms
    currency := some "INR"
    maxTotalMinorEvidence
    maxUnitMinorEvidence := none
    guests, refundable }

end Slots

/-! ## What the slots say -/

section Says

variable (isWord : Char → Bool) (conversationText : String)

/-- A slot is empty if the pattern matches nowhere. Otherwise it is read from a match
behind which there is none. -/
def Filled {α : Type} (pattern : Pattern) (reads : RegexMatch → α → Prop) : Option α → Prop
  | none => ∀ m, ¬ pattern.IsMatch isWord conversationText.toList m
  | some value => ∃ m, pattern.IsMatch isWord conversationText.toList m ∧ reads m value ∧
      ∀ m', pattern.IsMatch isWord conversationText.toList m' → m'.start < m.stop

/-- A number is the value of digits that stand in the match. -/
def ReadsNumber (m : RegexMatch) (value : Int) : Prop :=
  ∃ start stop, m.start ≤ start ∧ start < stop ∧ stop ≤ m.stop ∧
    (∀ c ∈ slice conversationText.toList start stop, isDecimalDigit c = true) ∧
    value = digitsValue (slice conversationText.toList start stop)

/-- The terms are refundable unless the match begins with `non`. -/
def ReadsRefundable (m : RegexMatch) (value : Bool) : Prop :=
  value = false ↔
    ∃ q, Regex.Matches isWord conversationText.toList (literal "non") ⟨m.start, none⟩ q

def ReadsText (m : RegexMatch) (value : String) : Prop :=
  value.toList = slice conversationText.toList m.start m.stop

/-- The evidence quotes a numeral that stands in the match. -/
def ReadsMoney (m : RegexMatch) (evidence : MoneyEvidence) : Prop :=
  m.start ≤ evidence.start ∧ evidence.stop ≤ m.stop ∧ Quoted conversationText evidence ∧
    Regex.Matches isWord conversationText.toList moneyNumeral ⟨evidence.start, none⟩
      ⟨evidence.stop, none⟩

/-- What the text says of each slot, and nothing else. -/
structure Says (slots : MandateDraftSlots) : Prop where
  category : Filled isWord conversationText categoryRe (fun _ v => v = "travel.hotel")
    slots.category
  location : Filled isWord conversationText locationRe (fun _ v => v = "Goa") slots.location
  checkIn : Filled isWord conversationText isoDateRe (ReadsText conversationText) slots.checkIn ∨
    Filled isWord conversationText isoDateRe (ReadsText conversationText) none ∧
      Filled isWord conversationText fuzzyDateRe (ReadsText conversationText) slots.checkIn
  nights : Filled isWord conversationText nightsRe (ReadsNumber conversationText) slots.nights
  rooms : Filled isWord conversationText roomsRe (ReadsNumber conversationText) slots.rooms
  guests : Filled isWord conversationText guestsRe (ReadsNumber conversationText) slots.guests
  refundable : Filled isWord conversationText refundRe (ReadsRefundable isWord conversationText)
    slots.refundable
  currency : slots.currency = some "INR"
  total : Filled isWord conversationText moneyRe (ReadsMoney isWord conversationText)
    slots.maxTotalMinorEvidence
  unit : slots.maxUnitMinorEvidence = none

variable {isWord conversationText}

/-- The last match fills a slot. -/
theorem filled_lastMatch {α : Type} {pattern : Pattern} {reads : RegexMatch → α → Prop}
    {f : RegexMatch → α}
    (right : ∀ m, pattern.IsMatch isWord conversationText.toList m → reads m (f m)) :
    Filled isWord conversationText pattern reads
      ((pattern.lastMatch isWord conversationText.toList).map f) := by
  rcases pattern.lastMatch_spec isWord conversationText.toList with
    ⟨unfound, nowhere⟩ | ⟨m, last, found, behind⟩
  · rw [unfound]
    exact nowhere
  · rw [last]
    exact ⟨m, found, right m found, behind⟩

/-- A slot with one value is filled if the pattern is found. -/
theorem filled_search {α : Type} {pattern : Pattern} (value : α) :
    Filled isWord conversationText pattern (fun _ v => v = value)
      (if (pattern.searchFrom isWord conversationText.toList 0).isSome then some value
        else none) := by
  rcases pattern.lastMatch_spec isWord conversationText.toList with
    ⟨-, nowhere⟩ | ⟨m, -, found, behind⟩
  · have unfound : pattern.searchFrom isWord conversationText.toList 0 = none :=
      Pattern.searchFrom_eq_none.mpr fun m found => absurd found (nowhere m)
    rw [unfound]
    exact nowhere
  · cases searched : pattern.searchFrom isWord conversationText.toList 0 with
    | none =>
        exact absurd (Pattern.searchFrom_eq_none.mp searched m found) (Nat.not_lt_zero _)
    | some first => exact ⟨m, found, rfl, behind⟩

theorem lastNumber_spec {pattern : Pattern} {behind : List Regex}
    (shape : pattern.regex = numbered behind) (free : (all behind).groupFree = true)
    (short : conversationText.toList.length ≤ 4300) :
    ∃ value, lastNumber isWord pattern conversationText.toList = .ok value ∧
      Filled isWord conversationText pattern (ReadsNumber conversationText) value := by
  unfold lastNumber
  rcases pattern.lastMatch_spec isWord conversationText.toList with
    ⟨unfound, nowhere⟩ | ⟨m, last, found, behind⟩
  · exact ⟨none, by rw [unfound], nowhere⟩
  · obtain ⟨start, stop, taken, digits, low, wide, high⟩ := found.captured shape ⟨rfl, free⟩
    have inside := found.inside.2
    have read : pyInt (group1 conversationText.toList m)
        = .ok (digitsValue (slice conversationText.toList start stop)) := by
      rw [group1, span1, taken, Option.getD_some, pyInt, if_neg]
      rw [Regex.length_slice (by omega)]
      omega
    refine ⟨some (digitsValue (slice conversationText.toList start stop)), ?_, m, found,
      ⟨start, stop, low, Nat.lt_of_succ_le wide, high, fun c member => ?_, rfl⟩, behind⟩
    · rw [last]
      simp only [read]
      rfl
    · simpa [plus, Regex.accepts] using digits.accepts_slice c member

/-- The evidence passes the checks of its fields. -/
theorem lastMoney_spec (isWord : Char → Bool) (conversationText : String) :
    ∃ evidence, lastMoney isWord conversationText.toList = .ok evidence ∧
      Filled isWord conversationText moneyRe (ReadsMoney isWord conversationText) evidence := by
  unfold lastMoney
  rcases moneyRe.lastMatch_spec isWord conversationText.toList with
    ⟨unfound, nowhere⟩ | ⟨m, last, found, behind⟩
  · exact ⟨none, by rw [unfound], nowhere⟩
  · obtain ⟨start, stop, taken, numeral, low, wide, high⟩ := found.captured rfl ⟨rfl, rfl⟩
    have inside := found.inside.2
    have least : 0 < moneyNumeral.minWidth := by decide
    have length : (slice conversationText.toList start stop).length = stop - start :=
      Regex.length_slice (by omega)
    have present : String.ofList (slice conversationText.toList start stop) ≠ "" := by
      rw [Ne, String.ofList_eq_empty_iff]
      intro empty
      rw [empty, List.length_nil] at length
      omega
    have valid : String.ofList (slice conversationText.toList start stop) ≠ "" ∧ 0 < stop :=
      ⟨present, by omega⟩
    refine ⟨some ⟨String.ofList (slice conversationText.toList start stop), start, stop, valid.1,
      valid.2⟩, ?_, m, found, ⟨low, high, ⟨by dsimp only; omega, ?_⟩, numeral⟩, behind⟩
    · rw [last]
      simp only [group1, span1, taken, Option.getD_some, moneyEvidence, dif_pos valid]
      rfl
    · rw [span, String.toList_ofList]
      rfl

/-- `n`, `o` and `n` from a place on, in either case. -/
theorem matches_non {text : List Char} {i : Nat} :
    (∃ q, Regex.Matches isWord text (literal "non") ⟨i, none⟩ q) ↔
      "non".toList.isPrefixOf ((text.drop i).map Char.toLower) = true := by
  have shape : literal "non" = .seq (one (ignoringCase 'n'))
      (.seq (one (ignoringCase 'o')) (one (ignoringCase 'n'))) := rfl
  have fold : ∀ c, ignoringCase 'n' c = decide (c.toLower = 'n') := fun c => by simp [ignoringCase]
  have fold' : ∀ c, ignoringCase 'o' c = decide (c.toLower = 'o') := fun c => by simp [ignoringCase]
  have at0 : text[i]? = (text.drop i)[0]? := by rw [List.getElem?_drop, Nat.add_zero]
  have at1 : text[i + 1]? = (text.drop i)[1]? := by rw [List.getElem?_drop]
  have at2 : text[i + 1 + 1]? = (text.drop i)[2]? := by rw [List.getElem?_drop]
  rw [shape, show "non".toList = ['n', 'o', 'n'] from rfl]
  simp only [Regex.Matches, Place.advance, fold, fold', decide_eq_true_eq]
  constructor
  · rintro ⟨_, _, ⟨⟨c, here, low⟩, rfl⟩, _, ⟨⟨c', here', low'⟩, rfl⟩, ⟨c'', here'', low''⟩, rfl⟩
    rw [at0] at here
    rw [at1] at here'
    rw [at2] at here''
    generalize text.drop i = rest at here here' here'' ⊢
    rcases rest with _ | ⟨a, _ | ⟨a', _ | ⟨a'', rest⟩⟩⟩
    · simp at here
    · simp at here'
    · simp at here''
    · simp only [List.getElem?_cons_zero, List.getElem?_cons_succ, Option.some.injEq]
        at here here' here''
      simp [List.isPrefixOf, here, here', here'', low, low', low'']
  · intro starts
    rcases split : text.drop i with _ | ⟨a, _ | ⟨a', _ | ⟨a'', rest⟩⟩⟩
    · simp [split] at starts
    · simp [split] at starts
    · simp [split] at starts
    · simp only [split, List.map_cons, List.isPrefixOf, Bool.and_eq_true, beq_iff_eq,
        and_true] at starts
      rw [split] at at0 at1 at2
      exact ⟨_, _, ⟨⟨a, at0, starts.1.symm⟩, rfl⟩, _, ⟨⟨a', at1, starts.2.1.symm⟩, rfl⟩,
        ⟨a'', at2, starts.2.2.symm⟩, rfl⟩

theorem reads_refundable {m : RegexMatch}
    (found : refundRe.IsMatch isWord conversationText.toList m) :
    ReadsRefundable isWord conversationText m
      (!"non".toList.isPrefixOf ((group1 conversationText.toList m).map Char.toLower)) := by
  obtain ⟨_, ⟨-, rfl⟩, _, ⟨n, terms, rfl⟩, -, same⟩ := found
  have taken : m.group = some (m.start, n.stop) := congrArg Place.group same
  have wide := terms.width.1
  have least : 3 ≤ Regex.minWidth
      (oneOf [all [literal "non", opt dash, literal "refundable"], literal "refundable"]) := by
    decide
  dsimp only at wide
  have prefixes : ∀ l : List Char, "non".toList.isPrefixOf (l.take (n.stop - m.start))
      = "non".toList.isPrefixOf l := by
    intro l
    rw [Bool.eq_iff_iff, List.isPrefixOf_iff_prefix, List.isPrefixOf_iff_prefix,
      List.prefix_take_iff]
    refine and_iff_left ?_
    rw [show "non".toList.length = 3 from rfl]
    omega
  rw [ReadsRefundable, matches_non, group1, span1, taken, Option.getD_some, slice, List.map_take,
    prefixes, Bool.not_eq_false']

/-- The date is the last one in numbers, or else the last one with a month. -/
theorem reads_checkIn :
    let checkIn := ((isoDateRe.lastMatch isWord conversationText.toList).or
      (fuzzyDateRe.lastMatch isWord conversationText.toList)).map fun m =>
        String.ofList (slice conversationText.toList m.start m.stop)
    Filled isWord conversationText isoDateRe (ReadsText conversationText) checkIn ∨
      Filled isWord conversationText isoDateRe (ReadsText conversationText) none ∧
        Filled isWord conversationText fuzzyDateRe (ReadsText conversationText) checkIn := by
  intro checkIn
  have text : ∀ m : RegexMatch, ReadsText conversationText m
      (String.ofList (slice conversationText.toList m.start m.stop)) := fun m =>
    String.toList_ofList
  have numeric : Filled isWord conversationText isoDateRe (ReadsText conversationText)
      ((isoDateRe.lastMatch isWord conversationText.toList).map fun m =>
        String.ofList (slice conversationText.toList m.start m.stop)) :=
    filled_lastMatch fun m _ => text m
  cases iso : isoDateRe.lastMatch isWord conversationText.toList with
  | none =>
      rw [iso] at numeric
      refine .inr ⟨numeric, ?_⟩
      simp only [checkIn, iso, Option.none_or]
      exact filled_lastMatch fun m _ => text m
  | some m =>
      left
      rw [iso] at numeric
      simp only [checkIn, iso, Option.some_or]
      exact numeric

/-- In a text of at most 4300 characters the slots are found, and say what the text says. -/
theorem deterministicSlotsFromText_ok (isWord : Char → Bool)
    (short : conversationText.toList.length ≤ 4300) :
    ∃ slots, deterministicSlotsFromText isWord conversationText = .ok slots ∧
      Says isWord conversationText slots := by
  have number : ∀ {pattern : Pattern} {behind : List Regex}, pattern.regex = numbered behind →
      (all behind).groupFree = true →
      ∃ value, lastNumber isWord pattern conversationText.toList = .ok value ∧
        Filled isWord conversationText pattern (ReadsNumber conversationText) value :=
    fun shape free => lastNumber_spec shape free short
  obtain ⟨nights, readNights, saidNights⟩ := number (show nightsRe.regex = _ from rfl) rfl
  obtain ⟨rooms, readRooms, saidRooms⟩ := number (show roomsRe.regex = _ from rfl) rfl
  obtain ⟨guests, readGuests, saidGuests⟩ := number (show guestsRe.regex = _ from rfl) rfl
  obtain ⟨evidence, readMoney, saidMoney⟩ := lastMoney_spec isWord conversationText
  unfold deterministicSlotsFromText
  simp only [readNights, readRooms, readGuests, readMoney, ok_bind]
  refine ⟨_, rfl, ?_⟩
  exact {
    category := filled_search _
    location := filled_search _
    checkIn := reads_checkIn
    nights := saidNights
    rooms := saidRooms
    guests := saidGuests
    refundable := filled_lastMatch fun m found => reads_refundable found
    currency := rfl
    total := saidMoney
    unit := rfl }

end Says

end Actl.Mandates
