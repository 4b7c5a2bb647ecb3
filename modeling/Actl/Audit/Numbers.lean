import Actl.Audit.Equality

/-!
# The canonical form of numbers

Floats are laid out as ECMAScript lays out numbers (`canonicalText_float`). Integers are
not: an integer is written with all its digits, so it has the text of the double it
equals only below 10²¹ and where the double's shortest decimal is the integer itself
(`text_eq_iff`), as it is below 2⁵³. A payload that went through a JSONB column comes
back with its floats from 10¹⁶ on as integers, which shows in its hash from 10²¹ on
(`jcs_reread_iff`).
-/

set_option autoImplicit false

namespace Actl.Audit

open Foundation (Shortest decimal decimalValue decimal_lt le_decimal Double Prints prints_whole
  prints_digit)

/-! ## The layout of ECMAScript -/

/-- `Number::toString` for radix 10 of the number `s × 10ⁿ⁻ᵏ`, where `k` is the number of
digits of `s`. -/
def numberToString (negative : Bool) (s : Nat) (n : Int) : List Char :=
  let digits := Nat.toDigits 10 s
  let k := digits.length
  signText negative ++
    if -5 ≤ n ∧ n ≤ 21 then
      if k ≤ n then digits ++ List.replicate (n - k).toNat '0'
      else if 0 < n then digits.take n.toNat ++ '.' :: digits.drop n.toNat
      else '0' :: '.' :: (List.replicate (-n).toNat '0' ++ digits)
    else
      let exponent := (if 0 ≤ n - 1 then '+' else '-') :: Nat.toDigits 10 (n - 1).natAbs
      if k = 1 then digits ++ 'e' :: exponent
      else digits.take 1 ++ '.' :: (digits.drop 1 ++ 'e' :: exponent)

theorem digitChars_take (digits : List Nat) (n : Nat) :
    digitChars (digits.take n) = (digitChars digits).take n := List.map_take

theorem digitChars_drop (digits : List Nat) (n : Nat) :
    digitChars (digits.drop n) = (digitChars digits).drop n := List.map_drop

theorem length_digitChars (digits : List Nat) : (digitChars digits).length = digits.length :=
  List.length_map _

/-- Every float is written as ECMAScript writes the number of its shortest digits. -/
theorem canonicalText_float {digits : List Nat} (shortest : Shortest digits) (negative : Bool)
    (exponent : Int) : canonicalText (.float negative digits exponent)
      = if digits = [] then ['0']
        else numberToString negative (decimal digits) (exponent + digits.length) := by
  rw [canonicalText]
  split
  · next none =>
      subst none
      rw [encodeNumber, if_pos rfl]
      rfl
  · next present =>
      have small := shortest.small
      have long : 0 < digits.length := List.length_pos_iff.mpr present
      rw [numberToString, toDigits_decimal small present shortest.leading, length_digitChars]
      by_cases whole : 0 ≤ exponent ∧ exponent + digits.length ≤ 21
      · rw [encodeNumber_whole small present negative whole.1 whole.2, if_pos (by omega),
          if_pos (by omega), Int.add_sub_cancel]
      · by_cases pointed : 0 < exponent + digits.length ∧ exponent + digits.length ≤ 21
        · rw [encodeNumber_pointed small present negative (by omega) pointed.1 pointed.2,
            if_pos (by omega), if_neg (by omega), if_pos pointed.1, digitChars_take,
            digitChars_drop]
        · by_cases near : -6 < exponent + digits.length ∧ exponent + digits.length ≤ 0
          · rw [encodeNumber_small small present negative near.1 near.2, if_pos (by omega),
              if_neg (by omega), if_neg (by omega)]
          · rw [encodeNumber_exponential small present negative (by omega), if_neg (by omega)]
            have rest : digitChars (digits.drop 1) = [] ↔ digits.length = 1 := by
              rw [digitChars, List.map_eq_nil_iff, List.drop_eq_nil_iff]
              omega
            simp only [fractionText, rest, exponentText]
            split
            · next single =>
                rw [List.take_of_length_le (by omega), List.nil_append]
            · rw [digitChars_take, digitChars_drop, List.cons_append]

/-! ## Integers and doubles -/

theorem decimalValue_lt_iff {digits : List Nat} (shortest : Shortest digits)
    (present : digits ≠ []) (exponent : Int) (bound : Int) :
    decimalValue digits exponent < (10 : ℚ) ^ bound ↔ exponent + digits.length ≤ bound := by
  have ten : (1 : ℚ) < 10 := by norm_num
  have long : 0 < digits.length := List.length_pos_iff.mpr present
  have positive : (0 : ℚ) < (10 : ℚ) ^ exponent := zpow_pos (by norm_num) exponent
  constructor
  · intro less
    by_contra more
    have least : ((10 ^ (digits.length - 1) : Nat) : ℚ) ≤ (decimal digits : ℚ) := by
      exact_mod_cast le_decimal present shortest.leading
    have scaled := mul_le_mul_of_nonneg_right least (le_of_lt positive)
    push_cast at scaled
    rw [← zpow_natCast, ← zpow_add₀ (by norm_num)] at scaled
    have power : (10 : ℚ) ^ bound
        ≤ (10 : ℚ) ^ (((digits.length - 1 : Nat) : Int) + exponent) :=
      zpow_le_zpow_right₀ (le_of_lt ten) (by omega)
    exact absurd (lt_of_lt_of_le less (power.trans scaled)) (lt_irrefl _)
  · intro short
    have most : (decimal digits : ℚ) < ((10 ^ digits.length : Nat) : ℚ) := by
      exact_mod_cast decimal_lt shortest.small
    have scaled := mul_lt_mul_of_pos_right most positive
    push_cast at scaled
    rw [← zpow_natCast, ← zpow_add₀ (by norm_num)] at scaled
    exact lt_of_lt_of_le scaled (zpow_le_zpow_right₀ (le_of_lt ten) (by omega))

/-- The sign of a float. -/
def signOf (negative : Bool) : ℚ := if negative then -1 else 1

/-- A shortest decimal with a fraction is no whole number. -/
theorem decimalValue_ne_int {digits : List Nat} (shortest : Shortest digits)
    (present : digits ≠ []) {exponent : Int} (broken : exponent < 0) (negative : Bool) (n : Int) :
    (n : ℚ) ≠ signOf negative * decimalValue digits exponent := by
  intro value
  obtain ⟨power, rfl⟩ : ∃ power : Nat, exponent = -((power : Int) + 1) :=
    ⟨(-exponent - 1).toNat, by omega⟩
  have ten : (10 : ℚ) ^ (power + 1) ≠ 0 := pow_ne_zero _ (by norm_num)
  have square : signOf negative * signOf negative = 1 := by cases negative <;> norm_num [signOf]
  have scaled : signOf negative * (n : ℚ) * 10 ^ (power + 1) = decimal digits := by
    rw [value, ← mul_assoc, square, one_mul, decimalValue, zpow_neg, ← Nat.cast_succ,
      zpow_natCast, mul_assoc, inv_mul_cancel₀ ten, mul_one]
  have odd := shortest.mod_ten present
  cases negative with
  | false =>
      have whole : n * 10 ^ power * 10 = decimal digits := by
        rw [signOf, if_neg (by decide), one_mul, pow_succ, ← mul_assoc] at scaled
        exact_mod_cast scaled
      omega
  | true =>
      have whole : -n * 10 ^ power * 10 = decimal digits := by
        rw [signOf, if_pos rfl, neg_one_mul, pow_succ, ← mul_assoc] at scaled
        exact_mod_cast scaled
      omega

/-- A float is read back as an integer where the decimal it is written with is that
integer and stays below 10²¹. -/
theorem readNumber_eq_int_iff {digits : List Nat} (shortest : Shortest digits) (negative : Bool)
    (exponent : Int) (n : Int) : readNumber negative digits exponent = .int n ↔
      decimalValue digits exponent < 10 ^ 21 ∧
        (n : ℚ) = signOf negative * decimalValue digits exponent := by
  have number := numeral_readNumber negative digits exponent
  constructor
  · intro read
    rw [read] at number
    refine ⟨?_, Option.some.inj number⟩
    by_cases present : digits = []
    · rw [present, decimalValue]
      norm_num [decimal]
    · have bound := decimalValue_lt_iff shortest present exponent 21
      rw [readNumber, if_neg present] at read
      split at read
      · next whole => exact_mod_cast bound.mpr whole.2
      · cases read
  · rintro ⟨small, value⟩
    by_cases present : digits = []
    · rw [readNumber, if_pos present] at number ⊢
      have zero : ((0 : Int) : ℚ) = n := (Option.some.inj number).trans value.symm
      rw [Int.cast_inj.mp zero]
    · have short : exponent + digits.length ≤ 21 :=
        (decimalValue_lt_iff shortest present exponent 21).mp (by exact_mod_cast small)
      have whole : 0 ≤ exponent := by
        by_contra broken
        exact decimalValue_ne_int shortest present (Int.not_le.mp broken) negative n value
      rw [readNumber, if_neg present, if_pos ⟨whole, short⟩] at number ⊢
      rw [Int.cast_inj.mp ((Option.some.inj number).trans value.symm)]

theorem natAbs_eq_value {x : Double} {negative : Bool} {n : Int}
    (equal : (n : ℚ) = signOf negative * x.value) : ((n.natAbs : Nat) : ℚ) = x.value := by
  rw [Nat.cast_natAbs, Int.cast_abs, equal, abs_mul, abs_of_nonneg x.value_nonneg]
  cases negative <;> norm_num [signOf]

/-- An integer and a double of one value have the same text exactly where the double
prints as the integer, below 10²¹. -/
theorem text_eq_iff {x : Double} {digits : List Nat} {exponent : Int}
    (prints : Prints x digits exponent) (negative : Bool) (n : Int)
    (equal : (n : ℚ) = signOf negative * x.value) :
    jcs (.int n) = jcs (.float negative digits exponent) ↔
      n.natAbs < 10 ^ 21 ∧ decimalValue digits exponent = x.value := by
  rw [jcs_eq_iff (.int n) (.float negative exponent prints.shortest), canonical, canonical, eq_comm,
    readNumber_eq_int_iff prints.shortest]
  have nonzero : signOf negative ≠ 0 := by cases negative <;> norm_num [signOf]
  have same : (n : ℚ) = signOf negative * decimalValue digits exponent ↔
      decimalValue digits exponent = x.value := by
    rw [equal]
    exact ⟨fun h => (mul_left_cancel₀ nonzero h).symm, fun h => by rw [h]⟩
  rw [same]
  refine and_congr_left fun printed => ?_
  rw [printed, ← natAbs_eq_value equal]
  norm_cast

/-- Below 2⁵³ an integer and a double of one value have the same text. -/
theorem text_eq_of_small {x : Double} {digits : List Nat} {exponent : Int}
    (prints : Prints x digits exponent) {negative : Bool} {n : Int}
    (equal : (n : ℚ) = signOf negative * x.value) (small : n.natAbs < 2 ^ 53) :
    jcs (.int n) = jcs (.float negative digits exponent) := by
  rw [text_eq_iff prints negative n equal]
  refine ⟨by omega, ?_⟩
  have magnitude := (natAbs_eq_value equal).symm
  rcases Nat.eq_zero_or_pos n.natAbs with zero | positive
  · have none : x.mantissa = 0 := by
      rw [zero, Nat.cast_zero, Double.value, mul_eq_zero] at magnitude
      rcases magnitude with mantissa | power
      · exact_mod_cast mantissa
      · exact absurd power (ne_of_gt (zpow_pos (by norm_num) _))
    rw [magnitude, zero, prints.zero.mpr none, decimalValue]
    norm_num [decimal]
  · rw [prints_whole positive small magnitude prints, magnitude]

/-! ## Payloads in a JSONB column -/

/-- A number that went through a JSONB column. The runtime prints a double with an
exponent from 10¹⁶ on and otherwise with a fraction; the column keeps the number and
prints it without exponent, so that what has no fraction comes back as an integer. It
has no negative zero. -/
def rereadNumber (negative : Bool) (digits : List Nat) (exponent : Int) : JSONValue :=
  if digits = [] then .float false [] 0
  else if 16 < exponent + digits.length ∧ 0 ≤ exponent then
    .int (if negative then -((decimal digits * 10 ^ exponent.toNat : Nat) : Int)
      else (decimal digits * 10 ^ exponent.toNat : Nat))
  else .float negative digits exponent

/-- The order in which a JSONB column keeps the keys of an object: shorter keys first. -/
def storedBefore (key key' : String) : Bool :=
  (encode key).length < (encode key').length ∨
    (encode key).length = (encode key').length ∧ encode key ≤ encode key'

mutual
/-- A value that was written to a JSONB column and read again. -/
def reread : JSONValue → JSONValue
  | .null => .null
  | .bool value => .bool value
  | .int value => .int value
  | .float negative digits exponent => rereadNumber negative digits exponent
  | .str value => .str value
  | .arr items => .arr (rereadItems items)
  | .obj members => .obj ((rereadMembers members).insertionSort fun m m' => storedBefore m.1 m'.1)

def rereadItems : List JSONValue → List JSONValue
  | [] => []
  | item :: items => reread item :: rereadItems items

def rereadMembers : List (String × JSONValue) → List (String × JSONValue)
  | [] => []
  | (key, value) :: members => (key, reread value) :: rereadMembers members
end

theorem rereadItems_eq_map (items : List JSONValue) : rereadItems items = items.map reread := by
  induction items with
  | nil => rfl
  | cons item items ih => rw [rereadItems, ih, List.map_cons]

theorem rereadMembers_eq_map (members : List (String × JSONValue)) :
    rereadMembers members = members.map fun m => (m.1, reread m.2) := by
  induction members with
  | nil => rfl
  | cons m members ih => rw [rereadMembers, ih, List.map_cons]

/-- A float that is a whole number of at least 10²¹. -/
def HugeFloat : JSONValue → Prop
  | .float _ digits exponent => 0 ≤ exponent ∧ 10 ^ 21 ≤ decimalValue digits exponent
  | _ => False

theorem serialisable_reread {value : JSONValue} (formed : Serialisable value) :
    Serialisable (reread value) := by
  induction value using JSONValue.induction with
  | float negative digits exponent =>
      cases formed with
      | float _ _ shortest =>
        rw [reread, rereadNumber]
        split
        · exact .float _ _ ⟨by simp, by simp, by simp⟩
        · split
          · exact .int _
          · exact .float _ _ shortest
  | arr items ih =>
      cases formed with
      | arr formed =>
        rw [reread, rereadItems_eq_map]
        refine .arr fun item member => ?_
        obtain ⟨item, present, rfl⟩ := List.mem_map.mp member
        exact ih item present (formed item present)
  | obj members ih =>
      cases formed with
      | obj unique formed =>
        rw [reread, rereadMembers_eq_map]
        refine .obj ?_ fun m member => ?_
        · refine ((List.perm_insertionSort _ _).map Prod.fst).nodup_iff.mpr ?_
          rwa [List.map_map]
        · obtain ⟨m, present, rfl⟩ := List.mem_map.mp ((List.mem_insertionSort _).mp member)
          exact ih m present (formed m present)
  | _ => exact formed

/-- A number's canonical form survives the column unless it is a huge float. -/
theorem canonical_rereadNumber {digits : List Nat} (shortest : Shortest digits) (negative : Bool)
    (exponent : Int) : canonical (rereadNumber negative digits exponent)
        = canonical (.float negative digits exponent) ↔
      ¬HugeFloat (.float negative digits exponent) := by
  rw [rereadNumber, HugeFloat]
  by_cases present : digits = []
  · have value : decimalValue [] exponent = 0 := by norm_num [decimalValue, decimal]
    simp only [present, if_true, canonical, readNumber, value]
    norm_num
  · have huge : 10 ^ 21 ≤ decimalValue digits exponent ↔ ¬exponent + digits.length ≤ 21 := by
      rw [← decimalValue_lt_iff shortest present exponent 21, not_lt]
      exact Iff.rfl
    rw [if_neg present, huge]
    split
    · next printed =>
        by_cases short : exponent + digits.length ≤ 21
        · simp only [canonical, readNumber, if_neg present, printed.2, short, and_self, if_true,
            not_true_eq_false, and_false, not_false_eq_true]
        · simp only [canonical, readNumber, if_neg present, printed.2, short, and_false, if_false,
            reduceCtorEq, not_false_eq_true, and_self, not_true_eq_false]
    · next fixed =>
        refine ⟨fun _ => ?_, fun _ => rfl⟩
        omega

/-- A value's canonical form survives the column unless there is a huge float in it. -/
theorem canonical_reread_iff {value : JSONValue} (formed : Serialisable value) :
    canonical (reread value) = canonical value ↔
      ∀ part, Within part value → ¬HugeFloat part := by
  induction value using JSONValue.induction with
  | float negative digits exponent =>
      cases formed with
      | float _ _ shortest =>
        rw [reread, canonical_rereadNumber shortest]
        constructor
        · intro small part inside
          cases inside
          exact small
        · exact fun small => small _ (.refl _)
  | arr items ih =>
      cases formed with
      | arr formed =>
        rw [reread, rereadItems_eq_map, canonical, canonical, canonicalItems_eq_map,
          canonicalItems_eq_map, JSONValue.arr.injEq, List.map_map, List.map_inj_left]
        constructor
        · intro each part inside
          cases inside with
          | refl => exact id
          | item member inside =>
              exact (ih _ member (formed _ member)).mp (each _ member) part inside
        · intro small item member
          exact (ih item member (formed item member)).mpr fun part inside =>
            small part (.item member inside)
  | obj members ih =>
      cases formed with
      | obj unique formed =>
        have moved := List.perm_insertionSort
          (fun m m' : String × JSONValue => storedBefore m.1 m'.1 = true)
          (members.map fun m => (m.1, reread m.2))
        have sorted : sortKeys ((members.map fun m => (m.1, reread m.2)).insertionSort
              fun m m' => storedBefore m.1 m'.1)
            = (sortKeys members).map fun m => (m.1, reread m.2) := by
          rw [sortKeys_eq_of_perm moved, sortKeys_map]
          refine (moved.map Prod.fst).nodup_iff.mpr ?_
          rwa [List.map_map]
        rw [reread, rereadMembers_eq_map, canonical, canonical, canonicalMembers_eq_map,
          canonicalMembers_eq_map, sortKeys_map, sortKeys_map, sorted, JSONValue.obj.injEq,
          List.map_map, List.map_inj_left]
        simp only [Function.comp_apply, Prod.mk.injEq, true_and, mem_sortKeys]
        constructor
        · intro each part inside
          cases inside with
          | refl => exact id
          | member member inside =>
              exact (ih _ member (formed _ member)).mp (each _ member) part inside
        · intro small m member
          exact (ih m member (formed m member)).mpr fun part inside =>
            small part (.member member inside)
  | _ =>
      refine ⟨fun _ part inside => ?_, fun _ => rfl⟩
      cases inside
      exact id

/-- The canonical text survives the column unless there is a huge float in the value. -/
theorem jcs_reread_iff {value : JSONValue} (formed : Serialisable value) :
    jcs (reread value) = jcs value ↔ ∀ part, Within part value → ¬HugeFloat part := by
  rw [jcs_eq_iff (serialisable_reread formed) formed, canonical_reread_iff formed]

/-- Floats are written as ECMAScript writes them; an integer has the text of the double
it equals exactly below 10²¹ and where the double prints as the integer, as it does
below 2⁵³; and a payload read again from a JSONB column has the hash it had exactly when
there is no float of at least 10²¹ in it. -/
theorem numbers_canonical (P : Platform) :
    (∀ (negative : Bool) (digits : List Nat) (exponent : Int), Shortest digits →
      canonicalText (.float negative digits exponent)
        = if digits = [] then ['0']
          else numberToString negative (decimal digits) (exponent + digits.length)) ∧
      (∀ (n : Int) (negative : Bool) (x : Double) (digits : List Nat) (exponent : Int),
        Prints x digits exponent → (n : ℚ) = signOf negative * x.value →
          (jcs (.int n) = jcs (.float negative digits exponent) ↔
            n.natAbs < 10 ^ 21 ∧ decimalValue digits exponent = x.value) ∧
          (n.natAbs < 2 ^ 53 → jcs (.int n) = jcs (.float negative digits exponent))) ∧
      ∀ (texts : Set Bytes), Set.InjOn P.sha256 texts → ∀ payload, Serialisable payload →
        jcs payload ∈ texts → jcs (reread payload) ∈ texts →
          (payloadHash P (reread payload) = payloadHash P payload ↔
            ∀ part, Within part payload → ¬HugeFloat part) := by
  refine ⟨fun negative digits exponent shortest => canonicalText_float shortest negative exponent,
    fun n negative x digits exponent prints equal =>
      ⟨text_eq_iff prints negative n equal, text_eq_of_small prints equal⟩,
    fun texts collisionFree payload formed here here' => ?_⟩
  rw [← jcs_reread_iff formed]
  refine ⟨fun same => collisionFree here' here same, fun same => ?_⟩
  rw [payloadHash, payloadHash, same]

namespace Fixture

open Actl.Fixture (platform)

/-- The double 10²¹, the mantissa of which is 5²¹ × 2⁴. -/
def huge : Double where
  mantissa := 7629394531250000
  power := 17
  short := by decide
  inRange := by decide
  normal := .inl (by decide)

theorem huge_value : huge.value = 10 ^ 21 := by
  norm_num [Double.value, huge]

theorem huge_prints : Prints huge [1] 21 :=
  prints_digit (by decide) (by decide) (by
    rw [huge_value, decimalValue]
    norm_num [decimal])

/-- The integer 10²¹ and the double 10²¹ have different texts, and a payload with the
double has another hash after it was read again. -/
theorem huge_float_differs :
    Prints huge [1] 21 ∧ ((10 ^ 21 : Int) : ℚ) = signOf false * huge.value ∧
      jcs (.int (10 ^ 21)) ≠ jcs (.float false [1] 21) ∧
      payloadHash platform (reread (.obj [("total", .float false [1] 21)]))
        ≠ payloadHash platform (.obj [("total", .float false [1] 21)]) := by
  refine ⟨huge_prints, ?_, by decide +kernel, by decide +kernel⟩
  rw [huge_value]
  norm_num [signOf]

/-- The double 1. -/
def unit : Double where
  mantissa := 2 ^ 52
  power := -52
  short := by decide
  inRange := by decide
  normal := .inl (by decide)

/-- The integer 1 and the double 1 have one text. -/
theorem one_has_one_text : jcs (.int 1) = jcs (.float false [1] 0) := by
  have value : unit.value = 1 := by norm_num [Double.value, unit]
  refine ((numbers_canonical platform).2.1 1 false unit [1] 0
    (prints_digit (by decide) (by decide) ?_) ?_).2 (by decide)
  · rw [value, decimalValue]
    norm_num [decimal]
  · rw [value]
    norm_num [signOf]

end Fixture

end Actl.Audit
