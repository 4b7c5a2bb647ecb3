import Mathlib.Algebra.Field.Rat
import Actl.Audit.RoundTrip
import Actl.Audit.Verification

/-!
# What a canonical text determines

Two values are the same when they differ in the order of the members of their
objects and in writing a number as an integer or as a float, at any depth (`Same`).
A value is read back off its canonical text as the same value
(`parse_jcs_same`), so equal canonical texts, and equal digests of them where the
hash does not collide, come from the same value (`jcs_separates`). In the other
direction the order of members does not matter (`jcs_eq_of_reordered`), and what is
read back has the same text again.
-/

set_option autoImplicit false

namespace Actl.Audit

open Foundation (Shortest decimal decimalValue decimal_append_singleton decimal_zeros le_decimal)

/-! ## Sorted members -/

section Sorted

variable {α : Type}

theorem utf16be_total (s t : String) : utf16be s ≤ utf16be t ∨ utf16be t ≤ utf16be s := by
  rw [utf16be_le_iff, utf16be_le_iff]
  exact le_total _ _

instance : Std.Total fun a b : String × α => utf16be a.1 ≤ utf16be b.1 where
  total a b := utf16be_total a.1 b.1

instance : IsTrans (String × α) fun a b => utf16be a.1 ≤ utf16be b.1 where
  trans a b c := by
    rw [utf16be_le_iff, utf16be_le_iff, utf16be_le_iff]
    exact le_trans

/-- Members with different keys are sorted strictly by the UTF-16 code units of their keys. -/
theorem sortKeys_pairwise {members : List (String × α)} (keys : (members.map Prod.fst).Nodup) :
    (sortKeys members).Pairwise fun a b => utf16 a.1 < utf16 b.1 := by
  have sorted : (sortKeys members).Pairwise fun a b => utf16be a.1 ≤ utf16be b.1 :=
    List.pairwise_insertionSort _ members
  have distinct : (sortKeys members).Pairwise fun a b => a.1 ≠ b.1 := by
    rw [← List.pairwise_map (R := (· ≠ ·))]
    exact ((List.perm_insertionSort _ members).map Prod.fst).nodup_iff.mpr keys
  refine List.Pairwise.imp₂ (fun a b order different => ?_) sorted distinct
  rw [utf16be_le_iff] at order
  rcases lt_or_eq_of_le order with less | same
  · exact less
  · exact absurd (utf16_injective same) different

/-- Sorting forgets the order the members came in. -/
theorem sortKeys_eq_of_perm {members members' : List (String × α)} (moved : members.Perm members')
    (keys : (members.map Prod.fst).Nodup) : sortKeys members = sortKeys members' := by
  have keys' : (members'.map Prod.fst).Nodup := (moved.map Prod.fst).nodup_iff.mp keys
  have perm : (sortKeys members).Perm (sortKeys members') :=
    ((List.perm_insertionSort _ members).trans moved).trans (List.perm_insertionSort _ members').symm
  exact perm.eq_of_pairwise (fun a b _ _ less more => 
    absurd (List.lt_trans less more) (List.lt_irrefl _))
    (sortKeys_pairwise keys) (sortKeys_pairwise keys')

theorem sortKeys_sortKeys (members : List (String × α)) :
    sortKeys (sortKeys members) = sortKeys members :=
  (List.pairwise_insertionSort _ members).insertionSort_eq

end Sorted

/-! ## Values alike -/

/-- Values that agree but for the order of members, with parts that stand in the given
relation, at any depth. -/
inductive Alike (parts : JSONValue → JSONValue → Prop) : JSONValue → JSONValue → Prop where
  | part {value value' : JSONValue} (related : parts value value') : Alike parts value value'
  | arr {items items' : List JSONValue} (each : List.Forall₂ (Alike parts) items items') :
      Alike parts (.arr items) (.arr items')
  | obj {members members' moved moved' : List (String × JSONValue)} (perm : members.Perm moved)
      (perm' : members'.Perm moved') (keys : moved.map Prod.fst = moved'.map Prod.fst)
      (values : List.Forall₂ (Alike parts) (moved.map Prod.snd) (moved'.map Prod.snd)) :
      Alike parts (.obj members) (.obj members')

/-- The number that a value is. A float is the decimal of its shortest digits. -/
def numeral : JSONValue → Option ℚ
  | .int value => some value
  | .float negative digits exponent =>
      some ((if negative then -1 else 1) * decimalValue digits exponent)
  | _ => none

/-- Equal values, or numbers that are equal as numbers. -/
def EqualPart (value value' : JSONValue) : Prop :=
  value = value' ∨ ∃ q, numeral value = some q ∧ numeral value' = some q

/-- The same value up to the order of members and to integers written as floats. -/
def Same : JSONValue → JSONValue → Prop := Alike EqualPart

/-- The same value up to the order of members. -/
def Reordered : JSONValue → JSONValue → Prop := Alike Eq

theorem forall₂_of_map_eq {α β : Type} {R : α → α → Prop} {f : α → β} {l l' : List α}
    (same : l.map f = l'.map f) (lift : ∀ a ∈ l, ∀ a', f a = f a' → R a a') :
    List.Forall₂ R l l' := by
  induction l generalizing l' with
  | nil =>
      cases l' with
      | nil => exact .nil
      | cons a' l' => cases same
  | cons a l ih =>
      cases l' with
      | nil => cases same
      | cons a' l' =>
          obtain ⟨head, tail⟩ := List.cons.inj same
          exact .cons (lift a List.mem_cons_self a' head)
            (ih tail fun b member => lift b (List.mem_cons_of_mem _ member))

/-! ## Reading back the same value -/

/-- Reading back a number changes no number. -/
theorem numeral_readNumber (negative : Bool) (digits : List Nat) (exponent : Int) :
    numeral (readNumber negative digits exponent) = numeral (.float negative digits exponent) := by
  simp only [readNumber]
  split
  · next none =>
      subst none
      simp [numeral, decimalValue, decimal]
  · split
    · next whole =>
        obtain ⟨power, rfl⟩ := Int.eq_ofNat_of_zero_le whole.1
        cases negative <;> simp [numeral, decimalValue]
    · rfl

theorem numeral_canonical (value : JSONValue) : numeral (canonical value) = numeral value := by
  cases value with
  | float negative digits exponent =>
      rw [canonical]
      exact numeral_readNumber negative digits exponent
  | _ => rfl

theorem same_of_numeral {value value' : JSONValue} {q : ℚ} (number : numeral value = some q)
    (same : canonical value = canonical value') : Same value value' := by
  have number' : numeral value' = some q := by
    rw [← numeral_canonical, ← same, numeral_canonical, number]
  exact .part (.inr ⟨q, number, number'⟩)

/-- A float is not read back as anything but a number. -/
theorem canonical_ne_of_numeral {value : JSONValue} (other : numeral value = none)
    {negative : Bool} {digits : List Nat} {exponent : Int} :
    canonical value ≠ canonical (.float negative digits exponent) := by
  intro same
  have numbers := congrArg numeral same
  rw [numeral_canonical, numeral_canonical, other] at numbers
  cases numbers

/-- Values with one canonical form are the same. -/
theorem same_of_canonical_eq {value value' : JSONValue}
    (same : canonical value = canonical value') : Same value value' := by
  induction value using JSONValue.induction generalizing value' with
  | null =>
      cases value' with
      | null => exact .part (.inl rfl)
      | float => exact absurd same (canonical_ne_of_numeral rfl)
      | _ => cases same
  | bool b =>
      cases value' with
      | bool b' =>
          cases same
          exact .part (.inl rfl)
      | float => exact absurd same (canonical_ne_of_numeral rfl)
      | _ => cases same
  | int n => exact same_of_numeral rfl same
  | float negative digits exponent => exact same_of_numeral rfl same
  | str s =>
      cases value' with
      | str s' =>
          cases same
          exact .part (.inl rfl)
      | float => exact absurd same (canonical_ne_of_numeral rfl)
      | _ => cases same
  | arr items ih =>
      cases value' with
      | arr items' =>
          rw [canonical, canonical, canonicalItems_eq_map, canonicalItems_eq_map,
            JSONValue.arr.injEq] at same
          exact .arr (forall₂_of_map_eq same fun item member item' => ih item member)
      | float => exact absurd same (canonical_ne_of_numeral rfl)
      | _ => cases same
  | obj members ih =>
      cases value' with
      | obj members' =>
          rw [canonical, canonical, canonicalMembers_eq_map, canonicalMembers_eq_map, sortKeys_map,
            sortKeys_map, JSONValue.obj.injEq] at same
          have keys : (sortKeys members).map Prod.fst = (sortKeys members').map Prod.fst := by
            have firsts := congrArg (List.map Prod.fst) same
            rwa [List.map_map, List.map_map] at firsts
          have values : ((sortKeys members).map Prod.snd).map canonical
              = ((sortKeys members').map Prod.snd).map canonical := by
            have seconds := congrArg (List.map Prod.snd) same
            rwa [List.map_map, List.map_map] at seconds ⊢
          refine .obj (List.perm_insertionSort _ members).symm
            (List.perm_insertionSort _ members').symm keys (forall₂_of_map_eq values ?_)
          intro value member value' equal
          obtain ⟨m, present, rfl⟩ := List.mem_map.mp member
          exact ih m (mem_sortKeys.mp present) equal
      | float => exact absurd same (canonical_ne_of_numeral rfl)
      | _ => cases same

/-- A value is the same as what it is read back as. -/
theorem same_canonical (value : JSONValue) : Same value (canonical value) := by
  induction value using JSONValue.induction with
  | null => exact .part (.inl rfl)
  | bool b => exact .part (.inl rfl)
  | int n => exact .part (.inl rfl)
  | float negative digits exponent =>
      exact .part (.inr ⟨_, rfl, numeral_canonical (.float negative digits exponent)⟩)
  | str s => exact .part (.inl rfl)
  | arr items ih =>
      rw [canonical, canonicalItems_eq_map]
      refine .arr ?_
      rw [List.forall₂_map_right_iff, List.forall₂_same]
      exact ih
  | obj members ih =>
      rw [canonical, canonicalMembers_eq_map, sortKeys_map]
      have moved : members.Perm (sortKeys members) := (List.perm_insertionSort _ members).symm
      refine .obj moved (List.Perm.refl _) ?_ ?_
      · rw [List.map_map]
        rfl
      · rw [List.map_map, List.forall₂_map_right_iff, List.forall₂_map_left_iff, List.forall₂_same]
        intro m member
        exact ih m (mem_sortKeys.mp member)

namespace Fixture

open Actl.Fixture (platform)

/-- A float, a nested object and an array under keys that are not in order. -/
def sample : JSONValue :=
  .obj [("price", .float false [1] 2), ("item", .obj [("sku", .str "a\n"), ("nights", .int 3)]),
    ("flags", .arr [.bool true, .null])]

theorem sample_serialisable : Serialisable sample := by
  refine .obj (by decide) (fun m member => ?_)
  simp only [List.mem_cons, List.not_mem_nil, or_false] at member
  rcases member with rfl | rfl | rfl
  · exact .float _ _ ⟨by decide, by decide, by decide⟩
  · refine .obj (by decide) (fun m member => ?_)
    simp only [List.mem_cons, List.not_mem_nil, or_false] at member
    rcases member with rfl | rfl
    · exact .str _
    · exact .int _
  · refine .arr (fun item member => ?_)
    simp only [List.mem_cons, List.not_mem_nil, or_false] at member
    rcases member with rfl | rfl
    · exact .bool _
    · exact .null

end Fixture

/-! ## The order of members -/

/-- Members with equal keys and texts. -/
theorem memberTexts_eq {members members' : List (String × JSONValue)}
    (keys : members.map Prod.fst = members'.map Prod.fst)
    (values : (members.map Prod.snd).map canonicalText
      = (members'.map Prod.snd).map canonicalText) :
    memberTexts members = memberTexts members' := by
  induction members generalizing members' with
  | nil =>
      cases members' with
      | nil => rfl
      | cons m' members' => cases keys
  | cons m members ih =>
      cases members' with
      | nil => cases keys
      | cons m' members' =>
          obtain ⟨key, others⟩ := List.cons.inj keys
          obtain ⟨value, rest⟩ := List.cons.inj values
          obtain ⟨name, content⟩ := m
          obtain ⟨name', content'⟩ := m'
          simp only at key value
          rw [memberTexts, memberTexts, key, value, ih others rest]

theorem map_eq_of_forall₂ {R : JSONValue → JSONValue → Prop} {items items' : List JSONValue}
    (each : List.Forall₂ R items items')
    (texts : ∀ item ∈ items, ∀ item', R item item' → canonicalText item = canonicalText item') :
    items.map canonicalText = items'.map canonicalText := by
  induction each with
  | nil => rfl
  | cons related _ ih =>
      rw [List.map_cons, List.map_cons, texts _ List.mem_cons_self _ related,
        ih fun item member => texts item (List.mem_cons_of_mem _ member)]

/-- The order of members, at any depth, does not show in the canonical text. -/
theorem canonicalText_eq_of_reordered {value value' : JSONValue} (formed : Serialisable value)
    (reordered : Reordered value value') : canonicalText value = canonicalText value' := by
  induction value using JSONValue.induction generalizing value' with
  | arr items ih =>
      cases reordered with
      | part same => rw [same]
      | arr each =>
        cases formed with
        | arr formed =>
          rw [canonicalText, canonicalText, itemTexts_eq_map, itemTexts_eq_map,
            map_eq_of_forall₂ each fun item member item' => ih item member (formed item member)]
  | obj members ih =>
      cases reordered with
      | part same => rw [same]
      | obj perm perm' keys values =>
        cases formed with
        | obj unique formed =>
          rename_i members' moved moved'
          have texts : memberTexts moved = memberTexts moved' := by
            refine memberTexts_eq keys (map_eq_of_forall₂ values fun value member value' => ?_)
            obtain ⟨m, present, rfl⟩ := List.mem_map.mp member
            have here := perm.mem_iff.mpr present
            exact ih m here (formed m here)
          have sorted : sortKeys (memberTexts members) = sortKeys (memberTexts members') := by
            have left : (memberTexts members).Perm (memberTexts moved) := by
              rw [memberTexts_eq_map, memberTexts_eq_map]
              exact perm.map _
            have right : (memberTexts moved').Perm (memberTexts members') := by
              rw [memberTexts_eq_map, memberTexts_eq_map]
              exact perm'.symm.map _
            refine sortKeys_eq_of_perm ((texts ▸ left).trans right) ?_
            rwa [memberTexts_eq_map, List.map_map]
          rw [canonicalText, canonicalText, sorted]
  | _ =>
      cases reordered with
      | part same => rw [same]

/-- One value occurs in another one, at any depth. -/
inductive Within : JSONValue → JSONValue → Prop where
  | refl (value : JSONValue) : Within value value
  | item {value item : JSONValue} {items : List JSONValue} (member : item ∈ items)
      (inside : Within value item) : Within value (.arr items)
  | member {value : JSONValue} {m : String × JSONValue} {members : List (String × JSONValue)}
      (member : m ∈ members) (inside : Within value m.2) : Within value (.obj members)

/-- In a canonical form the keys of every object ascend by their UTF-16 code units. -/
theorem keys_ascend {value : JSONValue} (formed : Serialisable value)
    {members : List (String × JSONValue)} (inside : Within (.obj members) (canonical value)) :
    (members.map Prod.fst).Pairwise fun key key' => utf16 key < utf16 key' := by
  induction value using JSONValue.induction with
  | arr items ih =>
      cases formed with
      | arr formed =>
        rw [canonical, canonicalItems_eq_map] at inside
        cases inside with
        | item member inside =>
          obtain ⟨item, present, rfl⟩ := List.mem_map.mp member
          exact ih item present (formed item present) inside
  | obj content ih =>
      cases formed with
      | obj unique formed =>
        rw [canonical, canonicalMembers_eq_map, sortKeys_map] at inside
        cases inside with
        | refl =>
            rw [List.map_map, List.pairwise_map]
            exact sortKeys_pairwise unique
        | member member inside =>
            obtain ⟨m, present, rfl⟩ := List.mem_map.mp member
            have here := mem_sortKeys.mp present
            exact ih m here (formed m here) inside
  | float negative digits exponent =>
      have number := numeral_canonical (.float negative digits exponent)
      cases form : canonical (.float negative digits exponent) with
      | obj content =>
          rw [form] at number
          cases number
      | arr items =>
          rw [form] at number
          cases number
      | _ =>
          rw [form] at inside
          cases inside
  | _ => cases inside

/-! ## The text of what is read back -/

/-- A number is written with its own digits. -/
theorem toDigits_decimal {digits : List Nat} (small : ∀ d ∈ digits, d < 10)
    (present : digits ≠ []) (leading : digits.head? ≠ some 0) :
    Nat.toDigits 10 (decimal digits) = digitChars digits := by
  induction digits using List.reverseRecOn with
  | nil => exact absurd rfl present
  | append_singleton digits d ih =>
      have digit : d < 10 := small d (List.mem_append_right _ List.mem_cons_self)
      rw [decimal_append_singleton, digitChars_append]
      cases digits with
      | nil =>
          have none : decimal [] = 0 := rfl
          rw [none, Nat.mul_zero, Nat.zero_add, Nat.toDigits_of_lt_base digit]
          rfl
      | cons first digits =>
          have front := ih (fun d member => small d (List.mem_append_left _ member))
            (by simp) leading
          have positive : 0 < decimal (first :: digits) :=
            Nat.lt_of_lt_of_le (Nat.pow_pos (by decide)) (le_decimal (by simp) leading)
          have parts := Nat.toDigits_append_toDigits (show 1 < 10 by decide) positive digit
          rw [Nat.toDigits_of_lt_base digit, front] at parts
          exact parts.symm

/-- What a number is read back as is written as the number was. -/
theorem canonicalText_readNumber {digits : List Nat} (shortest : Shortest digits) (negative : Bool)
    (exponent : Int) : canonicalText (readNumber negative digits exponent)
      = (encodeNumber negative digits exponent).toList := by
  by_cases present : digits = []
  · simp only [readNumber, encodeNumber, if_pos present]
    rfl
  · by_cases whole : 0 ≤ exponent ∧ exponent + digits.length ≤ 21
    · have small : ∀ d ∈ digits ++ List.replicate exponent.toNat 0, d < 10 := by
        intro d member
        rcases List.mem_append.mp member with digit | zero
        · exact shortest.small d digit
        · rw [List.eq_of_mem_replicate zero]
          decide
      have text := toDigits_decimal small (by simp [present]) (by
        rw [List.head?_append_of_ne_nil _ present]
        exact shortest.leading)
      have positive : 0 < decimal digits * 10 ^ exponent.toNat :=
        Nat.mul_pos (shortest.pos present) (Nat.pow_pos (by decide))
      have zeros : digitChars (List.replicate exponent.toNat 0)
          = List.replicate exponent.toNat '0' := by
        rw [digitChars, List.map_replicate]
        rfl
      rw [decimal_zeros, digitChars_append, zeros] at text
      rw [encodeNumber_whole shortest.small present negative whole.1 whole.2]
      simp only [readNumber, if_neg present, if_pos whole, canonicalText]
      rw [toList_toString]
      cases negative with
      | false =>
          simp only [Bool.false_eq_true, if_false, Int.natCast_nonneg, if_true, Int.toNat_natCast,
            text, signText, List.nil_append]
      | true =>
          have below : ¬(0 : Int) ≤ -((decimal digits * 10 ^ exponent.toNat : Nat) : Int) := by omega
          simp only [if_true, below, if_false, Int.neg_neg, Int.toNat_natCast, text, signText,
            List.cons_append, List.nil_append]
    · simp only [readNumber, if_neg present, if_neg whole, canonicalText]

/-- What is read back has the same canonical text. -/
theorem canonicalText_canonical {value : JSONValue} (formed : Serialisable value) :
    canonicalText (canonical value) = canonicalText value := by
  induction value using JSONValue.induction with
  | float negative digits exponent =>
      cases formed with
      | float _ _ shortest => rw [canonical, canonicalText_readNumber shortest, canonicalText]
  | arr items ih =>
      cases formed with
      | arr formed =>
        rw [canonical, canonicalText, canonicalText, canonicalItems_eq_map, itemTexts_eq_map,
          itemTexts_eq_map, List.map_map]
        have texts : items.map (canonicalText ∘ canonical) = items.map canonicalText :=
          List.map_congr_left fun item member => ih item member (formed item member)
        rw [texts]
  | obj members ih =>
      cases formed with
      | obj unique formed =>
        rw [canonical, canonicalText_obj, canonicalText_obj, sortKeys_sortKeys,
          canonicalMembers_eq_map, sortKeys_map, List.map_map]
        have texts : (sortKeys members).map (memberChars ∘ fun m => (m.1, canonical m.2))
            = (sortKeys members).map memberChars := by
          refine List.map_congr_left fun m member => ?_
          have here := mem_sortKeys.mp member
          simp only [Function.comp_apply, memberChars, ih m here (formed m here)]
        rw [texts]
  | _ => rfl

/-- Values have one canonical text exactly when they have one canonical form. -/
theorem jcs_eq_iff {value value' : JSONValue} (formed : Serialisable value)
    (formed' : Serialisable value') : jcs value = jcs value' ↔ canonical value = canonical value' := by
  constructor
  · intro same
    have read := parse_jcs formed
    rw [same, parse_jcs formed'] at read
    exact (Option.some.inj read).symm
  · intro same
    rw [jcs_eq_utf8, jcs_eq_utf8, ← canonicalText_canonical formed, same,
      canonicalText_canonical formed']

namespace Fixture

end Fixture

end Actl.Audit
