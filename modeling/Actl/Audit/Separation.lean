import Actl.Audit.Canonical
import Actl.Foundation.PrefixCode

/-!
# What a canonical text tells apart

Strings, integers and truth values are cut off a canonical text in only one way,
so the canonical text of an object of such values determines them
(`members_of_jcs_eq`). Members are compared under equal keys; the sorting moves
both objects' members alike.
-/

set_option autoImplicit false

namespace Actl

open Foundation (PrefixFree cut_delimited)

/-! ## Encoded text -/

theorem encode_append (s t : String) : encode (s ++ t) = encode s ++ encode t := by
  simp [encode]

theorem encode_injective : Function.Injective encode := by
  intro s t same
  refine String.toByteArray_inj.mp (ByteArray.ext ?_)
  exact Array.toList_inj.mp same

theorem encode_eq_flatMap (s : String) : encode s = s.toList.flatMap String.utf8EncodeChar := by
  have bytes : s.toByteArray = s.toList.utf8Encode := by
    rw [← String.toByteArray_ofList, String.ofList_toList]
  rw [encode, bytes, List.utf8Encode, List.toList_data_toByteArray]

namespace Audit

/-! ## Strings -/

/-- The bytes that are escaped. -/
def escaped (n : Nat) : Bool := n < 0x20 ∨ n = 0x22 ∨ n = 0x5C

theorem escapeByte_of_not_escaped :
    ∀ n < 256, escaped n = false → escapeByte (UInt8.ofNat n) = [UInt8.ofNat n] := by
  decide +kernel

theorem escapeByte_of_escaped :
    ∀ n < 256, escaped n = true → (escapeByte (UInt8.ofNat n)).head? = some 0x5C := by
  decide +kernel

theorem escapes_prefixFree :
    ∀ n ∈ (List.range 256).filter escaped, ∀ m ∈ (List.range 256).filter escaped,
      escapeByte (UInt8.ofNat n) <+: escapeByte (UInt8.ofNat m) → n = m := by
  decide +kernel

/-- An escape begins with a backslash, every other byte stands for itself. -/
theorem escapeByte_cases (b : UInt8) :
    (escaped b.toNat = false ∧ escapeByte b = [b]) ∨
      (escaped b.toNat = true ∧ ∃ more, escapeByte b = 0x5C :: more) := by
  have same : UInt8.ofNat b.toNat = b := UInt8.ofNat_toNat
  cases special : escaped b.toNat with
  | false =>
      have plain := escapeByte_of_not_escaped b.toNat b.toNat_lt special
      rw [same] at plain
      exact .inl ⟨rfl, plain⟩
  | true =>
      have start := escapeByte_of_escaped b.toNat b.toNat_lt special
      rw [same] at start
      exact .inr ⟨rfl, List.head?_eq_some_iff.mp start⟩

theorem escaped_backslash : escaped (0x5C : UInt8).toNat = true := by decide

theorem escapeByte_prefixFree : PrefixFree escapeByte := by
  intro b b' starts
  rcases escapeByte_cases b with ⟨plain, word⟩ | ⟨special, more, word⟩ <;>
    rcases escapeByte_cases b' with ⟨plain', word'⟩ | ⟨special', more', word'⟩
  · rw [word, word', List.cons_prefix_cons] at starts
    exact starts.1
  · rw [word, word', List.cons_prefix_cons] at starts
    rw [starts.1, escaped_backslash] at plain
    cases plain
  · rw [word, word', List.cons_prefix_cons] at starts
    rw [← starts.1, escaped_backslash] at plain'
    cases plain'
  · have listed : ∀ b : UInt8, escaped b.toNat = true →
        b.toNat ∈ (List.range 256).filter escaped := fun b special =>
      List.mem_filter.mpr ⟨List.mem_range.mpr b.toNat_lt, special⟩
    have same := escapes_prefixFree b.toNat (listed b special) b'.toNat (listed b' special')
    rw [UInt8.ofNat_toNat, UInt8.ofNat_toNat] at same
    exact UInt8.toNat_inj.mp (same starts)

/-- A string is cut off in only one way. -/
theorem encodeString_cut {s s' : String} {rest rest' : Bytes}
    (same : encodeString s ++ rest = encodeString s' ++ rest') : s = s' ∧ rest = rest' := by
  simp only [encodeString, List.cons_append, List.append_assoc, List.nil_append] at same
  have quote : escaped (0x22 : UInt8).toNat = true := by decide
  obtain ⟨bytes, left⟩ := escapeByte_prefixFree.cut_flatMap 0x22 (fun b => by
    rcases escapeByte_cases b with ⟨plain, word⟩ | ⟨-, more, word⟩
    · refine ⟨b, [], word, fun stops => ?_⟩
      rw [stops, quote] at plain
      cases plain
    · exact ⟨0x5C, more, word, by decide⟩) (List.cons.inj same).2
  exact ⟨encode_injective bytes, left⟩

/-! ## Integers -/

theorem mem_toDigits_ne {n : Nat} {c : Char} (member : c ∈ Nat.toDigits 10 n) : c ≠ '-' := by
  rintro rfl
  have digit := Nat.isDigit_of_mem_toDigits (by decide) (by decide) member
  revert digit
  decide

theorem toDigits_injective {n m : Nat} (same : Nat.toDigits 10 n = Nat.toDigits 10 m) : n = m := by
  have read := congrArg (fun digits => Nat.ofDigitChars 10 digits 0) same
  simpa using read

/-- The characters of an integer's text. -/
theorem toList_toString (n : Int) : (toString n).toList =
    if 0 ≤ n then Nat.toDigits 10 n.toNat else '-' :: Nat.toDigits 10 (-n).toNat := by
  rw [Int.toString_eq_repr, Int.repr_eq_if]
  split
  · rw [Nat.toList_repr]
  · rw [String.toList_append, Nat.toList_repr]
    rfl

theorem toString_int_injective {n m : Int} (same : toString n = toString m) : n = m := by
  have lists := congrArg String.toList same
  rw [toList_toString, toList_toString] at lists
  have signless : ∀ a b : Nat, Nat.toDigits 10 a ≠ '-' :: Nat.toDigits 10 b := by
    intro a b clash
    exact mem_toDigits_ne (clash ▸ List.mem_cons_self) rfl
  split at lists <;> split at lists
  · have digits := toDigits_injective lists
    omega
  · exact absurd lists (signless _ _)
  · exact absurd lists.symm (signless _ _)
  · have digits := toDigits_injective (List.cons.inj lists).2
    omega

/-- What can follow a member of an object. -/
def Delimits (b : UInt8) : Prop := b = 0x2C ∨ b = 0x7D

/-- The text of an integer has no delimiter in it. -/
theorem not_delimits_int (n : Int) : ∀ b ∈ encode (toString n), ¬ Delimits b := by
  have characters : ∀ c ∈ (toString n).toList, c = '-' ∨ c.isDigit = true := by
    intro c member
    rw [toList_toString] at member
    split at member
    · exact .inr (Nat.isDigit_of_mem_toDigits (by decide) (by decide) member)
    · rcases List.mem_cons.mp member with rfl | digit
      · exact .inl rfl
      · exact .inr (Nat.isDigit_of_mem_toDigits (by decide) (by decide) digit)
  intro b member
  rw [encode_eq_flatMap, List.mem_flatMap] at member
  obtain ⟨c, present, byte⟩ := member
  have small : c.toNat ≤ 0x39 ∧ 0x2D ≤ c.toNat := by
    rcases characters c present with rfl | digit
    · decide
    · simp only [Char.isDigit, Bool.and_eq_true, decide_eq_true_eq] at digit
      have low := digit.1
      have high := digit.2
      rw [ge_iff_le, UInt32.le_iff_toNat_le] at low
      rw [UInt32.le_iff_toNat_le] at high
      have low' : 48 ≤ c.val.toNat := low
      have high' : c.val.toNat ≤ 57 := high
      have whole : c.toNat = c.val.toNat := rfl
      omega
  have encoded : String.utf8EncodeChar c = [c.toNat.toUInt8] := by
    have short : c.val.toNat ≤ 0x7F := by
      have whole : c.toNat = c.val.toNat := rfl
      omega
    simp only [String.utf8EncodeChar, short, if_true]
    rfl
  rw [encoded, List.mem_singleton] at byte
  have value : b.toNat = c.toNat := by
    rw [byte]
    simp only [Nat.toUInt8_eq, UInt8.toNat_ofNat']
    omega
  rintro (rfl | rfl)
  · have comma : (0x2C : UInt8).toNat = 0x2C := rfl
    omega
  · have brace : (0x7D : UInt8).toNat = 0x7D := rfl
    omega

/-! ## Objects -/

/-- Two values of one kind that are written without nesting. -/
inductive Comparable : JSONValue → JSONValue → Prop where
  | str (s s' : String) : Comparable (.str s) (.str s')
  | int (n n' : Int) : Comparable (.int n) (.int n')
  | bool (b b' : Bool) : Comparable (.bool b) (.bool b')

/-- A value is cut off in only one way before a delimiter. -/
theorem Comparable.cut {v v' : JSONValue} (comparable : Comparable v v') {d d' : UInt8}
    {rest rest' : Bytes} (stop : Delimits d) (stop' : Delimits d')
    (same : jcs v ++ d :: rest = jcs v' ++ d' :: rest') : v = v' ∧ d :: rest = d' :: rest' := by
  cases comparable with
  | str s s' =>
      rw [jcs, jcs] at same
      obtain ⟨rfl, left⟩ := encodeString_cut same
      exact ⟨rfl, left⟩
  | int n n' =>
      rw [jcs, jcs] at same
      obtain ⟨text, left⟩ :=
        cut_delimited (not_delimits_int n) (not_delimits_int n') stop stop' same
      exact ⟨congrArg JSONValue.int (toString_int_injective (encode_injective text)), left⟩
  | bool b b' =>
      have texts : encode "true" = [0x74, 0x72, 0x75, 0x65] ∧
          encode "false" = [0x66, 0x61, 0x6C, 0x73, 0x65] := by decide
      cases b <;> cases b' <;> simp only [jcs] at same
      · exact ⟨rfl, List.append_cancel_left same⟩
      · rw [texts.1, texts.2] at same
        exact absurd (List.cons.inj same).1 (by decide)
      · rw [texts.1, texts.2] at same
        exact absurd (List.cons.inj same).1 (by decide)
      · exact ⟨rfl, List.append_cancel_left same⟩

theorem jcsMembers_eq_map (members : List (String × JSONValue)) :
    jcsMembers members = members.map fun m => (m.1, jcs m.2) := by
  induction members with
  | nil => rfl
  | cons m members ih => rw [jcsMembers, ih, List.map_cons]

/-- The text of one member. -/
def memberText (key : String) (value : JSONValue) : Bytes := encodeString key ++ 0x3A :: jcs value

/-- Objects that have their keys in common, member by member. -/
abbrev CommonKeys : Type := List (String × JSONValue × JSONValue)

theorem members_of_joinComma_eq {members : CommonKeys}
    (comparable : ∀ m ∈ members, Comparable m.2.1 m.2.2) {rest rest' : Bytes}
    (same : joinComma (members.map fun m => memberText m.1 m.2.1) ++ 0x7D :: rest
      = joinComma (members.map fun m => memberText m.1 m.2.2) ++ 0x7D :: rest') :
    ∀ m ∈ members, m.2.1 = m.2.2 := by
  have keys : ∀ (m : String × JSONValue × JSONValue) (tail tail' : Bytes),
      memberText m.1 m.2.1 ++ tail = memberText m.1 m.2.2 ++ tail' →
        jcs m.2.1 ++ tail = jcs m.2.2 ++ tail' := by
    intro m tail tail' equal
    simp only [memberText, List.append_assoc, List.cons_append] at equal
    exact (List.cons.inj (List.append_cancel_left equal)).2
  induction members with
  | nil => simp
  | cons m members ih =>
      have here := comparable m List.mem_cons_self
      cases members with
      | nil =>
          have values := keys m _ _ same
          obtain ⟨value, -⟩ := here.cut (.inr rfl) (.inr rfl) values
          intro x member
          rw [List.mem_singleton.mp member]
          exact value
      | cons m' members =>
          simp only [List.map_cons, joinComma, List.append_assoc, List.cons_append] at same
          obtain ⟨value, left⟩ := here.cut (.inl rfl) (.inl rfl) (keys m _ _ same)
          have others := ih (fun x member => comparable x (List.mem_cons_of_mem _ member))
            (List.cons.inj left).2
          intro x member
          rcases List.mem_cons.mp member with rfl | later
          · exact value
          · exact others x later

/-- Sorting looks at the keys only, so it moves both sides' members alike. -/
theorem sorted_members (members : CommonKeys) :
    ∃ sorted : CommonKeys, (∀ m, m ∈ sorted ↔ m ∈ members) ∧
      ∀ side : JSONValue × JSONValue → JSONValue,
        jcs (.obj (members.map fun m => (m.1, side m.2)))
          = 0x7B :: (joinComma (sorted.map fun m => memberText m.1 (side m.2)) ++ [0x7D]) := by
  refine ⟨members.insertionSort fun a b => utf16 a.1 ≤ utf16 b.1,
    fun m => by simp only [List.mem_insertionSort],
    fun side => ?_⟩
  have moved : sortMembers (members.map fun m => (m.1, jcs (side m.2)))
      = (members.insertionSort fun a b => utf16 a.1 ≤ utf16 b.1).map
          fun m => (m.1, jcs (side m.2)) :=
    (List.map_insertionSort (fun a b : String × JSONValue × JSONValue =>
      utf16 a.1 ≤ utf16 b.1) (fun a b : String × Bytes => utf16 a.1 ≤ utf16 b.1) _ _
      fun _ _ _ _ => Iff.rfl).symm
  rw [jcs, jcsMembers_eq_map, List.map_map]
  simp only [Function.comp_def]
  rw [moved, List.map_map]
  simp only [Function.comp_def, memberText]

/-- The canonical text of an object of comparable values determines them. -/
theorem members_of_jcs_eq (members : CommonKeys)
    (comparable : ∀ m ∈ members, Comparable m.2.1 m.2.2)
    (same : jcs (.obj (members.map fun m => (m.1, m.2.1)))
      = jcs (.obj (members.map fun m => (m.1, m.2.2)))) :
    ∀ m ∈ members, m.2.1 = m.2.2 := by
  obtain ⟨sorted, rows, texts⟩ := sorted_members members
  have left := texts Prod.fst
  have right := texts Prod.snd
  rw [left, right] at same
  have equal := members_of_joinComma_eq (fun m member => comparable m ((rows m).mp member))
    (List.cons.inj same).2
  exact fun m member => equal m ((rows m).mpr member)

end Audit

end Actl
