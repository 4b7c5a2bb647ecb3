import Actl.Audit.Separation

/-!
# The canonical text

`_encode` of `domain/audit/canonical.py` as the text it returns, character by
character; `jcs` is its UTF-8 form (`jcs_eq_bytes`). The keys of an object are put in
the order of their big-endian UTF-16 encoding, which is the order of their code units
(`utf16be_le_iff`) and tells any two keys apart.
-/

set_option autoImplicit false

namespace Actl.Audit

open Foundation (PrefixFree)

/-! ## The order of keys -/

/-- `key.encode("utf-16-be")`. -/
def utf16be (s : String) : Bytes :=
  (utf16 s).flatMap fun unit => [(unit / 0x100).toUInt8, (unit % 0x100).toUInt8]

/-- A character is a Unicode scalar value. -/
theorem char_cases (c : Char) : c.toNat < 0xD800 ∨ 0xDFFF < c.toNat ∧ c.toNat < 0x110000 := c.valid

theorem utf16Units_lt (c : Char) : ∀ unit ∈ utf16Units c, unit < 0x10000 := by
  intro unit member
  have bound := char_cases c
  simp only [utf16Units] at member
  split at member
  · next short =>
      rw [List.mem_singleton.mp member]
      exact short
  · simp only [List.mem_cons, List.not_mem_nil, or_false] at member
    omega

theorem utf16_lt (s : String) : ∀ unit ∈ utf16 s, unit < 0x10000 := by
  intro unit member
  obtain ⟨c, -, here⟩ := List.mem_flatMap.mp member
  exact utf16Units_lt c unit here

/-- Units written with their high byte first compare as they do. -/
theorem bigEndian_lt_iff {units units' : List Nat} (short : ∀ unit ∈ units, unit < 0x10000)
    (short' : ∀ unit ∈ units', unit < 0x10000) :
    (units.flatMap fun unit => [(unit / 0x100).toUInt8, (unit % 0x100).toUInt8])
        < (units'.flatMap fun unit => [(unit / 0x100).toUInt8, (unit % 0x100).toUInt8]) ↔
      units < units' := by
  have byte : ∀ n, n < 0x100 → n.toUInt8.toNat = n := fun n small => by
    simp only [Nat.toUInt8_eq, UInt8.toNat_ofNat']
    omega
  induction units generalizing units' with
  | nil =>
      cases units' with
      | nil => simp
      | cons unit' units' => simp
  | cons unit units ih =>
      cases units' with
      | nil => simp
      | cons unit' units' =>
          have small := short unit List.mem_cons_self
          have small' := short' unit' List.mem_cons_self
          have later := ih (fun u member => short u (List.mem_cons_of_mem _ member))
            (fun u member => short' u (List.mem_cons_of_mem _ member))
          simp only [List.flatMap_cons, List.cons_append, List.nil_append, List.cons_lt_cons_iff,
            later, UInt8.lt_iff_toNat_lt, ← UInt8.toNat_inj, byte _ (show unit / 0x100 < 0x100 by omega),
            byte _ (show unit' / 0x100 < 0x100 by omega),
            byte _ (show unit % 0x100 < 0x100 by omega),
            byte _ (show unit' % 0x100 < 0x100 by omega)]
          have whole : unit = unit' ↔ unit / 0x100 = unit' / 0x100 ∧ unit % 0x100 = unit' % 0x100 := by
            omega
          have order : unit < unit' ↔ unit / 0x100 < unit' / 0x100 ∨
              unit / 0x100 = unit' / 0x100 ∧ unit % 0x100 < unit' % 0x100 := by
            omega
          rw [whole, order, and_or_left, or_assoc, and_assoc]

/-- Keys sorted by their encoding are sorted by their UTF-16 code units. -/
theorem utf16be_le_iff (s t : String) : utf16be s ≤ utf16be t ↔ utf16 s ≤ utf16 t := by
  rw [← List.not_lt, ← not_lt]
  exact not_congr (bigEndian_lt_iff (utf16_lt t) (utf16_lt s))

/-- A surrogate pair begins with no other character's units. -/
theorem utf16Units_prefixFree : PrefixFree utf16Units := by
  intro c c' starts
  have scalar := char_cases c
  have scalar' := char_cases c'
  refine Char.toNat_inj.mp ?_
  simp only [utf16Units] at starts
  split at starts <;> split at starts <;>
    simp only [List.cons_prefix_cons, List.nil_prefix, and_true, List.prefix_nil,
      reduceCtorEq, and_false] at starts
  · exact starts
  · omega
  · omega

theorem utf16Units_cons (c : Char) : ∃ first more, utf16Units c = first :: more ∧
    first ≠ 0x10000 := by
  have short := utf16Units_lt c
  simp only [utf16Units] at short ⊢
  split
  · next single =>
      exact ⟨_, _, rfl, by omega⟩
  · next pair =>
      rw [if_neg pair] at short
      exact ⟨_, _, rfl, Nat.ne_of_lt (short _ List.mem_cons_self)⟩

/-- Different keys have different code units. -/
theorem utf16_injective : Function.Injective utf16 := by
  intro s t same
  have ended : utf16 s ++ 0x10000 :: [] = utf16 t ++ 0x10000 :: [] := by rw [same]
  exact String.toList_inj.mp
    (utf16Units_prefixFree.cut_flatMap 0x10000 utf16Units_cons ended).1

/-! ## The text -/

/-- `_ESCAPE_MAP`, and the numeric escape of the other control characters. -/
def escapeChar (c : Char) : List Char :=
  match c.toNat with
  | 0x22 => ['\\', '\x22']
  | 0x5C => ['\\', '\\']
  | 0x08 => ['\\', 'b']
  | 0x0C => ['\\', 'f']
  | 0x0A => ['\\', 'n']
  | 0x0D => ['\\', 'r']
  | 0x09 => ['\\', 't']
  | n =>
      if n < 0x20 then ['\\', 'u', '0', '0', Nat.digitChar (n / 16), Nat.digitChar (n % 16)]
      else [c]

/-- `_encode_string`. -/
def quoted (s : String) : List Char := '\x22' :: (s.toList.flatMap escapeChar ++ ['\x22'])

/-- Members in the order of their keys' encoding. -/
def sortKeys {α : Type} (members : List (String × α)) : List (String × α) :=
  members.insertionSort fun a b => utf16be a.1 ≤ utf16be b.1

/-- `",".join(..)`. -/
def commaJoin : List (List Char) → List Char
  | [] => []
  | [item] => item
  | item :: items => item ++ ',' :: commaJoin items

mutual
/-- `_encode`. Members are encoded first and then sorted by their keys, which is the
same text as sorting first. -/
def canonicalText : JSONValue → List Char
  | .null => "null".toList
  | .bool true => "true".toList
  | .bool false => "false".toList
  | .str value => quoted value
  | .int value => (toString value).toList
  | .float negative digits exponent => (encodeNumber negative digits exponent).toList
  | .obj members =>
      '\x7b' :: (commaJoin ((sortKeys (memberTexts members)).map fun (key, text) =>
        quoted key ++ ':' :: text) ++ ['\x7d'])
  | .arr items => '[' :: (commaJoin (itemTexts items) ++ [']'])

def itemTexts : List JSONValue → List (List Char)
  | [] => []
  | item :: items => canonicalText item :: itemTexts items

def memberTexts : List (String × JSONValue) → List (String × List Char)
  | [] => []
  | (key, value) :: members => (key, canonicalText value) :: memberTexts members
end

theorem itemTexts_eq_map (items : List JSONValue) : itemTexts items = items.map canonicalText := by
  induction items with
  | nil => rfl
  | cons item items ih => rw [itemTexts, ih, List.map_cons]

theorem memberTexts_eq_map (members : List (String × JSONValue)) :
    memberTexts members = members.map fun m => (m.1, canonicalText m.2) := by
  induction members with
  | nil => rfl
  | cons m members ih => rw [memberTexts, ih, List.map_cons]

/-- Sorting looks at the keys only. -/
theorem sortKeys_map {α β : Type} (f : α → β) (members : List (String × α)) :
    sortKeys (members.map fun m => (m.1, f m.2)) = (sortKeys members).map fun m => (m.1, f m.2) :=
  (List.map_insertionSort (fun a b : String × α => utf16be a.1 ≤ utf16be b.1)
    (fun a b : String × β => utf16be a.1 ≤ utf16be b.1) (fun m => (m.1, f m.2)) members
    fun _ _ _ _ => Iff.rfl).symm

theorem sortMembers_eq_sortKeys (members : List (String × Bytes)) :
    sortMembers members = sortKeys members := by
  simp only [sortMembers, sortKeys, utf16be_le_iff]

/-! ## Its bytes -/

/-- `text.encode()`. -/
def utf8 (text : List Char) : Bytes := text.flatMap String.utf8EncodeChar

theorem encode_eq_utf8 (s : String) : encode s = utf8 s.toList := encode_eq_flatMap s

theorem utf8_append (text text' : List Char) : utf8 (text ++ text') = utf8 text ++ utf8 text' :=
  List.flatMap_append

theorem utf8_cons (c : Char) (text : List Char) :
    utf8 (c :: text) = String.utf8EncodeChar c ++ utf8 text := rfl

/-- Every byte of a longer character is outside ASCII. -/
theorem utf8EncodeChar_high {c : Char} (long : 0x80 ≤ c.toNat) :
    ∀ b ∈ String.utf8EncodeChar c, 0x80 ≤ b.toNat := by
  intro b member
  have whole : c.val.toNat = c.toNat := rfl
  simp only [String.utf8EncodeChar, whole] at member
  split at member
  · omega
  · split at member
    · simp only [List.mem_cons, List.not_mem_nil, or_false] at member
      rcases member with rfl | rfl <;> simp only [UInt8.toNat_ofNat'] <;> omega
    · split at member
      · simp only [List.mem_cons, List.not_mem_nil, or_false] at member
        rcases member with rfl | rfl | rfl <;> simp only [UInt8.toNat_ofNat'] <;> omega
      · simp only [List.mem_cons, List.not_mem_nil, or_false] at member
        rcases member with rfl | rfl | rfl | rfl <;> simp only [UInt8.toNat_ofNat'] <;> omega

theorem escapeByte_of_high {b : UInt8} (high : 0x80 ≤ b.toNat) : escapeByte b = [b] := by
  have plain : escaped b.toNat = false := by
    simp only [escaped, decide_eq_false_iff_not, not_or]
    omega
  have word := escapeByte_of_not_escaped b.toNat b.toNat_lt plain
  rwa [UInt8.ofNat_toNat] at word

theorem escapeByte_ascii : ∀ n < 0x80,
    (String.utf8EncodeChar (Char.ofNat n)).flatMap escapeByte = utf8 (escapeChar (Char.ofNat n)) := by
  decide +kernel

theorem escapeChar_of_high {c : Char} (long : 0x80 ≤ c.toNat) : escapeChar c = [c] := by
  unfold escapeChar
  split
  all_goals first | omega | skip
  rw [if_neg (by omega)]

/-- Escaping the bytes of a character writes the bytes of its escape. -/
theorem flatMap_escapeByte (c : Char) :
    (String.utf8EncodeChar c).flatMap escapeByte = utf8 (escapeChar c) := by
  by_cases short : c.toNat < 0x80
  · have same := escapeByte_ascii c.toNat short
    rwa [Char.ofNat_toNat] at same
  · rw [escapeChar_of_high (Nat.not_lt.mp short)]
    have plain : ∀ b ∈ String.utf8EncodeChar c, escapeByte b = [b] := fun b member =>
      escapeByte_of_high (utf8EncodeChar_high (Nat.not_lt.mp short) b member)
    rw [List.flatMap_congr plain, List.flatMap_singleton', utf8, List.flatMap_singleton]

theorem encodeString_eq_utf8 (s : String) : encodeString s = utf8 (quoted s) := by
  have body : (encode s).flatMap escapeByte = utf8 (s.toList.flatMap escapeChar) := by
    rw [encode_eq_flatMap, utf8]
    induction s.toList with
    | nil => rfl
    | cons c text ih =>
        rw [List.flatMap_cons, List.flatMap_append, ih, flatMap_escapeByte, List.flatMap_cons,
          List.flatMap_append]
        rfl
  rw [encodeString, quoted, utf8_cons, utf8_append, body]
  rfl

theorem joinComma_eq_utf8 (items : List (List Char)) :
    joinComma (items.map utf8) = utf8 (commaJoin items) := by
  induction items with
  | nil => rfl
  | cons item items ih =>
      cases items with
      | nil => rfl
      | cons item' items =>
          have left : joinComma ((item :: item' :: items).map utf8)
              = utf8 item ++ 0x2C :: joinComma ((item' :: items).map utf8) := rfl
          have right : commaJoin (item :: item' :: items)
              = item ++ ',' :: commaJoin (item' :: items) := rfl
          rw [left, ih, right, utf8_append, utf8_cons]
          rfl

end Actl.Audit

namespace Actl

/-- What holds of a value when it holds of its parts holds of every value. -/
@[elab_as_elim]
theorem JSONValue.induction {motive : JSONValue → Prop} (null : motive .null)
    (bool : ∀ value, motive (.bool value)) (int : ∀ value, motive (.int value))
    (float : ∀ negative digits exponent, motive (.float negative digits exponent))
    (str : ∀ value, motive (.str value))
    (arr : ∀ items, (∀ item ∈ items, motive item) → motive (.arr items))
    (obj : ∀ members, (∀ m ∈ members, motive m.2) → motive (.obj members)) :
    ∀ value, motive value := by
  intro value
  induction sized : sizeOf value using Nat.strong_induction_on generalizing value with
  | _ size ih =>
      cases value with
      | null => exact null
      | bool value => exact bool value
      | int value => exact int value
      | float negative digits exponent => exact float negative digits exponent
      | str value => exact str value
      | arr items =>
          refine arr items fun item member => ih _ ?_ item rfl
          have smaller := List.sizeOf_lt_of_mem member
          simp only [JSONValue.arr.sizeOf_spec] at sized
          omega
      | obj members =>
          refine obj members fun m member => ih _ ?_ m.2 rfl
          have smaller := List.sizeOf_lt_of_mem member
          obtain ⟨key, value⟩ := m
          simp only [JSONValue.obj.sizeOf_spec, Prod.mk.sizeOf_spec] at sized smaller ⊢
          omega

namespace Audit

/-- The canonical form that is hashed is the canonical text in UTF-8. -/
theorem jcs_eq_utf8 (value : JSONValue) : jcs value = utf8 (canonicalText value) := by
  induction value using JSONValue.induction with
  | null => rfl
  | bool value => cases value <;> rfl
  | int value => rw [jcs, canonicalText, encode_eq_utf8]
  | float negative digits exponent => rw [jcs, canonicalText, encode_eq_utf8]
  | str value => rw [jcs, canonicalText, encodeString_eq_utf8]
  | arr items ih =>
      have texts : jcsItems items = (itemTexts items).map utf8 := by
        rw [itemTexts_eq_map, List.map_map]
        induction items with
        | nil => rfl
        | cons item items later =>
            rw [jcsItems, List.map_cons, ih item List.mem_cons_self,
              later fun i member => ih i (List.mem_cons_of_mem _ member)]
            rfl
      rw [jcs, texts, joinComma_eq_utf8, canonicalText, utf8_cons, utf8_append]
      rfl
  | obj members ih =>
      have texts : (jcsMembers members)
          = (memberTexts members).map fun m => (m.1, utf8 m.2) := by
        rw [jcsMembers_eq_map, memberTexts_eq_map, List.map_map]
        refine List.map_congr_left fun m member => ?_
        rw [ih m member]
        rfl
      rw [jcs, texts, sortMembers_eq_sortKeys, sortKeys_map, List.map_map, canonicalText, utf8_cons,
        utf8_append, ← joinComma_eq_utf8, List.map_map]
      refine congrArg (fun texts => 0x7B :: (joinComma texts ++ [0x7D])) ?_
      refine List.map_congr_left fun m _ => ?_
      simp only [Function.comp_apply, encodeString_eq_utf8, utf8_append, utf8_cons]
      rfl

end Audit

end Actl
