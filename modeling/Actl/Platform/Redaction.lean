import Mathlib.Data.List.Infix
import Actl.Foundation.Keyed

/-!
# Redaction of log values

`platform/redaction.py`: what is logged goes through `redact`, which replaces the value
of every member whose key looks sensitive. A log value is a tree of mappings, lists and
tuples over scalars; of a scalar that is no text only its `str()` is known, and of the
lower case of a text nothing.

`redact` goes into mappings and lists and leaves tuples as they are, so it does what it
is for (`Redacts`) exactly where the tuples it comes to are clean already, and keys of one
mapping that have the same text lose nothing (`redacts_iff`).
-/

set_option autoImplicit false

namespace Actl.Redaction

open Foundation (dictOf mem_dictOf mem_of_mem_dictOf nodup_dictOf dictOf_functional
  exists_mem_dictOf mem_dictOf_map dictOf_of_nodup)

/-! ## Log values -/

/-- A value that is no container. -/
inductive Scalar (ω : Type) where
  | str (text : String)
  | other (object : ω)
  deriving DecidableEq

inductive LogValue (ω : Type) where
  | scalar (value : Scalar ω)
  | mapping (members : List (Scalar ω × LogValue ω))
  | list (items : List (LogValue ω))
  | tuple (items : List (LogValue ω))

/-- `str()` and `str.lower()`. -/
structure Texts (ω : Type) where
  text : ω → String
  lower : String → String

section Values

variable {ω : Type}

mutual
/-- What holds of a value when it holds of its parts holds of every value. -/
theorem LogValue.induct {motive : LogValue ω → Prop} (scalar : ∀ value, motive (.scalar value))
    (mapping : ∀ members, (∀ member ∈ members, motive member.2) → motive (.mapping members))
    (list : ∀ items, (∀ item ∈ items, motive item) → motive (.list items))
    (tuple : ∀ items, (∀ item ∈ items, motive item) → motive (.tuple items)) :
    (value : LogValue ω) → motive value
  | .scalar value => scalar value
  | .mapping members => mapping members (inductMembers scalar mapping list tuple members)
  | .list items => list items (inductItems scalar mapping list tuple items)
  | .tuple items => tuple items (inductItems scalar mapping list tuple items)

theorem LogValue.inductMembers {motive : LogValue ω → Prop}
    (scalar : ∀ value, motive (.scalar value))
    (mapping : ∀ members, (∀ member ∈ members, motive member.2) → motive (.mapping members))
    (list : ∀ items, (∀ item ∈ items, motive item) → motive (.list items))
    (tuple : ∀ items, (∀ item ∈ items, motive item) → motive (.tuple items)) :
    (members : List (Scalar ω × LogValue ω)) → ∀ member ∈ members, motive member.2
  | [] => nofun
  | (_, value) :: members => List.forall_mem_cons.mpr
      ⟨LogValue.induct scalar mapping list tuple value,
        inductMembers scalar mapping list tuple members⟩

theorem LogValue.inductItems {motive : LogValue ω → Prop}
    (scalar : ∀ value, motive (.scalar value))
    (mapping : ∀ members, (∀ member ∈ members, motive member.2) → motive (.mapping members))
    (list : ∀ items, (∀ item ∈ items, motive item) → motive (.list items))
    (tuple : ∀ items, (∀ item ∈ items, motive item) → motive (.tuple items)) :
    (items : List (LogValue ω)) → ∀ item ∈ items, motive item
  | [] => nofun
  | item :: items => List.forall_mem_cons.mpr
      ⟨LogValue.induct scalar mapping list tuple item,
        inductItems scalar mapping list tuple items⟩
end

end Values

/-! ## Redacting -/

/-- `REDACTED`. -/
def redacted : String := "***REDACTED***"

/-- `_SENSITIVE_KEY_MARKERS`. -/
def sensitiveKeyMarkers : List String := [
  "secret", "password", "token", "authorization", "api_key", "apikey", "private_key", "signature"]

section Redact

variable {ω : Type} (T : Texts ω)

/-- `str()` of a scalar. -/
def Texts.str : Scalar ω → String
  | .str text => text
  | .other object => T.text object

/-- `_looks_sensitive`. -/
def looksSensitive (key : String) : Bool :=
  sensitiveKeyMarkers.any fun marker => marker.toList <:+: (T.lower key).toList

mutual
/-- `redact`. Members whose keys have the same text end up as one. -/
def redact : LogValue ω → LogValue ω
  | .mapping members =>
      .mapping ((dictOf (redactMembers members)).map fun pair => (.str pair.1, pair.2))
  | .list items => .list (redactItems items)
  | value => value

def redactMembers : List (Scalar ω × LogValue ω) → List (String × LogValue ω)
  | [] => []
  | (key, value) :: members =>
      (T.str key, if looksSensitive T (T.str key) then .scalar (.str redacted) else redact value)
        :: redactMembers members

def redactItems : List (LogValue ω) → List (LogValue ω)
  | [] => []
  | item :: items => redact item :: redactItems items
end

/-- `redaction_processor`, on the members of an event. -/
def redactionProcessor (eventDict : List (Scalar ω × LogValue ω)) : LogValue ω :=
  redact T (.mapping eventDict)

/-! ## What it is for -/

/-- One step into a value. -/
inductive Step where
  | key (text : String)
  | index (i : Nat)
  deriving DecidableEq

abbrev Place : Type := List Step

/-- The value has the scalar at the place, and no key on the way looks sensitive. -/
inductive Shows : LogValue ω → Place → Scalar ω → Prop where
  | here (scalar : Scalar ω) : Shows (.scalar scalar) [] scalar
  | member {members : List (Scalar ω × LogValue ω)} {key : Scalar ω} {value : LogValue ω}
      {place : Place} {scalar : Scalar ω} (present : (key, value) ∈ members)
      (plain : looksSensitive T (T.str key) = false) (shows : Shows value place scalar) :
      Shows (.mapping members) (.key (T.str key) :: place) scalar
  | item {items : List (LogValue ω)} {i : Nat} {value : LogValue ω} {place : Place}
      {scalar : Scalar ω} (present : items[i]? = some value) (shows : Shows value place scalar) :
      Shows (.list items) (.index i :: place) scalar
  | part {items : List (LogValue ω)} {i : Nat} {value : LogValue ω} {place : Place}
      {scalar : Scalar ω} (present : items[i]? = some value) (shows : Shows value place scalar) :
      Shows (.tuple items) (.index i :: place) scalar

/-- Every member with a sensitive key has the value `REDACTED`, at any depth. -/
inductive Clean : LogValue ω → Prop where
  | scalar (value : Scalar ω) : Clean (.scalar value)
  | mapping {members : List (Scalar ω × LogValue ω)}
      (hidden : ∀ member ∈ members, looksSensitive T (T.str member.1) = true →
        member.2 = .scalar (.str redacted))
      (below : ∀ member ∈ members, Clean member.2) : Clean (.mapping members)
  | list {items : List (LogValue ω)} (below : ∀ item ∈ items, Clean item) : Clean (.list items)
  | tuple {items : List (LogValue ω)} (below : ∀ item ∈ items, Clean item) : Clean (.tuple items)

/-- What redacting a value is for: it hides the sensitive members, leaves every other
scalar in its place and adds none, and there is nothing left to redact. -/
structure Redacts (value : LogValue ω) : Prop where
  clean : Clean T (redact T value)
  unchanged : ∀ place scalar, Shows T value place scalar ↔ Shows T (redact T value) place scalar
  settled : redact T (redact T value) = redact T value

/-- The members of a mapping that are left when keys are told apart by their texts. -/
def latest (members : List (Scalar ω × LogValue ω)) : List (String × LogValue ω) :=
  dictOf (members.map fun member => (T.str member.1, member.2))

/-- Outside of members with sensitive keys, tuples are clean, and where keys of one
mapping have the same text, the last has every scalar of the others. -/
inductive Redactable : LogValue ω → Prop where
  | scalar (value : Scalar ω) : Redactable (.scalar value)
  | mapping {members : List (Scalar ω × LogValue ω)}
      (below : ∀ member ∈ latest T members, looksSensitive T member.1 = false →
        Redactable member.2)
      (covered : ∀ member ∈ members, looksSensitive T (T.str member.1) = false →
        ∀ last, (T.str member.1, last) ∈ latest T members →
          ∀ place scalar, Shows T member.2 place scalar → Shows T last place scalar) :
      Redactable (.mapping members)
  | list {items : List (LogValue ω)} (below : ∀ item ∈ items, Redactable item) :
      Redactable (.list items)
  | tuple {items : List (LogValue ω)} (clean : Clean T (.tuple items)) : Redactable (.tuple items)

end Redact

section Lemmas

variable {ω : Type} {T : Texts ω}

/-- What becomes of the value under a key. -/
def redactUnder (T : Texts ω) (key : String) (value : LogValue ω) : LogValue ω :=
  if looksSensitive T key then .scalar (.str redacted) else redact T value

theorem redactMembers_eq (members : List (Scalar ω × LogValue ω)) :
    redactMembers T members = (members.map fun member => (T.str member.1, member.2)).map
      fun pair => (pair.1, redactUnder T pair.1 pair.2) := by
  induction members with
  | nil => rfl
  | cons member members ih =>
      rw [redactMembers, ih]
      rfl

theorem redactItems_eq (items : List (LogValue ω)) : redactItems T items = items.map (redact T) := by
  induction items with
  | nil => rfl
  | cons item items ih => rw [redactItems, ih, List.map_cons]

/-- The members of a redacted mapping. -/
theorem mem_redacted {members : List (Scalar ω × LogValue ω)} {member : Scalar ω × LogValue ω} :
    member ∈ (dictOf (redactMembers T members)).map (fun pair => (Scalar.str pair.1, pair.2)) ↔
      ∃ key old, (key, old) ∈ latest T members ∧ member = (.str key, redactUnder T key old) := by
  rw [List.mem_map, redactMembers_eq]
  constructor
  · rintro ⟨⟨key, value⟩, present, rfl⟩
    obtain ⟨old, kept, rfl⟩ := mem_dictOf_map.mp present
    exact ⟨key, old, kept, rfl⟩
  · rintro ⟨key, old, kept, rfl⟩
    exact ⟨(key, redactUnder T key old), mem_dictOf_map.mpr ⟨old, kept, rfl⟩, rfl⟩

theorem mem_of_mem_latest {members : List (Scalar ω × LogValue ω)} {key : String}
    {value : LogValue ω} (kept : (key, value) ∈ latest T members) :
    ∃ name, (name, value) ∈ members ∧ T.str name = key := by
  obtain ⟨⟨name, old⟩, present, same⟩ := List.mem_map.mp (mem_of_mem_dictOf kept)
  cases same
  exact ⟨name, present, rfl⟩

theorem exists_latest {members : List (Scalar ω × LogValue ω)} {name : Scalar ω}
    {value : LogValue ω} (present : (name, value) ∈ members) :
    ∃ last, (T.str name, last) ∈ latest T members :=
  exists_mem_dictOf (List.mem_map_of_mem (f := fun member => (T.str member.1, member.2)) present)

/-! ## Redacting twice -/

/-- Redacting leaves nothing to redact. -/
theorem redact_redact (value : LogValue ω) : redact T (redact T value) = redact T value := by
  induction value using LogValue.induct with
  | scalar value => rfl
  | tuple items => rfl
  | list items below =>
      rw [redact, redact, redactItems_eq, redactItems_eq, List.map_map]
      exact congrArg LogValue.list (List.map_congr_left below)
  | mapping members below =>
      have again : ∀ pair ∈ dictOf (redactMembers T members),
          redactUnder T pair.1 pair.2 = pair.2 := by
        rintro ⟨key, value⟩ present
        rw [redactMembers_eq] at present
        obtain ⟨old, kept, rfl⟩ := mem_dictOf_map.mp present
        obtain ⟨name, member, -⟩ := mem_of_mem_latest kept
        rw [redactUnder, redactUnder]
        split
        next => rfl
        next => exact below _ member
      rw [redact, redact, redactMembers_eq, List.map_map, List.map_map]
      refine congrArg (fun pairs : List (String × LogValue ω) =>
        LogValue.mapping (pairs.map fun pair => (Scalar.str pair.1, pair.2))) ?_
      have same : (dictOf (redactMembers T members)).map
          ((fun pair : String × LogValue ω => (pair.1, redactUnder T pair.1 pair.2)) ∘
            (fun member : Scalar ω × LogValue ω => (T.str member.1, member.2)) ∘
              fun pair : String × LogValue ω => (Scalar.str pair.1, pair.2))
          = dictOf (redactMembers T members) := by
        conv_rhs => rw [← List.map_id (dictOf (redactMembers T members))]
        refine List.map_congr_left fun pair present => ?_
        exact Prod.ext rfl (again pair present)
      exact (congrArg dictOf same).trans (dictOf_of_nodup (nodup_dictOf _))

/-! ## Places -/

theorem shows_mapping_iff {members : List (Scalar ω × LogValue ω)} {place : Place}
    {scalar : Scalar ω} :
    Shows T (.mapping members) place scalar ↔ ∃ name value rest, (name, value) ∈ members ∧
      looksSensitive T (T.str name) = false ∧ place = .key (T.str name) :: rest ∧
        Shows T value rest scalar := by
  constructor
  · intro shows
    cases shows with
    | member present plain shows => exact ⟨_, _, _, present, plain, rfl, shows⟩
  · rintro ⟨name, value, rest, present, plain, rfl, shows⟩
    exact .member present plain shows

theorem shows_list_iff {items : List (LogValue ω)} {place : Place} {scalar : Scalar ω} :
    Shows T (.list items) place scalar ↔ ∃ i value rest, items[i]? = some value ∧
      place = .index i :: rest ∧ Shows T value rest scalar := by
  constructor
  · intro shows
    cases shows with
    | item present shows => exact ⟨_, _, _, present, rfl, shows⟩
  · rintro ⟨i, value, rest, present, rfl, shows⟩
    exact .item present shows

/-- What a redacted mapping shows. -/
theorem shows_redact_mapping {members : List (Scalar ω × LogValue ω)} {place : Place}
    {scalar : Scalar ω} :
    Shows T (redact T (.mapping members)) place scalar ↔ ∃ key last rest,
      (key, last) ∈ latest T members ∧ looksSensitive T key = false ∧ place = .key key :: rest ∧
        Shows T (redact T last) rest scalar := by
  rw [redact, shows_mapping_iff]
  constructor
  · rintro ⟨name, value, rest, present, plain, rfl, shows⟩
    obtain ⟨key, last, kept, same⟩ := mem_redacted.mp present
    cases same
    have hidden : redactUnder T key last = redact T last := if_neg (Bool.eq_false_iff.mp plain)
    rw [hidden] at shows
    exact ⟨key, last, rest, kept, plain, rfl, shows⟩
  · rintro ⟨key, last, rest, kept, plain, rfl, shows⟩
    refine ⟨.str key, redact T last, rest, mem_redacted.mpr ⟨key, last, kept, ?_⟩, plain, rfl, shows⟩
    rw [redactUnder, if_neg (Bool.eq_false_iff.mp plain)]

theorem shows_redact_list {items : List (LogValue ω)} {place : Place} {scalar : Scalar ω} :
    Shows T (redact T (.list items)) place scalar ↔ ∃ i value rest, items[i]? = some value ∧
      place = .index i :: rest ∧ Shows T (redact T value) rest scalar := by
  rw [redact, redactItems_eq, shows_list_iff]
  constructor
  · rintro ⟨i, value, rest, present, rfl, shows⟩
    rw [List.getElem?_map] at present
    obtain ⟨old, here, rfl⟩ := Option.map_eq_some_iff.mp present
    exact ⟨i, old, rest, here, rfl, shows⟩
  · rintro ⟨i, value, rest, present, rfl, shows⟩
    exact ⟨i, redact T value, rest, by rw [List.getElem?_map, present, Option.map_some], rfl, shows⟩

/-- Redacting adds no scalar outside of sensitive members. -/
theorem shows_of_redact (value : LogValue ω) : ∀ {place : Place} {scalar : Scalar ω},
    Shows T (redact T value) place scalar → Shows T value place scalar := by
  induction value using LogValue.induct with
  | scalar value => exact fun shows => shows
  | tuple items => exact fun shows => shows
  | list items below =>
      intro place scalar seen
      obtain ⟨i, value, rest, present, rfl, shows⟩ := shows_redact_list.mp seen
      exact .item present (below value (List.mem_of_getElem? present) shows)
  | mapping members below =>
      intro place scalar seen
      obtain ⟨key, last, rest, kept, plain, rfl, shows⟩ := shows_redact_mapping.mp seen
      obtain ⟨name, present, rfl⟩ := mem_of_mem_latest kept
      exact .member present plain (below _ present shows)

/-! ## Where it does what it is for -/

theorem redacts_of_redactable {value : LogValue ω} (redactable : Redactable T value) :
    Clean T (redact T value) ∧
      ∀ place scalar, Shows T value place scalar → Shows T (redact T value) place scalar := by
  induction redactable with
  | scalar value => exact ⟨.scalar value, fun _ _ shows => shows⟩
  | tuple clean => exact ⟨clean, fun _ _ shows => shows⟩
  | list below ih =>
      refine ⟨?_, fun place scalar seen => ?_⟩
      · rw [redact, redactItems_eq]
        refine .list fun item member => ?_
        obtain ⟨old, present, rfl⟩ := List.mem_map.mp member
        exact (ih old present).1
      · obtain ⟨i, value, rest, present, rfl, shows⟩ := shows_list_iff.mp seen
        exact shows_redact_list.mpr ⟨i, value, rest, present, rfl,
          (ih value (List.mem_of_getElem? present)).2 _ _ shows⟩
  | @mapping members below covered ih =>
      refine ⟨?_, fun place scalar seen => ?_⟩
      · rw [redact]
        refine .mapping (fun member present sensitive => ?_) fun member present => ?_
        · obtain ⟨key, old, -, rfl⟩ := mem_redacted.mp present
          exact if_pos sensitive
        · obtain ⟨key, old, kept, rfl⟩ := mem_redacted.mp present
          rw [redactUnder]
          split
          next => exact .scalar _
          next plain => exact (ih _ kept (Bool.eq_false_iff.mpr plain)).1
      · obtain ⟨name, value, rest, present, plain, rfl, shows⟩ := shows_mapping_iff.mp seen
        obtain ⟨last, kept⟩ := exists_latest (T := T) present
        refine shows_redact_mapping.mpr ⟨_, last, rest, kept, plain, rfl, ?_⟩
        exact (ih _ kept plain).2 _ _ (covered _ present plain last kept _ _ shows)

theorem redactable_of_redacts (value : LogValue ω) : Clean T (redact T value) →
    (∀ place scalar, Shows T value place scalar → Shows T (redact T value) place scalar) →
      Redactable T value := by
  induction value using LogValue.induct with
  | scalar value => exact fun _ _ => .scalar value
  | tuple items => exact fun clean _ => .tuple clean
  | list items below =>
      intro clean unchanged
      refine .list fun item member => below item member ?_ fun place scalar shows => ?_
      · rw [redact, redactItems_eq] at clean
        cases clean with
        | list clean => exact clean _ (List.mem_map_of_mem member)
      · obtain ⟨i, here, same⟩ := List.mem_iff_getElem.mp member
        have present : items[i]? = some item := by rw [List.getElem?_eq_getElem here, same]
        obtain ⟨i', value, rest, present', same, shows⟩ :=
          shows_redact_list.mp (unchanged _ _ (.item present shows))
        cases same
        cases present.symm.trans present'
        exact shows
  | mapping members below =>
      intro clean unchanged
      have after : ∀ {name value key last rest scalar}, (name, value) ∈ members →
          looksSensitive T (T.str name) = false → T.str name = key →
          (key, last) ∈ latest T members → Shows T value rest scalar →
            Shows T (redact T last) rest scalar := by
        rintro name value key last rest scalar present plain rfl kept shows
        obtain ⟨key, last', rest', kept', -, same, shows⟩ :=
          shows_redact_mapping.mp (unchanged _ _ (.member present plain shows))
        cases same
        rw [dictOf_functional kept kept']
        exact shows
      refine .mapping (fun member kept plain => ?_) fun member present plain last kept rest scalar
        shows => shows_of_redact last (after present plain rfl kept shows)
      obtain ⟨name, present, named⟩ := mem_of_mem_latest kept
      refine below _ present ?_ fun rest scalar shows =>
        after present (named ▸ plain) named kept shows
      rw [redact] at clean
      cases clean with
      | mapping _ clean =>
          have hidden := clean _ (mem_redacted.mpr ⟨_, _, kept, rfl⟩)
          rw [redactUnder, if_neg (Bool.eq_false_iff.mp plain)] at hidden
          exact hidden

/-- Redacting a value does what it is for exactly where tuples are clean and no two keys of
a mapping have a text in common, unless nothing is lost by it. -/
theorem redacts_iff (T : Texts ω) (value : LogValue ω) : Redacts T value ↔ Redactable T value := by
  constructor
  · intro redacts
    exact redactable_of_redacts value redacts.clean fun place scalar =>
      (redacts.unchanged place scalar).mp
  · intro redactable
    obtain ⟨clean, unchanged⟩ := redacts_of_redactable redactable
    exact ⟨clean, fun place scalar => ⟨unchanged place scalar, shows_of_redact value⟩,
      redact_redact value⟩

end Lemmas

namespace Fixture

def texts : Texts Int where
  text := toString
  lower := fun text => String.ofList (text.toList.map Char.toLower)

/-- A password in a mapping in a tuple is logged. -/
theorem tuple_leaks : ¬ Redacts texts
    (.mapping [(.str "rows", .tuple [.mapping [(.str "Password", .scalar (.str "hunter2"))]])]) := by
  intro redacts
  have clean : Clean texts (.mapping [(.str "rows",
      .tuple [.mapping [(.str "Password", .scalar (.str "hunter2"))]])]) := redacts.clean
  cases clean with
  | mapping _ below =>
      have inner := below _ List.mem_cons_self
      cases inner with
      | tuple below =>
          have row := below _ List.mem_cons_self
          cases row with
          | mapping hidden _ =>
              have shown := hidden _ List.mem_cons_self (by decide)
              injection shown with shown
              revert shown
              decide

end Fixture

end Actl.Redaction
