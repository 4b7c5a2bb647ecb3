import Mathlib.Data.List.Nodup

/-!
# Tables with unique columns

A table is a list of rows in insertion order together with the columns that no
two rows may share. The uniqueness is a field of the table, so a table that
violates one of its constraints cannot be built: inserting a row that would
break a constraint has no result, and modifying rows is only possible along a
function that leaves every unique column alone.

Reasoning about a table goes through membership. A lookup by a unique column
finds exactly the row that carries the value (`get?_eq_some_iff`), an insertion
adds exactly one row (`mem_of_insert?`) and a modification changes the selected
rows in place (`mem_modify`).
-/

set_option autoImplicit false

namespace Actl.Foundation

/-- A property of one element only selects that element. -/
theorem filter_eq_singleton {α : Type} {p : α → Bool} {l : List α} {a : α} (distinct : l.Nodup)
    (member : a ∈ l) (holds : p a = true) (only : ∀ b ∈ l, p b = true → b = a) :
    l.filter p = [a] := by
  have same : ∀ b, b ∈ l.filter p ↔ b ∈ [a] := by
    intro b
    rw [List.mem_filter, List.mem_singleton]
    exact ⟨fun here => only b here.1 here.2, fun here => here ▸ ⟨member, holds⟩⟩
  exact List.perm_singleton.mp
    ((List.perm_ext_iff_of_nodup (distinct.filter _) (List.nodup_singleton a)).mpr same)

/-- Rows in insertion order, no two of which agree on a unique column. -/
structure Table (ρ : Type) (cols : List (ρ → String)) where
  rows : List ρ
  unique : ∀ col ∈ cols, (rows.map col).Nodup

namespace Table

variable {ρ : Type} {cols : List (ρ → String)}

instance : Membership ρ (Table ρ cols) where
  mem t r := r ∈ t.rows

theorem mem_def {t : Table ρ cols} {r : ρ} : r ∈ t ↔ r ∈ t.rows := Iff.rfl

/-- The table without rows. -/
def empty : Table ρ cols where
  rows := []
  unique := by simp

@[simp] theorem not_mem_empty (r : ρ) : r ∉ (empty : Table ρ cols) := by
  simp [mem_def, empty]

/-- The first row whose column holds the value. -/
def get? (t : Table ρ cols) (col : ρ → String) (value : String) : Option ρ :=
  t.rows.find? fun r => col r = value

/-- Two rows that agree on a unique column are the same row. -/
theorem eq_of_col_eq {t : Table ρ cols} (col : ρ → String) (unique : col ∈ cols) {r r' : ρ}
    (member : r ∈ t) (member' : r' ∈ t) (same : col r = col r') : r = r' :=
  List.inj_on_of_nodup_map (t.unique col unique) member member' same

theorem get?_mem {t : Table ρ cols} {col : ρ → String} {value : String} {r : ρ}
    (found : t.get? col value = some r) : r ∈ t ∧ col r = value :=
  ⟨List.mem_of_find?_eq_some found, by simpa using List.find?_some found⟩

/-- A lookup by a unique column finds exactly the row that carries the value. -/
theorem get?_eq_some_iff {t : Table ρ cols} {col : ρ → String} (unique : col ∈ cols)
    {value : String} {r : ρ} : t.get? col value = some r ↔ r ∈ t ∧ col r = value := by
  refine ⟨get?_mem, fun ⟨member, holds⟩ => ?_⟩
  cases found : t.get? col value with
  | none =>
      have absent := List.find?_eq_none.mp found r member
      exact absurd holds (by simpa using absent)
  | some r' =>
      obtain ⟨member', holds'⟩ := get?_mem found
      rw [eq_of_col_eq col unique member member' (holds.trans holds'.symm)]

theorem get?_eq_none_iff {t : Table ρ cols} {col : ρ → String} {value : String} :
    t.get? col value = none ↔ ∀ r ∈ t, col r ≠ value := by
  simp [get?, List.find?_eq_none, mem_def]

/-- A row that agrees with a row of the table on one of the unique columns. -/
def Clashes (t : Table ρ cols) (r : ρ) : Prop :=
  ∃ col ∈ cols, col r ∈ t.rows.map col

instance (t : Table ρ cols) (r : ρ) : Decidable (t.Clashes r) :=
  inferInstanceAs (Decidable (∃ col ∈ cols, col r ∈ t.rows.map col))

/-- Appending a row, refused when it clashes with a row that is there. -/
def insert? (t : Table ρ cols) (r : ρ) : Option (Table ρ cols) :=
  if clash : t.Clashes r then none
  else some
    { rows := t.rows ++ [r]
      unique := by
        intro col member
        rw [List.map_append, List.nodup_append]
        refine ⟨t.unique col member, by simp, ?_⟩
        intro value present value' new same
        rw [List.map_singleton, List.mem_singleton] at new
        exact clash ⟨col, member, new ▸ same ▸ present⟩ }

theorem insert?_eq_none_iff {t : Table ρ cols} {r : ρ} : t.insert? r = none ↔ t.Clashes r := by
  unfold insert?
  split <;> simp [*]

theorem mem_of_insert? {t t' : Table ρ cols} {r : ρ} (inserted : t.insert? r = some t') {x : ρ} :
    x ∈ t' ↔ x ∈ t ∨ x = r := by
  unfold insert? at inserted
  split at inserted
  · cases inserted
  · cases inserted
    simp [mem_def]

theorem rows_of_insert? {t t' : Table ρ cols} {r : ρ} (inserted : t.insert? r = some t') :
    t'.rows = t.rows ++ [r] := by
  unfold insert? at inserted
  split at inserted
  · cases inserted
  · cases inserted
    rfl

/-- A row that went in clashed with no row that was there. -/
theorem not_clashes_of_insert? {t t' : Table ρ cols} {r : ρ} (inserted : t.insert? r = some t')
    (col : ρ → String) (unique : col ∈ cols) {x : ρ} (member : x ∈ t) : col x ≠ col r := by
  unfold insert? at inserted
  split at inserted
  · cases inserted
  · rename_i clash
    intro same
    exact clash ⟨col, unique, List.mem_map.mpr ⟨x, member, same⟩⟩

/-- Changing the selected rows in place, along a function that keeps every
unique column. -/
def modify (t : Table ρ cols) (selected : ρ → Bool) (f : ρ → ρ)
    (keeps : ∀ col ∈ cols, ∀ r, col (f r) = col r) : Table ρ cols where
  rows := t.rows.map fun r => if selected r then f r else r
  unique := by
    intro col member
    have same : (t.rows.map fun r => if selected r then f r else r).map col = t.rows.map col := by
      rw [List.map_map]
      refine List.map_congr_left fun r _ => ?_
      simp only [Function.comp_apply]
      split
      · exact keeps col member r
      · rfl
    rw [same]
    exact t.unique col member

theorem mem_modify {t : Table ρ cols} {selected : ρ → Bool} {f : ρ → ρ}
    {keeps : ∀ col ∈ cols, ∀ r, col (f r) = col r} {x : ρ} :
    x ∈ t.modify selected f keeps ↔ ∃ r ∈ t, (if selected r then f r else r) = x := by
  simp [modify, mem_def]

/-- A lookup by a unique column after a modification. -/
theorem get?_modify {t : Table ρ cols} {selected : ρ → Bool} {f : ρ → ρ}
    {keeps : ∀ col ∈ cols, ∀ r, col (f r) = col r} {col : ρ → String} (unique : col ∈ cols)
    (value : String) :
    (t.modify selected f keeps).get? col value =
      (t.get? col value).map fun r => if selected r then f r else r := by
  rw [get?, modify, List.find?_map, get?]
  congr 2
  funext r
  simp only [Function.comp_apply]
  split
  · rw [keeps col unique]
  · rfl

/-- A row that is not selected survives a modification. -/
theorem mem_modify_of_not_selected {t : Table ρ cols} {selected : ρ → Bool} {f : ρ → ρ}
    {keeps : ∀ col ∈ cols, ∀ r, col (f r) = col r} {r : ρ} (member : r ∈ t)
    (skipped : selected r = false) : r ∈ t.modify selected f keeps :=
  mem_modify.mpr ⟨r, member, by simp [skipped]⟩

/-- A selected row is in the modified table in its changed form. -/
theorem mem_modify_of_selected {t : Table ρ cols} {selected : ρ → Bool} {f : ρ → ρ}
    {keeps : ∀ col ∈ cols, ∀ r, col (f r) = col r} {r : ρ} (member : r ∈ t)
    (chosen : selected r = true) : f r ∈ t.modify selected f keeps :=
  mem_modify.mpr ⟨r, member, by simp [chosen]⟩

@[ext] theorem ext {t t' : Table ρ cols} (same : t.rows = t'.rows) : t = t' := by
  cases t
  cases t'
  cases same
  rfl

theorem map_unselected {l : List ρ} {selected : ρ → Bool} {f : ρ → ρ}
    (skipped : ∀ x ∈ l, selected x = false) : (l.map fun x => if selected x then f x else x) = l := by
  conv_rhs => rw [← List.map_id l]
  exact List.map_congr_left fun x present => by simp [skipped x present]

/-- Modifying no row changes nothing. -/
theorem modify_eq_self {t : Table ρ cols} {selected : ρ → Bool} {f : ρ → ρ}
    {keeps : ∀ col ∈ cols, ∀ r, col (f r) = col r} (skipped : ∀ x ∈ t, selected x = false) :
    t.modify selected f keeps = t :=
  ext (map_unselected skipped)

/-- Modifying one row changes the rows at one place. -/
theorem modify_split {t : Table ρ cols} (col : ρ → String) (unique : col ∈ cols)
    {selected : ρ → Bool} (f : ρ → ρ) (keeps : ∀ col ∈ cols, ∀ r, col (f r) = col r) {r : ρ}
    (member : r ∈ t) (chosen : ∀ x ∈ t, selected x = true ↔ x = r) :
    ∃ before after, t.rows = before ++ r :: after ∧
      (t.modify selected f keeps).rows = before ++ f r :: after := by
  obtain ⟨before, after, split⟩ := List.append_of_mem (mem_def.mp member)
  have distinct := List.Nodup.of_map _ (t.unique col unique)
  rw [split, List.nodup_middle, List.nodup_cons] at distinct
  have others : ∀ x ∈ before ++ after, selected x = false := by
    intro x present
    have inTable : x ∈ t := by
      rw [mem_def, split]
      rcases List.mem_append.mp present with first | second
      · exact List.mem_append_left _ first
      · exact List.mem_append_right _ (List.mem_cons_of_mem _ second)
    rw [Bool.eq_false_iff]
    intro holds
    exact distinct.1 ((chosen x inTable).mp holds ▸ present)
  refine ⟨before, after, split, ?_⟩
  simp only [modify, split, List.map_append, List.map_cons, (chosen r member).mpr rfl, if_true]
  rw [map_unselected fun x present => others x (List.mem_append_left _ present),
    map_unselected fun x present => others x (List.mem_append_right _ present)]

end Table

end Actl.Foundation
