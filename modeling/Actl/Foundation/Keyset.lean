import Mathlib.Data.List.Flatten
import Mathlib.Data.List.Sort

/-!
# Pages by key

Rows with keys from a linear order are read in pages: a page holds the first rows above
a bound, and the bound of the next page is the key of its last row. Between two pages
the rows may change.

A walk ends with the page that has everything there is above its bound. Whatever
happens to the other rows meanwhile, the rows of a walk come in the strict order of
their keys (`Walk.sorted`), and a row that is there all the time is among them
(`Walk.mem_of_steady`).
-/

set_option autoImplicit false

namespace Actl.Foundation.Keyset

variable {ρ κ : Type} [LinearOrder κ] (key : ρ → κ)

/-- The rows above the bound, in the order of their keys. -/
def above (bound : Option κ) (rows : List ρ) : List ρ :=
  (rows.filter fun row => bound.all fun edge => edge < key row).insertionSort
    fun row row' => key row ≤ key row'

/-- Pages of at most `n` rows above the bound, each read from its own version of the
rows. -/
inductive Walk (n : Nat) : Option κ → List (List ρ) → List (List ρ) → Prop where
  | last {bound : Option κ} {rows : List ρ} (rest : (above key bound rows).length ≤ n) :
      Walk n bound [rows] [above key bound rows]
  | more {bound : Option κ} {rows : List ρ} {versions pages : List (List ρ)} {edge : ρ}
      (full : n < (above key bound rows).length)
      (final : ((above key bound rows).take n).getLast? = some edge)
      (walk : Walk n (some (key edge)) versions pages) :
      Walk n bound (rows :: versions) ((above key bound rows).take n :: pages)

variable {key} {n : Nat} {bound : Option κ} {rows : List ρ} {versions pages : List (List ρ)}

theorem mem_above {row : ρ} :
    row ∈ above key bound rows ↔ row ∈ rows ∧ ∀ edge ∈ bound, edge < key row := by
  rw [above, List.mem_insertionSort, List.mem_filter]
  cases bound <;> simp

/-- The rows above a bound are in strict order when no two share a key. -/
theorem sorted_above (distinct : (rows.map key).Nodup) :
    (above key bound rows).Pairwise fun row row' => key row < key row' := by
  have ordered : (above key bound rows).Pairwise fun row row' => key row ≤ key row' :=
    List.pairwise_insertionSort _ _
  have kept : ((above key bound rows).map key).Nodup :=
    (((List.filter_sublist).map key).nodup distinct).perm
      ((List.perm_insertionSort _ _).map key).symm
  rw [List.nodup_iff_pairwise_ne, List.pairwise_map] at kept
  exact ordered.imp₂ (fun _ _ below differs => lt_of_le_of_ne below differs) kept

/-- A row is among the first if few rows have smaller keys. -/
theorem mem_take_above_iff (distinct : (rows.map key).Nodup) {row : ρ} :
    row ∈ (above key none rows).take n ↔
      row ∈ rows ∧ (rows.filter fun r => key r < key row).length < n := by
  have sorted : (above key none rows).Pairwise fun row row' => key row < key row' :=
    sorted_above distinct
  have same : (above key none rows).Perm rows := by
    have all : (rows.filter fun row => (none : Option κ).all fun edge => edge < key row) = rows :=
      List.filter_eq_self.mpr fun _ _ => rfl
    rw [above, all]
    exact List.perm_insertionSort _ _
  have count : ∀ r, (rows.filter fun r' => key r' < key r).length
      = ((above key none rows).filter fun r' => key r' < key r).length := fun r =>
    ((same.filter _).length_eq).symm
  rw [count]
  generalize above key none rows = ordered at sorted same ⊢
  rw [← same.mem_iff]
  clear same count distinct
  induction ordered generalizing n with
  | nil => exact iff_of_false (by simp) (by simp)
  | cons first rest ih =>
      obtain ⟨least, sorted⟩ := List.pairwise_cons.mp sorted
      cases n with
      | zero => exact iff_of_false (by simp) (by simp)
      | succ n =>
          have shorter : row ∈ rest.take n ↔
              row ∈ rest ∧ (rest.filter fun r => key r < key row).length < n := ih sorted
          rw [List.take_succ_cons, List.mem_cons, shorter, List.mem_cons]
          constructor
          · rintro (rfl | ⟨member, few⟩)
            · refine ⟨.inl rfl, ?_⟩
              have none : ((row :: rest).filter fun r => key r < key row) = [] := by
                rw [List.filter_eq_nil_iff]
                intro r member
                rcases List.mem_cons.mp member with rfl | later
                · simp
                · simp [(least r later).le]
              rw [none]
              exact Nat.succ_pos n
            · refine ⟨.inr member, ?_⟩
              rw [List.filter_cons_of_pos (by simpa using least row member), List.length_cons]
              exact Nat.succ_lt_succ few
          · rintro ⟨rfl | member, few⟩
            · exact .inl rfl
            · rw [List.filter_cons_of_pos (by simpa using least row member), List.length_cons] at few
              exact .inr ⟨member, Nat.lt_of_succ_lt_succ few⟩

/-- What comes behind a page is above the row that it ends with. -/
theorem le_edge (distinct : (rows.map key).Nodup) {edge row : ρ}
    (final : ((above key bound rows).take n).getLast? = some edge)
    (member : row ∈ (above key bound rows).take n) : key row ≤ key edge := by
  have sorted : (above key bound rows).Pairwise fun row row' => key row < key row' :=
    sorted_above distinct
  have ordered := sorted.sublist (List.take_sublist n _)
  rw [← List.dropLast_append_getLast? edge final] at ordered member
  rcases List.mem_append.mp member with front | back
  · exact ((List.pairwise_append.mp ordered).2.2 row front edge (List.mem_singleton.mpr rfl)).le
  · rw [List.mem_singleton.mp back]

theorem edge_mem {edge : ρ} (final : ((above key bound rows).take n).getLast? = some edge) :
    edge ∈ above key bound rows :=
  List.mem_of_mem_take (List.mem_of_getLast? final)

/-- Every row of a walk is read from one of the versions. -/
theorem Walk.mem_version (walk : Walk key n bound versions pages) :
    ∀ row ∈ pages.flatten, ∃ rows ∈ versions, row ∈ rows := by
  induction walk with
  | last rest =>
      intro row member
      rw [List.flatten_singleton] at member
      exact ⟨_, List.mem_cons_self, (mem_above.mp member).1⟩
  | more full final walk ih =>
      intro row member
      rw [List.flatten_cons] at member
      rcases List.mem_append.mp member with here | later
      · exact ⟨_, List.mem_cons_self, (mem_above.mp (List.mem_of_mem_take here)).1⟩
      · obtain ⟨rows, there, present⟩ := ih row later
        exact ⟨rows, List.mem_cons_of_mem _ there, present⟩

/-- All rows of a walk are above its bound. -/
theorem Walk.above_bound (walk : Walk key n bound versions pages) :
    ∀ row ∈ pages.flatten, ∀ edge ∈ bound, edge < key row := by
  induction walk with
  | last rest =>
      intro row member
      rw [List.flatten_singleton] at member
      exact (mem_above.mp member).2
  | more full final walk ih =>
      intro row member edge' below
      rw [List.flatten_cons] at member
      rcases List.mem_append.mp member with here | later
      · exact (mem_above.mp (List.mem_of_mem_take here)).2 edge' below
      · exact ((mem_above.mp (edge_mem final)).2 edge' below).trans (ih row later _ rfl)

/-- The rows of a walk come in the strict order of their keys. -/
theorem Walk.sorted (walk : Walk key n bound versions pages)
    (distinct : ∀ rows ∈ versions, (rows.map key).Nodup) :
    pages.flatten.Pairwise fun row row' => key row < key row' := by
  induction walk with
  | last rest =>
      rw [List.flatten_singleton]
      exact sorted_above (distinct _ List.mem_cons_self)
  | more full final walk ih =>
      have here := distinct _ List.mem_cons_self
      rw [List.flatten_cons, List.pairwise_append]
      refine ⟨(sorted_above here).sublist (List.take_sublist ..),
        ih fun rows member => distinct rows (List.mem_cons_of_mem _ member), ?_⟩
      intro row member row' later
      exact (le_edge here final member).trans_lt (walk.above_bound row' later _ rfl)

/-- A row above the bound that is there all the time is on one of the pages. -/
theorem Walk.mem_of_steady (walk : Walk key n bound versions pages)
    (distinct : ∀ rows ∈ versions, (rows.map key).Nodup) {row : ρ}
    (steady : ∀ rows ∈ versions, row ∈ rows) (outside : ∀ edge ∈ bound, edge < key row) :
    row ∈ pages.flatten := by
  induction walk with
  | last rest =>
      rw [List.flatten_singleton]
      exact mem_above.mpr ⟨steady _ List.mem_cons_self, outside⟩
  | @more bound rows versions pages edge full final walk ih =>
      rw [List.flatten_cons, List.mem_append]
      have there : row ∈ above key bound rows :=
        mem_above.mpr ⟨steady _ List.mem_cons_self, outside⟩
      by_cases page : row ∈ (above key bound rows).take n
      · exact .inl page
      · refine .inr (ih (fun rows member => distinct rows (List.mem_cons_of_mem _ member))
          (fun rows member => steady rows (List.mem_cons_of_mem _ member)) ?_)
        rintro _ ⟨⟩
        have ordered : (above key bound rows).Pairwise fun row row' => key row < key row' :=
          sorted_above (distinct _ List.mem_cons_self)
        rw [← List.take_append_drop n (above key bound rows)] at ordered there
        have behind := (List.mem_append.mp there).resolve_left page
        exact (List.pairwise_append.mp ordered).2.2 edge (List.mem_of_getLast? final) row behind

end Actl.Foundation.Keyset
