import Mathlib.Algebra.Group.Nat.Defs
import Mathlib.Data.List.Basic
import Mathlib.Data.Nat.Log
import Mathlib.Logic.Function.Iterate

/-!
# Merkle trees

A list is folded to one value with a binary operation in two ways: level by level,
where a lone trailing value moves up unchanged (`climb`), and from the top, where the
list is split at the largest power of two below its length (`treeHead`). The two agree
(`climb_eq_treeHead`), and the loop of the first ends (`climb_rounds`). In the free
operation, where the result is the tree itself, nothing of the list is lost
(`Tree.leaves_treeHead`).
-/

set_option autoImplicit false

namespace Actl.Foundation.Merkle

variable {α β : Type}

/-! ## Level by level -/

/-- One level from the level below. -/
def pairUp (node : α → α → α) : List α → List α
  | [] => []
  | [last] => [last]
  | left :: right :: rest => node left right :: pairUp node rest

section Levels

variable {node : α → α → α}

theorem length_pairUp (level : List α) : (pairUp node level).length = (level.length + 1) / 2 := by
  induction level using pairUp.induct with
  | case1 => simp [pairUp]
  | case2 last => simp [pairUp]
  | case3 left right rest ih =>
      simp only [pairUp, List.length_cons, ih]
      omega

/-- A first part of even length is paired up by itself. -/
theorem pairUp_append {first second : List α} (even : first.length % 2 = 0) :
    pairUp node (first ++ second) = pairUp node first ++ pairUp node second := by
  induction first using pairUp.induct with
  | case1 => rfl
  | case2 last => cases even
  | case3 left right rest ih =>
      rw [List.length_cons, List.length_cons] at even
      simp only [List.cons_append, pairUp, ih (by omega)]

/-- Pairing up commutes with what respects the operation. -/
theorem map_pairUp {node' : β → β → β} (g : α → β)
    (respects : ∀ left right, g (node left right) = node' (g left) (g right)) (level : List α) :
    (pairUp node level).map g = pairUp node' (level.map g) := by
  induction level using pairUp.induct with
  | case1 => rfl
  | case2 last => rfl
  | case3 left right rest ih => simp only [pairUp, List.map_cons, ih, respects]

end Levels

/-! ## From the top -/

/-- The largest power of two below `n`, for `n` at least two. -/
def splitPoint (n : Nat) : Nat := 2 ^ Nat.log 2 (n - 1)

section SplitPoint

variable {n : Nat}

theorem splitPoint_pos : 0 < splitPoint n := Nat.two_pow_pos _

theorem splitPoint_lt (long : 1 < n) : splitPoint n < n := by
  have below := Nat.pow_log_le_self 2 (show n - 1 ≠ 0 by omega)
  rw [splitPoint]
  omega

theorem le_two_mul_splitPoint : n ≤ 2 * splitPoint n := by
  have above := Nat.lt_pow_succ_log_self (Nat.one_lt_two) (n - 1)
  rw [Nat.pow_succ] at above
  rw [splitPoint]
  omega

/-- The split point is the only power of two in its place. -/
theorem splitPoint_eq {k : Nat} (below : 2 ^ k < n) (above : n ≤ 2 * 2 ^ k) :
    splitPoint n = 2 ^ k := by
  rw [splitPoint, Nat.log_eq_of_pow_le_of_lt_pow (m := k) (by omega)
    (by rw [Nat.pow_succ]; omega)]

/-- One level up the split point is half as large. -/
theorem splitPoint_half (long : 2 < n) : splitPoint n = 2 * splitPoint ((n + 1) / 2) := by
  obtain ⟨k, half⟩ : ∃ k, splitPoint ((n + 1) / 2) = 2 ^ k := ⟨_, rfl⟩
  have below := splitPoint_lt (n := (n + 1) / 2) (by omega)
  have above := le_two_mul_splitPoint (n := (n + 1) / 2)
  rw [half] at below above ⊢
  rw [Nat.mul_comm, ← Nat.pow_succ]
  exact splitPoint_eq (by rw [Nat.pow_succ]; omega) (by rw [Nat.pow_succ]; omega)

end SplitPoint

/-- The items folded from the top. -/
def treeHead (empty : α) (leaf : β → α) (node : α → α → α) (items : List β) : α :=
  match items with
  | [] => empty
  | [item] => leaf item
  | first :: second :: rest =>
      let whole := first :: second :: rest
      node (treeHead empty leaf node (whole.take (splitPoint whole.length)))
        (treeHead empty leaf node (whole.drop (splitPoint whole.length)))
termination_by items.length
decreasing_by
  · have below := splitPoint_lt (n := (first :: second :: rest).length) (by simp)
    simp only [List.length_take]
    omega
  · have above := splitPoint_pos (n := (first :: second :: rest).length)
    simp only [List.length_drop, List.length_cons] at above ⊢
    omega

section TreeHead

variable {empty : α} {leaf : β → α} {node : α → α → α}

theorem treeHead_singleton (item : β) : treeHead empty leaf node [item] = leaf item := by
  rw [treeHead]

theorem treeHead_of_long {items : List β} (long : 1 < items.length) :
    treeHead empty leaf node items
      = node (treeHead empty leaf node (items.take (splitPoint items.length)))
          (treeHead empty leaf node (items.drop (splitPoint items.length))) := by
  match items, long with
  | first :: second :: rest, _ => rw [treeHead]

/-- Lists are shorter on both sides of the split. -/
theorem length_sides {items : List β} (long : 1 < items.length) :
    0 < (items.take (splitPoint items.length)).length ∧
      (items.take (splitPoint items.length)).length < items.length ∧
      0 < (items.drop (splitPoint items.length)).length ∧
      (items.drop (splitPoint items.length)).length < items.length := by
  have below := splitPoint_lt long
  have above := splitPoint_pos (n := items.length)
  simp only [List.length_take, List.length_drop]
  omega

/-- The induction over the splits of a list that is not empty. -/
@[elab_as_elim]
theorem splitInduction {motive : List β → Prop} (single : ∀ item, motive [item])
    (split : ∀ items, 1 < items.length → motive (items.take (splitPoint items.length)) →
      motive (items.drop (splitPoint items.length)) → motive items)
    (items : List β) (nonempty : 0 < items.length) : motive items := by
  induction length : items.length using Nat.strong_induction_on generalizing items with
  | _ n ih =>
      subst length
      by_cases long : 1 < items.length
      · obtain ⟨some₁, less₁, some₂, less₂⟩ := length_sides long
        exact split items long (ih _ less₁ _ some₁ rfl) (ih _ less₂ _ some₂ rfl)
      · match items, nonempty, long with
        | [item], _, _ => exact single item
        | _ :: _ :: _, _, long => exact absurd (by simp) long

/-- The leaves can be made first. -/
theorem treeHead_map {items : List β} (nonempty : 0 < items.length) :
    treeHead empty id node (items.map leaf) = treeHead empty leaf node items := by
  refine splitInduction (fun item => ?_) (fun items long left right => ?_) items nonempty
  · rw [List.map_singleton, treeHead_singleton, treeHead_singleton, id]
  · have long' : 1 < (items.map leaf).length := by rw [List.length_map]; exact long
    rw [treeHead_of_long long', treeHead_of_long long, List.length_map, ← List.map_take,
      ← List.map_drop, left, right]

/-- What is read off the leaves and respects the operation is read off the head. -/
theorem map_treeHead {γ : Type} {empty' : γ} {node' : γ → γ → γ} (g : α → γ)
    (respects : ∀ left right, g (node left right) = node' (g left) (g right)) {items : List β}
    (nonempty : 0 < items.length) :
    g (treeHead empty leaf node items) = treeHead empty' (g ∘ leaf) node' items := by
  refine splitInduction (fun item => ?_) (fun items long left right => ?_) items nonempty
  · rw [treeHead_singleton, treeHead_singleton, Function.comp_apply]
  · rw [treeHead_of_long long, treeHead_of_long long, respects, left, right]

/-- The head of a list is the head of the next level: a split at an even place goes over
to a split at half the place. -/
theorem treeHead_pairUp {level : List α} (nonempty : 0 < level.length) :
    treeHead empty id node (pairUp node level) = treeHead empty id node level := by
  refine splitInduction (fun item => rfl) (fun level long left right => ?_) level nonempty
  rcases Nat.lt_or_eq_of_le (show 2 ≤ level.length from long) with longer | short
  · have half := splitPoint_half longer
    have below := splitPoint_lt long
    have sides : pairUp node level = pairUp node (level.take (splitPoint level.length))
        ++ pairUp node (level.drop (splitPoint level.length)) := by
      rw [← pairUp_append (by rw [List.length_take]; omega), List.take_append_drop]
    have size : (pairUp node (level.take (splitPoint level.length))).length
        = splitPoint (pairUp node level).length := by
      rw [length_pairUp, length_pairUp, List.length_take]
      omega
    rw [treeHead_of_long (by rw [length_pairUp]; omega), treeHead_of_long long, ← left, ← right,
      ← size, sides, List.take_left', List.drop_left']
    · rfl
    · rfl
  · match level, short with
    | [first, second], _ =>
        have middle : splitPoint [first, second].length = 2 ^ 0 :=
          splitPoint_eq (Nat.lt_succ_self 1) (Nat.le_refl 2)
        rw [treeHead_of_long long, middle]
        simp only [Nat.pow_zero, List.take_succ_cons, List.take_zero, List.drop_succ_cons,
          List.drop_zero, pairUp, treeHead_singleton, id]

end TreeHead

/-! ## The two agree -/

/-- The loop over the levels. -/
def climb (node : α → α → α) (level : List α) : List α :=
  if 1 < level.length then climb node (pairUp node level) else level
termination_by level.length
decreasing_by rw [length_pairUp]; omega

section Climb

variable {leaf : β → α} {node : α → α → α}

theorem climb_of_long {level : List α} (long : 1 < level.length) :
    climb node level = climb node (pairUp node level) := by
  rw [climb, if_pos long]

theorem climb_of_short {level : List α} (short : ¬ 1 < level.length) : climb node level = level := by
  rw [climb, if_neg short]

theorem climb_level (empty : α) {level : List α} (nonempty : 0 < level.length) :
    climb node level = [treeHead empty id node level] := by
  induction level using climb.induct node with
  | case1 level long ih =>
      rw [climb_of_long long, ih (by rw [length_pairUp]; omega), treeHead_pairUp nonempty]
  | case2 level short =>
      match level, nonempty, short with
      | [item], _, short => rw [climb_of_short short, treeHead_singleton, id]
      | _ :: _ :: _, _, short => exact absurd (by simp) short

/-- Level by level and from the top a list has the same head. -/
theorem climb_eq_treeHead (empty : α) {items : List β} (nonempty : 0 < items.length) :
    climb node (items.map leaf) = [treeHead empty leaf node items] := by
  rw [climb_level empty (by rw [List.length_map]; exact nonempty), treeHead_map nonempty]

/-- The loop ends: after finitely many levels, each of more than one value up to then, it
has arrived. -/
theorem climb_rounds (level : List α) :
    ∃ rounds, (pairUp node)^[rounds] level = climb node level ∧
      ∀ earlier < rounds, 1 < ((pairUp node)^[earlier] level).length := by
  induction level using climb.induct node with
  | case1 level long ih =>
      obtain ⟨rounds, arrived, before⟩ := ih
      refine ⟨rounds + 1, ?_, fun earlier less => ?_⟩
      · rw [Function.iterate_succ_apply, arrived, climb_of_long long]
      · cases earlier with
        | zero => exact long
        | succ earlier =>
            rw [Function.iterate_succ_apply]
            exact before earlier (Nat.lt_of_succ_lt_succ less)
  | case2 level short => exact ⟨0, (climb_of_short short).symm, fun _ less => nomatch less⟩

end Climb

/-! ## Trees -/

inductive Tree (β : Type) where
  | leaf (item : β)
  | node (left right : Tree β)

namespace Tree

def leaves : Tree β → List β
  | .leaf item => [item]
  | .node left right => left.leaves ++ right.leaves

/-- The head of a tree. -/
def fold (leaf : β → α) (node : α → α → α) : Tree β → α
  | .leaf item => leaf item
  | .node left right => node (left.fold leaf node) (right.fold leaf node)

/-- The tree of a list that begins with `item`. -/
def ofList (item : β) (rest : List β) : Tree β := treeHead (.leaf item) .leaf .node (item :: rest)

theorem leaves_ofList (item : β) (rest : List β) : (ofList item rest).leaves = item :: rest := by
  have collect : ∀ items : List β, 0 < items.length →
      treeHead [] (fun item => [item]) (fun left right => left ++ right) items = items := by
    intro items nonempty
    refine splitInduction (fun item => treeHead_singleton item)
      (fun items long left right => ?_) items nonempty
    rw [treeHead_of_long long, left, right, List.take_append_drop]
  have nonempty : 0 < (item :: rest).length := Nat.succ_pos _
  exact (map_treeHead Tree.leaves (fun _ _ => rfl) nonempty).trans (collect _ nonempty)

theorem fold_ofList {leaf : β → α} {node : α → α → α} (empty : α) (item : β) (rest : List β) :
    (ofList item rest).fold leaf node = treeHead empty leaf node (item :: rest) :=
  have nonempty : 0 < (item :: rest).length := Nat.succ_pos _
  map_treeHead (fold leaf node) (fun _ _ => rfl) nonempty

end Tree

end Actl.Foundation.Merkle
