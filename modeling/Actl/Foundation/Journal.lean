import Actl.Foundation.Run

/-!
# Journals

A journal lists the calls made so far, each with the steps it has taken, the latest first.
It grows in two ways: a call starts, or one call takes a step. What was in it stays there
(`Continues`), what every step leaves behind is left behind as long as no later step takes
it back (`Recalls`), and the steps of one kind can be counted (`count`).

A log is a list that only grows at its end. It is grounded when each item has before it what
the item rests on (`Grounded`), and it stays so when every new item rests on what is there.
-/

set_option autoImplicit false

namespace Actl.Foundation

variable {κ σ : Type} {journal journal' : List (κ × List σ)} {index : Nat} {call : κ}
variable {past : List σ}

/-! ## Growing -/

/-- One journal continues another. -/
def Continues (journal journal' : List (κ × List σ)) : Prop :=
  ∀ call past, (call, past) ∈ journal → ∃ past', (call, past') ∈ journal' ∧ past <:+ past'

theorem continues_started (journal : List (κ × List σ)) (call : κ) :
    Continues journal (journal ++ [(call, [])]) :=
  fun _ past member => ⟨past, List.mem_append_left _ member, List.suffix_refl past⟩

theorem continues_stepped (found : journal[index]? = some (call, past)) (s : σ) :
    Continues journal (journal.set index (call, s :: past)) := by
  intro call' past' member
  obtain ⟨i, here⟩ := List.getElem?_of_mem member
  by_cases same : index = i
  · subst same
    rw [found] at here
    cases here
    have inside := (List.getElem?_eq_some_iff.mp found).1
    exact ⟨s :: past, List.mem_set inside _, List.suffix_cons s past⟩
  · refine ⟨past', List.mem_of_getElem? (i := i) ?_, List.suffix_refl past'⟩
    rw [List.getElem?_set_ne same]
    exact here

/-- A step of a call leaves the calls as they are. -/
theorem calls_stepped (found : journal[index]? = some (call, past)) (s : σ) :
    (journal.set index (call, s :: past)).map Prod.fst = journal.map Prod.fst := by
  refine List.ext_getElem? fun i => ?_
  rw [List.getElem?_map, List.getElem?_map]
  by_cases same : index = i
  · subst same
    rw [List.getElem?_set_self (List.getElem?_eq_some_iff.mp found).1, found]
    rfl
  · rw [List.getElem?_set_ne same]

/-! ## Recalling -/

/-- Every step of a journal has left this behind. -/
def Recalls (leaves : σ → Prop) (journal : List (κ × List σ)) : Prop :=
  ∀ entry ∈ journal, ∀ s ∈ entry.2, leaves s

variable {leaves leaves' : σ → Prop}

theorem recalls_nil (leaves : σ → Prop) : Recalls leaves ([] : List (κ × List σ)) := by
  intro entry member
  cases member

theorem Recalls.started (recalls : Recalls leaves journal) (call : κ) :
    Recalls leaves (journal ++ [(call, [])]) := by
  intro entry member s taken
  rcases List.mem_append.mp member with old | new
  · exact recalls entry old s taken
  · rw [List.mem_singleton.mp new] at taken
    cases taken

/-- What the earlier steps have left behind is kept, and the new step leaves its part. -/
theorem Recalls.stepped (recalls : Recalls leaves journal)
    (found : journal[index]? = some (call, past)) {s : σ} (kept : ∀ s, leaves s → leaves' s)
    (new : leaves' s) : Recalls leaves' (journal.set index (call, s :: past)) := by
  intro entry member s' taken
  rcases List.mem_or_eq_of_mem_set member with old | rfl
  · exact kept s' (recalls entry old s' taken)
  · rcases List.mem_cons.mp taken with rfl | earlier
    · exact new
    · exact kept s' (recalls _ (List.mem_of_getElem? found) s' earlier)

/-! ## Counting -/

/-- How many of the steps there are of a kind. -/
def count (kind : σ → Bool) (journal : List (κ × List σ)) : Nat :=
  (journal.flatMap Prod.snd).countP kind

theorem count_started (kind : σ → Bool) (journal : List (κ × List σ)) (call : κ) :
    count kind (journal ++ [(call, [])]) = count kind journal := by
  simp only [count, List.flatMap_append, List.flatMap_cons, List.flatMap_nil, List.append_nil]

/-- One more step of one call. -/
theorem count_stepped {kind : σ → Bool} (found : journal[index]? = some (call, past)) (s : σ) :
    count kind (journal.set index (call, s :: past)) =
      count kind journal + if kind s then 1 else 0 := by
  induction journal generalizing index with
  | nil => cases found
  | cons entry journal ih =>
      cases index with
      | zero =>
          cases found
          simp only [List.set_cons_zero, count, List.flatMap_cons, List.cons_append,
            List.countP_cons]
      | succ index =>
          have rest := ih (List.getElem?_cons_succ ▸ found)
          simp only [count] at rest
          simp only [List.set_cons_succ, count, List.flatMap_cons, List.countP_append, rest]
          omega

theorem count_le {kind kind' : σ → Bool}
    (fewer : ∀ entry ∈ journal, entry.2.countP kind ≤ entry.2.countP kind') :
    count kind journal ≤ count kind' journal := by
  induction journal with
  | nil => exact Nat.le_refl _
  | cons entry journal ih =>
      simp only [count, List.flatMap_cons, List.countP_append]
      exact Nat.add_le_add (fewer entry List.mem_cons_self)
        (ih fun entry' member => fewer entry' (List.mem_cons_of_mem _ member))

/-! ## Grounds -/

section Grounds

variable {α : Type} {grounds : List α → α → Prop} {items new : List α} {item : α}

/-- Each item of a log has its grounds among the items before it. -/
def Grounded (grounds : List α → α → Prop) (items : List α) : Prop :=
  ∀ earlier item later, items = earlier ++ item :: later → grounds earlier item

theorem grounded_nil (grounds : List α → α → Prop) : Grounded grounds [] := by
  intro earlier item later split
  simp at split

/-- A log stays grounded when it grows by items with grounds in it. -/
theorem Grounded.append (grounded : Grounded grounds items)
    (mono : ∀ past more item, grounds past item → grounds (past ++ more) item)
    (added : ∀ item ∈ new, grounds items item) : Grounded grounds (items ++ new) := by
  intro earlier item later split
  rcases List.append_eq_append_iff.mp split with ⟨more, rfl, rest⟩ | ⟨more, old, rest⟩
  · exact mono items more item (added item (by rw [rest]; simp))
  · cases more with
    | nil =>
        rw [List.append_nil] at old
        rw [← old]
        exact added item (by rw [← List.nil_append new, ← rest]; simp)
    | cons first more =>
        cases rest
        exact grounded earlier item more old

/-- An item has its grounds before its place. -/
theorem Grounded.of_getElem? (grounded : Grounded grounds items) {i : Nat}
    (found : items[i]? = some item) : grounds (items.take i) item := by
  obtain ⟨bound, rfl⟩ := List.getElem?_eq_some_iff.mp found
  refine grounded _ _ (items.drop (i + 1)) ?_
  rw [← List.drop_eq_getElem_cons, List.take_append_drop]

end Grounds

end Actl.Foundation
