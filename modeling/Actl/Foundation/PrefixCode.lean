import Mathlib.Data.List.Infix

/-!
# Self-delimiting texts

A code assigns every value a word. When no word is the beginning of another one
(`PrefixFree`), a word is cut off a text in only one way, whatever follows. Two
ways of stopping are covered here: a sequence of code words before a symbol that
starts no word, and a word without delimiters before a delimiter.
-/

set_option autoImplicit false

namespace Actl.Foundation

variable {α β : Type}

/-- No word is the beginning of another one. -/
def PrefixFree (code : α → List β) : Prop := ∀ a a', code a <+: code a' → a = a'

/-- A word of a prefix-free code is cut off in only one way. -/
theorem PrefixFree.cut {code : α → List β} (free : PrefixFree code) {a a' : α}
    {rest rest' : List β} (same : code a ++ rest = code a' ++ rest') : a = a' ∧ rest = rest' := by
  have started : code a <+: code a' ++ rest' := same ▸ List.prefix_append _ _
  have both : code a <+: code a' ∨ code a' <+: code a :=
    List.prefix_or_prefix_of_prefix started (List.prefix_append _ _)
  have equal : a = a' := by
    rcases both with first | second
    · exact free a a' first
    · exact (free a' a second).symm
  subst equal
  exact ⟨rfl, List.append_cancel_left same⟩

/-- A sequence of words is cut off before a symbol that starts no word. -/
theorem PrefixFree.cut_flatMap {code : α → List β} (free : PrefixFree code) (stop : β)
    (starts : ∀ a, ∃ first more, code a = first :: more ∧ first ≠ stop) {as as' : List α}
    {rest rest' : List β}
    (same : as.flatMap code ++ stop :: rest = as'.flatMap code ++ stop :: rest') :
    as = as' ∧ rest = rest' := by
  induction as generalizing as' with
  | nil =>
      cases as' with
      | nil => exact ⟨rfl, (List.cons.inj same).2⟩
      | cons a' as' =>
          obtain ⟨first, more, word, other⟩ := starts a'
          simp only [List.flatMap_nil, List.nil_append, List.flatMap_cons, word,
            List.cons_append] at same
          exact absurd (List.cons.inj same).1.symm other
  | cons a as ih =>
      cases as' with
      | nil =>
          obtain ⟨first, more, word, other⟩ := starts a
          simp only [List.flatMap_nil, List.nil_append, List.flatMap_cons, word,
            List.cons_append] at same
          exact absurd (List.cons.inj same).1 other
      | cons a' as' =>
          simp only [List.flatMap_cons, List.append_assoc] at same
          obtain ⟨rfl, left⟩ := free.cut same
          obtain ⟨rfl, rest⟩ := ih left
          exact ⟨rfl, rest⟩

/-- A word without delimiters is cut off before a delimiter. -/
theorem cut_delimited {delimits : β → Prop} {word word' rest rest' : List β} {c c' : β}
    (plain : ∀ b ∈ word, ¬ delimits b) (plain' : ∀ b ∈ word', ¬ delimits b) (stop : delimits c)
    (stop' : delimits c') (same : word ++ c :: rest = word' ++ c' :: rest') :
    word = word' ∧ c :: rest = c' :: rest' := by
  induction word generalizing word' with
  | nil =>
      cases word' with
      | nil => exact ⟨rfl, same⟩
      | cons b' word' =>
          have first := (List.cons.inj same).1
          exact absurd (first ▸ stop) (plain' b' List.mem_cons_self)
  | cons b word ih =>
      cases word' with
      | nil =>
          have first := (List.cons.inj same).1
          exact absurd (first ▸ stop') (plain b List.mem_cons_self)
      | cons b' word' =>
          obtain ⟨rfl, tail⟩ := List.cons.inj same
          obtain ⟨rfl, rest⟩ := ih (fun b member => plain b (List.mem_cons_of_mem _ member))
            (fun b member => plain' b (List.mem_cons_of_mem _ member)) tail
          exact ⟨rfl, rest⟩

end Actl.Foundation
