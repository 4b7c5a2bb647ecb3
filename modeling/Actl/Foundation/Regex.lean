import Mathlib.Data.List.TakeWhile
import Mathlib.Order.Basic

/-!
# Regular expressions with backtracking

Patterns over the places of a text, with one group. A pattern is run from a place and
gives the places it can stop at, in the order in which backtracking tries them: a
repetition is greedy, and of two alternatives the first is preferred. `Matches` is what
a pattern stands for, without preferences, and the places of a run are exactly those
(`mem_run`).

A pattern that takes at least one character is looked for in the whole text, and again
from where its last match stopped (`finditer`). There is a last match exactly if the
pattern matches anywhere, and nothing matches behind it (`lastMatch_spec`).
-/

set_option autoImplicit false

namespace Actl.Foundation

inductive Regex where
  | empty
  | one (accepts : Char → Bool)
  | many (accepts : Char → Bool)
  | seq (first second : Regex)
  | alt (preferred other : Regex)
  | group (inner : Regex)
  | boundary

/-- Where a pattern has come to, and what its group has taken. -/
structure Place where
  stop : Nat
  group : Option (Nat × Nat)
  deriving DecidableEq

def Place.advance (p : Place) (n : Nat) : Place := { p with stop := p.stop + n }

namespace Regex

/-- `r?`. -/
def opt (r : Regex) : Regex := alt r empty

/-- `[...]+`. -/
def plus (accepts : Char → Bool) : Regex := seq (one accepts) (many accepts)

/-- Patterns one after the other. -/
def all : List Regex → Regex
  | [] => empty
  | [r] => r
  | r :: rs => seq r (all rs)

/-- The first of these that matches. -/
def oneOf : List Regex → Regex
  | [] => one fun _ => false
  | [r] => r
  | r :: rs => alt r (oneOf rs)

/-- How many characters a match has at least. -/
def minWidth : Regex → Nat
  | empty | many _ | boundary => 0
  | one _ => 1
  | seq r r' => r.minWidth + r'.minWidth
  | alt r r' => min r.minWidth r'.minWidth
  | group r => r.minWidth

/-- A pattern without a group. -/
def groupFree : Regex → Bool
  | empty | one _ | many _ | boundary => true
  | seq r r' | alt r r' => r.groupFree && r'.groupFree
  | group _ => false

/-- What the group takes, between what stands before it and what stands behind. -/
def captures (before inner behind : Regex) : Regex := seq before (seq (group inner) behind)

section Text

variable (isWord : Char → Bool) (text : List Char)

/-- One of the characters around the place belongs to a word, the other does not. -/
def atBoundary (i : Nat) : Bool :=
  (decide (0 < i) && (text[i - 1]?).any isWord) != (text[i]?).any isWord

/-- The places a pattern can stop at, the preferred one first. -/
def run : Regex → Place → List Place
  | empty, p => [p]
  | one accepts, p => if (text[p.stop]?).any accepts then [p.advance 1] else []
  | many accepts, p =>
      (List.range (((text.drop p.stop).takeWhile accepts).length + 1)).reverse.map p.advance
  | seq r r', p => (run r p).flatMap fun m => run r' m
  | alt r r', p => run r p ++ run r' p
  | group r, p => (run r p).map fun m => ⟨m.stop, some (p.stop, m.stop)⟩
  | boundary, p => if atBoundary isWord text p.stop then [p] else []

/-- What a pattern stands for. -/
def Matches : Regex → Place → Place → Prop
  | empty, p, q => q = p
  | one accepts, p, q => (∃ c, text[p.stop]? = some c ∧ accepts c = true) ∧ q = p.advance 1
  | many accepts, p, q =>
      ∃ n, (∀ i < n, ∃ c, text[p.stop + i]? = some c ∧ accepts c = true) ∧ q = p.advance n
  | seq r r', p, q => ∃ m, Matches r p m ∧ Matches r' m q
  | alt r r', p, q => Matches r p q ∨ Matches r' p q
  | group r, p, q => ∃ m, Matches r p m ∧ q = ⟨m.stop, some (p.stop, m.stop)⟩
  | boundary, p, q => atBoundary isWord text p.stop = true ∧ q = p

variable {isWord text}

theorem le_takeWhile_length {α : Type} {accepts : α → Bool} {l : List α} {n : Nat} :
    n ≤ (l.takeWhile accepts).length ↔ ∀ i < n, ∃ c, l[i]? = some c ∧ accepts c = true := by
  induction l generalizing n with
  | nil =>
      simp only [List.takeWhile_nil, List.length_nil, Nat.le_zero, List.getElem?_nil,
        reduceCtorEq, false_and, exists_false]
      exact ⟨fun none i below => by omega, fun none => by
        by_contra positive
        exact none 0 (Nat.pos_of_ne_zero positive)⟩
  | cons c l ih =>
      cases n with
      | zero => simp
      | succ n =>
          by_cases here : accepts c = true
          · rw [List.takeWhile_cons_of_pos here, List.length_cons, Nat.add_le_add_iff_right, ih]
            constructor
            · intro rest i below
              cases i with
              | zero => exact ⟨c, rfl, here⟩
              | succ i => exact rest i (by omega)
            · intro whole i below
              exact whole (i + 1) (by omega)
          · rw [List.takeWhile_cons_of_neg here]
            refine iff_of_false (by simp) fun whole => ?_
            obtain ⟨c', same, accepted⟩ := whole 0 (by omega)
            cases same
            exact here accepted

/-- Backtracking finds what the pattern stands for, and all of it. -/
theorem mem_run {r : Regex} {p q : Place} :
    q ∈ run isWord text r p ↔ Matches isWord text r p q := by
  induction r generalizing p q with
  | empty => simp [run, Matches]
  | one accepts =>
      rw [run, Matches, ← Option.any_eq_true]
      split
      next here => simp [here]
      next here => simp [here]
  | many accepts =>
      rw [run, Matches, List.mem_map]
      refine exists_congr fun n => ?_
      rw [List.mem_reverse, List.mem_range, Nat.lt_succ_iff, le_takeWhile_length]
      simp only [List.getElem?_drop]
      exact and_congr_right fun _ => eq_comm
  | seq r r' ih ih' => simp only [run, Matches, List.mem_flatMap, ih, ih']
  | alt r r' ih ih' => simp only [run, Matches, List.mem_append, ih, ih']
  | group r ih =>
      simp only [run, Matches, List.mem_map, ih]
      exact exists_congr fun m => and_congr_right fun _ => eq_comm
  | boundary =>
      rw [run, Matches]
      split
      next here => simp [here]
      next here => simp [here]

/-- A match has the width it must have and lies in the text. -/
theorem Matches.width {r : Regex} {p q : Place} (found : Matches isWord text r p q) :
    p.stop + r.minWidth ≤ q.stop ∧ (q.stop = p.stop ∨ q.stop ≤ text.length) := by
  induction r generalizing p q with
  | empty =>
      cases found
      exact ⟨Nat.le_refl _, .inl rfl⟩
  | one accepts =>
      obtain ⟨⟨c, here, -⟩, rfl⟩ := found
      obtain ⟨inside, -⟩ := List.getElem?_eq_some_iff.mp here
      exact ⟨Nat.le_refl _, .inr inside⟩
  | many accepts =>
      obtain ⟨n, each, rfl⟩ := found
      refine ⟨Nat.le_add_right _ _, ?_⟩
      cases n with
      | zero => exact .inl rfl
      | succ n =>
          obtain ⟨c, here, -⟩ := each n (Nat.lt_succ_self n)
          obtain ⟨inside, -⟩ := List.getElem?_eq_some_iff.mp here
          exact .inr inside
  | seq r r' ih ih' =>
      obtain ⟨m, first, second⟩ := found
      have one := ih first
      have two := ih' second
      simp only [minWidth]
      omega
  | alt r r' ih ih' =>
      simp only [minWidth]
      rcases found with first | second
      · have one := ih first
        omega
      · have two := ih' second
        omega
  | group r ih =>
      obtain ⟨m, inner, rfl⟩ := found
      have one := ih inner
      exact one
  | boundary =>
      obtain ⟨-, rfl⟩ := found
      exact ⟨Nat.le_refl _, .inl rfl⟩

theorem Matches.group_eq {r : Regex} {p q : Place} (free : r.groupFree = true)
    (found : Matches isWord text r p q) : q.group = p.group := by
  induction r generalizing p q with
  | empty =>
      cases found
      rfl
  | one accepts =>
      obtain ⟨-, rfl⟩ := found
      rfl
  | many accepts =>
      obtain ⟨n, -, rfl⟩ := found
      rfl
  | seq r r' ih ih' =>
      obtain ⟨left, right⟩ := Bool.and_eq_true_iff.mp free
      obtain ⟨m, first, second⟩ := found
      exact (ih' right second).trans (ih left first)
  | alt r r' ih ih' =>
      obtain ⟨left, right⟩ := Bool.and_eq_true_iff.mp free
      rcases found with first | second
      · exact ih left first
      · exact ih' right second
  | group r => cases free
  | boundary =>
      obtain ⟨-, rfl⟩ := found
      rfl

/-- Without a group it makes no difference what has been taken before. -/
theorem Matches.with_group {r : Regex} {p q : Place} (free : r.groupFree = true)
    (found : Matches isWord text r p q) (taken : Option (Nat × Nat)) :
    Matches isWord text r ⟨p.stop, taken⟩ ⟨q.stop, taken⟩ := by
  induction r generalizing p q with
  | empty =>
      cases found
      rfl
  | one accepts =>
      obtain ⟨here, rfl⟩ := found
      exact ⟨here, rfl⟩
  | many accepts =>
      obtain ⟨n, each, rfl⟩ := found
      exact ⟨n, each, rfl⟩
  | seq r r' ih ih' =>
      obtain ⟨left, right⟩ := Bool.and_eq_true_iff.mp free
      obtain ⟨m, first, second⟩ := found
      exact ⟨⟨m.stop, taken⟩, ih left first, ih' right second⟩
  | alt r r' ih ih' =>
      obtain ⟨left, right⟩ := Bool.and_eq_true_iff.mp free
      rcases found with first | second
      · exact .inl (ih left first)
      · exact .inr (ih' right second)
  | group r => cases free
  | boundary =>
      obtain ⟨here, rfl⟩ := found
      exact ⟨here, rfl⟩

/-- The group is what its pattern matches, in the order in which the parts stand. -/
theorem Matches.captured {before inner behind : Regex} {p q : Place}
    (free : behind.groupFree = true)
    (found : Matches isWord text (captures before inner behind) p q) :
    ∃ m n, Matches isWord text inner m n ∧ q.group = some (m.stop, n.stop) ∧
      p.stop ≤ m.stop ∧ m.stop + inner.minWidth ≤ n.stop ∧ n.stop ≤ q.stop := by
  obtain ⟨m, first, _, ⟨n, second, rfl⟩, third⟩ := found
  have one := first.width.1
  have two := second.width.1
  have three := third.width.1
  dsimp only at three
  exact ⟨m, n, second, third.group_eq free, by omega, two, by omega⟩

/-- `text[start:stop]`. -/
def slice (text : List Char) (start stop : Nat) : List Char := (text.drop start).take (stop - start)

/-- Every character a match takes is one that its pattern accepts somewhere. -/
def accepts : Regex → Char → Bool
  | empty, _ | boundary, _ => false
  | one f, c | many f, c => f c
  | seq r r', c | alt r r', c => r.accepts c || r'.accepts c
  | group r, c => r.accepts c

theorem Matches.accepts_of_mem {r : Regex} {p q : Place} (found : Matches isWord text r p q) :
    ∀ i, p.stop ≤ i → i < q.stop → ∃ c, text[i]? = some c ∧ r.accepts c = true := by
  induction r generalizing p q with
  | empty =>
      cases found
      omega
  | one f =>
      obtain ⟨⟨c, here, accepted⟩, rfl⟩ := found
      intro i low high
      have same : i = p.stop := by
        simp only [Place.advance] at high
        omega
      exact ⟨c, same ▸ here, accepted⟩
  | many f =>
      obtain ⟨n, each, rfl⟩ := found
      intro i low high
      simp only [Place.advance] at high
      obtain ⟨c, here, accepted⟩ := each (i - p.stop) (by omega)
      rw [Nat.add_sub_cancel' low] at here
      exact ⟨c, here, accepted⟩
  | seq r r' ih ih' =>
      obtain ⟨m, first, second⟩ := found
      intro i low high
      by_cases early : i < m.stop
      · obtain ⟨c, here, accepted⟩ := ih first i low early
        exact ⟨c, here, by rw [accepts, accepted, Bool.true_or]⟩
      · obtain ⟨c, here, accepted⟩ := ih' second i (Nat.le_of_not_lt early) high
        exact ⟨c, here, by rw [accepts, accepted, Bool.or_true]⟩
  | alt r r' ih ih' =>
      intro i low high
      rcases found with first | second
      · obtain ⟨c, here, accepted⟩ := ih first i low high
        exact ⟨c, here, by rw [accepts, accepted, Bool.true_or]⟩
      · obtain ⟨c, here, accepted⟩ := ih' second i low high
        exact ⟨c, here, by rw [accepts, accepted, Bool.or_true]⟩
  | group r ih =>
      obtain ⟨m, inner, rfl⟩ := found
      exact fun i low high => ih inner i low high
  | boundary =>
      obtain ⟨-, rfl⟩ := found
      omega

theorem Matches.accepts_slice {r : Regex} {p q : Place} (found : Matches isWord text r p q) :
    ∀ c ∈ slice text p.stop q.stop, r.accepts c = true := by
  intro c member
  obtain ⟨i, here⟩ := List.mem_iff_getElem?.mp member
  rw [slice, List.getElem?_take] at here
  split at here
  next below =>
    rw [List.getElem?_drop] at here
    obtain ⟨c', same, accepted⟩ := found.accepts_of_mem (p.stop + i) (by omega) (by omega)
    rw [here] at same
    cases same
    exact accepted
  next => cases here

theorem length_slice {text : List Char} {start stop : Nat} (inside : stop ≤ text.length) :
    (slice text start stop).length = stop - start := by
  rw [slice, List.length_take, List.length_drop]
  omega

end Text

end Regex

/-! ## Searching -/

/-- A match: where it begins and stops, and what the group has taken. -/
structure RegexMatch where
  start : Nat
  stop : Nat
  group : Option (Nat × Nat)
  deriving DecidableEq

/-- A pattern that takes at least one character. -/
structure Pattern where
  regex : Regex
  consumes : 0 < regex.minWidth

namespace Pattern

section Text

variable (isWord : Char → Bool) (text : List Char)

/-- A match of the pattern. -/
def IsMatch (pattern : Pattern) (m : RegexMatch) : Prop :=
  Regex.Matches isWord text pattern.regex ⟨m.start, none⟩ ⟨m.stop, m.group⟩

def matchAt (pattern : Pattern) (i : Nat) : Option RegexMatch :=
  (Regex.run isWord text pattern.regex ⟨i, none⟩).head?.map fun q => ⟨i, q.stop, q.group⟩

/-- The leftmost match from a place on. -/
def searchFrom (pattern : Pattern) (i : Nat) : Option RegexMatch :=
  (List.range' i (text.length - i)).findSome? (matchAt isWord text pattern)

/-- The matches from a place on, each from where the one before it stopped. -/
def finditerFrom (pattern : Pattern) : Nat → Nat → List RegexMatch
  | 0, _ => []
  | fuel + 1, i =>
      match searchFrom isWord text pattern i with
      | none => []
      | some m => m :: finditerFrom pattern fuel m.stop

/-- The matches in the text. There are at most as many as characters. -/
def finditer (pattern : Pattern) : List RegexMatch :=
  finditerFrom isWord text pattern (text.length + 1) 0

def lastMatch (pattern : Pattern) : Option RegexMatch := (finditer isWord text pattern).getLast?

variable {isWord text} {pattern : Pattern}

/-- A match takes characters of the text. -/
theorem IsMatch.inside {m : RegexMatch} (found : IsMatch isWord text pattern m) :
    m.start < m.stop ∧ m.stop ≤ text.length := by
  obtain ⟨wide, within⟩ := Regex.Matches.width found
  have positive := pattern.consumes
  dsimp only at wide within
  omega

/-- What the group of a match has taken is matched by the pattern in the group. -/
theorem IsMatch.captured {before inner behind : Regex} {m : RegexMatch}
    (found : IsMatch isWord text pattern m)
    (shape : pattern.regex = Regex.captures before inner behind)
    (free : inner.groupFree = true ∧ behind.groupFree = true) :
    ∃ start stop, m.group = some (start, stop) ∧
      Regex.Matches isWord text inner ⟨start, none⟩ ⟨stop, none⟩ ∧
      m.start ≤ start ∧ start + inner.minWidth ≤ stop ∧ stop ≤ m.stop := by
  rw [IsMatch, shape] at found
  obtain ⟨p, q, taken, group, low, wide, high⟩ := Regex.Matches.captured free.2 found
  exact ⟨p.stop, q.stop, group, taken.with_group free.1 none, low, wide, high⟩

theorem matchAt_eq_none {i : Nat} :
    matchAt isWord text pattern i = none ↔ ∀ m, IsMatch isWord text pattern m → m.start ≠ i := by
  rw [matchAt, Option.map_eq_none_iff, List.head?_eq_none_iff, List.eq_nil_iff_forall_not_mem]
  constructor
  · rintro none ⟨_, stop, group⟩ found rfl
    exact none ⟨stop, group⟩ (Regex.mem_run.mpr found)
  · intro none q member
    exact none ⟨i, q.stop, q.group⟩ (Regex.mem_run.mp member) rfl

theorem matchAt_eq_some {i : Nat} {m : RegexMatch}
    (found : matchAt isWord text pattern i = some m) :
    m.start = i ∧ IsMatch isWord text pattern m := by
  obtain ⟨q, first, rfl⟩ := Option.map_eq_some_iff.mp found
  exact ⟨rfl, Regex.mem_run.mp (List.mem_of_mem_head? first)⟩

theorem searchFrom_eq_none {i : Nat} :
    searchFrom isWord text pattern i = none ↔
      ∀ m, IsMatch isWord text pattern m → m.start < i := by
  rw [searchFrom, List.findSome?_eq_none_iff]
  simp only [List.mem_range'_1, matchAt_eq_none]
  constructor
  · intro none m found
    have inside := found.inside
    by_contra later
    exact none m.start (by omega) m found rfl
  · intro none j place m found same
    have earlier := none m found
    omega

theorem searchFrom_eq_some {i : Nat} {m : RegexMatch}
    (found : searchFrom isWord text pattern i = some m) :
    i ≤ m.start ∧ IsMatch isWord text pattern m := by
  obtain ⟨before, j, after, split, here, -⟩ := List.findSome?_eq_some_iff.mp found
  obtain ⟨same, matched⟩ := matchAt_eq_some here
  have member : j ∈ List.range' i (text.length - i) := split ▸ by simp
  rw [List.mem_range'_1] at member
  exact ⟨by omega, matched⟩

/-- What the last of the matches from a place on says. -/
theorem finditerFrom_getLast? {fuel i : Nat} (enough : text.length < fuel + i) :
    (finditerFrom isWord text pattern fuel i = [] ∧
        ∀ m, IsMatch isWord text pattern m → m.start < i) ∨
      ∃ m, (finditerFrom isWord text pattern fuel i).getLast? = some m ∧
        IsMatch isWord text pattern m ∧
        ∀ m', IsMatch isWord text pattern m' → m'.start < m.stop := by
  induction fuel generalizing i with
  | zero =>
      refine .inl ⟨rfl, fun m found => ?_⟩
      have inside := found.inside
      omega
  | succ fuel ih =>
      rw [finditerFrom]
      cases searched : searchFrom isWord text pattern i with
      | none => exact .inl ⟨rfl, searchFrom_eq_none.mp searched⟩
      | some m =>
          obtain ⟨later, found⟩ := searchFrom_eq_some searched
          have inside := found.inside
          right
          rcases ih (i := m.stop) (by omega) with ⟨none, behind⟩ | ⟨last, rest, matched, behind⟩
          · exact ⟨m, by simp [none], found, behind⟩
          · refine ⟨last, ?_, matched, behind⟩
            rw [List.getLast?_cons, rest]
            rfl

/-- There is a last match exactly if there is a match, and behind it there is none. -/
theorem lastMatch_spec (isWord : Char → Bool) (text : List Char) (pattern : Pattern) :
    (lastMatch isWord text pattern = none ∧ ∀ m, ¬ IsMatch isWord text pattern m) ∨
      ∃ m, lastMatch isWord text pattern = some m ∧ IsMatch isWord text pattern m ∧
        ∀ m', IsMatch isWord text pattern m' → m'.start < m.stop := by
  have enough : text.length < text.length + 1 + 0 := by omega
  have cases : (finditerFrom isWord text pattern (text.length + 1) 0 = [] ∧ _) ∨ _ :=
    finditerFrom_getLast? enough
  rcases cases with ⟨none, nowhere⟩ | some
  · refine .inl ⟨by rw [lastMatch, finditer, none]; rfl, fun m found => ?_⟩
    exact absurd (nowhere m found) (Nat.not_lt_zero _)
  · exact .inr some

theorem lastMatch_isMatch {m : RegexMatch} (last : lastMatch isWord text pattern = some m) :
    IsMatch isWord text pattern m := by
  rcases lastMatch_spec isWord text pattern with ⟨none, -⟩ | ⟨m', some, found, -⟩
  · rw [none] at last
    cases last
  · rw [some] at last
    cases last
    exact found

end Text

end Pattern

end Actl.Foundation
