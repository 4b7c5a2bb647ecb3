import Mathlib.Algebra.Order.BigOperators.Group.List
import Mathlib.Algebra.Ring.Int.Defs
import Mathlib.Algebra.Order.Ring.Int
import Mathlib.Algebra.BigOperators.Group.List.Lemmas
import Mathlib.Data.List.Perm.Basic
import Mathlib.Data.List.Perm.Subperm
import Actl.Ledger.Service

/-!
# The book of holds

What the ledger is for, said without entries: a book of holds, at most one per
reference, each for a positive amount under one mandate and in one phase. A hold
is opened held; it is then captured, released or expired, and a captured hold
can be reversed.

The entries of the store are the book's postings in some order (`Keeps`): a hold
contributes the movements of the legs its phase has gone through. Under this
relation the balances are sums over holds, the state of a reservation is the
phase of its hold, and each operation of the ledger service is the operation of
the book.
-/

set_option autoImplicit false

namespace Actl.Ledger

open Foundation (Table)

/-! ## Phases and legs -/

inductive Phase where
  | held
  | captured
  | released
  | expired
  | reversed
  deriving DecidableEq, Repr

/-- One movement of a hold: its reference type and the buckets it goes between. -/
structure Leg where
  refType : RefType
  source : Bucket
  target : Bucket

namespace Phase

/-- The state `stateOf` reads off the entries of a hold in this phase. -/
def state : Phase → ReservationState
  | .held => .held
  | .captured | .reversed => .captured
  | .released => .released
  | .expired => .expired

/-- The movements a hold in this phase has gone through. -/
def legs : Phase → List Leg
  | .held => [⟨.reservation, .available, .reserved⟩]
  | .captured => [⟨.reservation, .available, .reserved⟩, ⟨.capture, .reserved, .settled⟩]
  | .released => [⟨.reservation, .available, .reserved⟩, ⟨.release, .reserved, .available⟩]
  | .expired => [⟨.reservation, .available, .reserved⟩, ⟨.expire, .reserved, .available⟩]
  | .reversed => [⟨.reservation, .available, .reserved⟩, ⟨.capture, .reserved, .settled⟩,
      ⟨.reverse, .settled, .available⟩]

/-- A hold that still counts against its mandate's cap. -/
def isLive : Phase → Bool
  | .held | .captured => true
  | _ => false

/-- How many times the amount of a hold in this phase stands in a bucket. -/
def weight (phase : Phase) (bucket : Bucket) : Int :=
  (phase.legs.map fun leg =>
    (if leg.target = bucket then 1 else 0) - (if leg.source = bucket then 1 else 0)).sum

theorem weight_reserved (phase : Phase) :
    phase.weight .reserved = if phase = .held then 1 else 0 := by
  cases phase <;> rfl

theorem weight_settled (phase : Phase) :
    phase.weight .settled = if phase = .captured then 1 else 0 := by
  cases phase <;> rfl

/-- Every leg takes from one bucket what it gives to another. -/
theorem weight_total (phase : Phase) :
    phase.weight .available + phase.weight .reserved + phase.weight .settled = 0 := by
  cases phase <;> rfl

theorem weight_committed (phase : Phase) :
    phase.weight .reserved + phase.weight .settled = if phase.isLive then 1 else 0 := by
  cases phase <;> rfl

end Phase

/-! ## Holds and books -/

structure Hold where
  refId : String
  mandateId : String
  amountMinor : Int
  phase : Phase
  deriving DecidableEq

abbrev Book : Type := Table Hold [Hold.refId]

namespace Book

variable (book : Book)

def find? (refId : String) : Option Hold := book.get? Hold.refId refId

/-- What the holds of a mandate put into a bucket. -/
def balance (mandateId : String) (bucket : Bucket) : Int :=
  (book.rows.map fun h =>
    if h.mandateId = mandateId then h.phase.weight bucket * h.amountMinor else 0).sum

/-- What the live holds of a mandate add up to. -/
def committed (mandateId : String) : Int :=
  (book.rows.map fun h =>
    if h.mandateId = mandateId ∧ h.phase.isLive then h.amountMinor else 0).sum

/-- Opening a hold, when the reference is new and the cap allows it. -/
def reserve (mandateId : String) (amountMinor maxTotalMinor : Int) (refId : String) : Book :=
  if maxTotalMinor < book.committed mandateId + amountMinor then book
  else (book.insert? ⟨refId, mandateId, amountMinor, .held⟩).getD book

/-- Moving the hold of a reference on, when it is in the phase to be left. -/
def advance (refId : String) (source target : Phase) : Book :=
  book.modify (fun h => h.refId = refId ∧ h.phase = source) (fun h => { h with phase := target })
    (by simp)

/-- Whatever is known of the hold of this reference fits these terms. -/
def Terms (refId mandateId : String) (amountMinor : Int) : Prop :=
  ∀ h ∈ book, h.refId = refId → h.mandateId = mandateId ∧ h.amountMinor = amountMinor

variable {book}

theorem find?_eq_some {refId : String} {h : Hold} :
    book.find? refId = some h ↔ h ∈ book ∧ h.refId = refId :=
  Table.get?_eq_some_iff (by simp)

theorem find?_eq_none {refId : String} : book.find? refId = none ↔ ∀ h ∈ book, h.refId ≠ refId :=
  Table.get?_eq_none_iff

theorem eq_of_refId_eq {h h' : Hold} (member : h ∈ book) (member' : h' ∈ book)
    (same : h.refId = h'.refId) : h = h' :=
  Table.eq_of_col_eq Hold.refId (by simp) member member' same

theorem committed_eq (book : Book) (mandateId : String) :
    book.committed mandateId
      = book.balance mandateId .reserved + book.balance mandateId .settled := by
  rw [committed, balance, balance, ← List.sum_map_add]
  congr 1
  refine List.map_congr_left fun h _ => ?_
  by_cases mine : h.mandateId = mandateId
  · rw [if_pos mine, if_pos mine, ← add_mul, Phase.weight_committed]
    simp [mine]
  · simp [mine]

theorem balance_total (book : Book) (mandateId : String) :
    book.balance mandateId .available + book.balance mandateId .reserved
      + book.balance mandateId .settled = 0 := by
  rw [balance, balance, balance, ← List.sum_map_add, ← List.sum_map_add]
  refine List.sum_eq_zero fun share member => ?_
  obtain ⟨h, -, rfl⟩ := List.mem_map.mp member
  split
  · rw [← add_mul, ← add_mul, Phase.weight_total, zero_mul]
  · rfl

/-- A book of positive amounts never owes anything to the reserved and settled
buckets. -/
theorem balance_nonneg (positive : ∀ h ∈ book, 0 < h.amountMinor) (mandateId : String) :
    0 ≤ book.balance mandateId .reserved ∧ 0 ≤ book.balance mandateId .settled := by
  have shares : ∀ bucket : Bucket, (∀ phase : Phase, 0 ≤ phase.weight bucket) →
      0 ≤ book.balance mandateId bucket := by
    intro bucket weights
    refine List.sum_nonneg fun share member => ?_
    obtain ⟨h, present, rfl⟩ := List.mem_map.mp member
    split
    · exact mul_nonneg (weights h.phase) (positive h present).le
    · exact le_refl 0
  refine ⟨shares .reserved fun phase => ?_, shares .settled fun phase => ?_⟩
  · rw [Phase.weight_reserved]
    split <;> decide
  · rw [Phase.weight_settled]
    split <;> decide

/-- Amounts that are held live under one mandate, each under a reference of its
own, add up to at most what is committed. -/
theorem sum_le_committed (positive : ∀ h ∈ book, 0 < h.amountMinor) (mandateId : String)
    {ρ : Type} {rows : List ρ} {ref : ρ → String} {amount : ρ → Int}
    (distinct : (rows.map ref).Nodup)
    (backed : ∀ x ∈ rows, ∃ h ∈ book, h.refId = ref x ∧ h.mandateId = mandateId ∧
      h.amountMinor = amount x ∧ h.phase.isLive = true) :
    (rows.map amount).sum ≤ book.committed mandateId := by
  choose hold held using backed
  let share : Hold → Int := fun h =>
    if h.mandateId = mandateId ∧ h.phase.isLive then h.amountMinor else 0
  let holds : List Hold := rows.pmap hold fun _ member => member
  have refs : holds.map Hold.refId = rows.map ref := by
    rw [List.map_pmap, ← List.pmap_eq_map fun _ member => member]
    exact List.pmap_congr_left _ fun x member _ _ => (held x member).2.1
  have amounts : holds.map share = rows.map amount := by
    rw [List.map_pmap, ← List.pmap_eq_map fun _ member => member]
    refine List.pmap_congr_left _ fun x member _ _ => ?_
    obtain ⟨-, -, own, same, live⟩ := held x member
    simp [share, own, same, live]
  have listed : holds ⊆ book.rows := by
    intro h member
    obtain ⟨x, present, rfl⟩ := List.mem_pmap.mp member
    exact (held x present).1
  have nodup : holds.Nodup := List.Nodup.of_map Hold.refId (refs ▸ distinct)
  have nonneg : ∀ a ∈ book.rows.map share, 0 ≤ a := by
    intro a member
    obtain ⟨h, present, rfl⟩ := List.mem_map.mp member
    simp only [share]
    split
    · exact (positive h present).le
    · exact le_refl 0
  obtain ⟨chosen, perm, sub⟩ := nodup.subperm listed
  calc (rows.map amount).sum = (holds.map share).sum := by rw [amounts]
    _ = (chosen.map share).sum := ((perm.map share).sum_eq).symm
    _ ≤ (book.rows.map share).sum := (sub.map share).sum_le_sum nonneg

/-! ### The two operations -/

theorem mem_advance {refId : String} {source target : Phase} {x : Hold} :
    x ∈ book.advance refId source target ↔
      ∃ h ∈ book, (if h.refId = refId ∧ h.phase = source then { h with phase := target } else h)
        = x := by
  simp [advance, Table.mem_modify]

/-- Moving a hold on in a way that does not bring it back to life never raises
what is committed. -/
theorem committed_advance_le {refId : String} {source target : Phase}
    (positive : ∀ h ∈ book, 0 < h.amountMinor) (lively : target.isLive → source.isLive)
    (mandateId : String) :
    (book.advance refId source target).committed mandateId ≤ book.committed mandateId := by
  rw [committed, committed]
  simp only [advance, Table.modify, List.map_map]
  refine List.sum_le_sum fun h member => ?_
  simp only [Function.comp_apply, Bool.decide_and, Bool.and_eq_true, decide_eq_true_eq]
  by_cases moved : h.refId = refId ∧ h.phase = source
  · obtain ⟨ref, phase⟩ := moved
    subst phase
    have amount := positive h member
    simp only [ref, and_self, if_true]
    split <;> split
    · exact le_refl _
    · rename_i live dead
      exact absurd ⟨live.1, lively live.2⟩ dead
    · exact amount.le
    · exact le_refl 0
  · rw [if_neg moved]

/-- A live hold that dies gives back what was committed for it. -/
theorem committed_advance_dead {h : Hold} {target : Phase} (member : h ∈ book)
    (live : h.phase.isLive = true) (dead : target.isLive = false) :
    (book.advance h.refId h.phase target).committed h.mandateId =
      book.committed h.mandateId - h.amountMinor := by
  have chosen : ∀ x ∈ book, decide (x.refId = h.refId ∧ x.phase = h.phase) = true ↔ x = h := by
    intro x present
    rw [decide_eq_true_eq]
    exact ⟨fun same => eq_of_refId_eq present member same.1, fun same => by simp [same]⟩
  obtain ⟨before, after, rows, rows'⟩ := Table.modify_split Hold.refId (by simp)
    (fun h => { h with phase := target }) (by simp) member chosen
  have same : (book.advance h.refId h.phase target).rows =
      before ++ { h with phase := target } :: after := rows'
  rw [committed, committed, same, rows]
  simp only [List.map_append, List.map_cons, List.sum_append, List.sum_cons, live, dead]
  simp
  omega

theorem insert?_eq_none {h : Hold} : book.insert? h = none ↔ book.find? h.refId ≠ none := by
  rw [Table.insert?_eq_none_iff, Ne, find?_eq_none]
  simp [Table.Clashes, Table.mem_def]

theorem reserve_cases (book : Book) (mandateId : String) (amountMinor maxTotalMinor : Int)
    (refId : String) :
    book.reserve mandateId amountMinor maxTotalMinor refId = book ∨
      (book.committed mandateId + amountMinor ≤ maxTotalMinor ∧
        book.insert? ⟨refId, mandateId, amountMinor, .held⟩
          = some (book.reserve mandateId amountMinor maxTotalMinor refId)) := by
  unfold reserve
  split
  · exact .inl rfl
  · rename_i within
    cases inserted : book.insert? ⟨refId, mandateId, amountMinor, .held⟩ with
    | none => exact .inl rfl
    | some book' => exact .inr ⟨not_lt.mp within, rfl⟩

theorem committed_insert {book' : Book} {h : Hold} (inserted : book.insert? h = some book')
    (mandateId : String) :
    book'.committed mandateId = book.committed mandateId
      + if h.mandateId = mandateId ∧ h.phase.isLive then h.amountMinor else 0 := by
  simp [committed, Table.rows_of_insert? inserted]

/-- A reservation checked against a mandate's own cap keeps it. -/
theorem committed_reserve_le {mandateId m : String} {amountMinor maxTotalMinor cap : Int}
    {refId : String} (within : book.committed m ≤ cap) (own : mandateId = m → maxTotalMinor ≤ cap) :
    (book.reserve mandateId amountMinor maxTotalMinor refId).committed m ≤ cap := by
  rcases book.reserve_cases mandateId amountMinor maxTotalMinor refId with same | ⟨room, inserted⟩
  · rw [same]
    exact within
  · rw [committed_insert inserted]
    by_cases mine : mandateId = m
    · subst mine
      simp only [Phase.isLive, and_self, if_true]
      exact room.trans (own rfl)
    · simp only [mine, false_and, if_false, add_zero]
      exact within

end Book

end Actl.Ledger
