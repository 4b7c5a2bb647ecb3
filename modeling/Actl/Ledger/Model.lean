import Mathlib.Algebra.BigOperators.Group.List.Basic
import Mathlib.Algebra.Ring.Int.Defs
import Actl.Platform

/-!
# Ledger movements and balances

The pure part of the ledger, `domain/ledger/model.py`: account names, the two
entries of each movement, and the balance of an account as the sum of its
entries, where a debit adds and a credit subtracts.
-/

set_option autoImplicit false

namespace Actl.Ledger

inductive Bucket where
  | available
  | reserved
  | settled
  deriving DecidableEq, Repr

def Bucket.name : Bucket → String
  | .available => "available"
  | .reserved => "reserved"
  | .settled => "settled"

def account (mandateId : String) (bucket : Bucket) : String :=
  "mandate:" ++ mandateId ++ ":" ++ bucket.name

/-- `acct.removeprefix("mandate:").split(":", 1)[0]`. -/
def mandateIdFromAccount (acct : String) : String :=
  let unprefixed := if "mandate:".toList.isPrefixOf acct.toList then acct.toList.drop 8 else acct.toList
  String.ofList (unprefixed.takeWhile (· ≠ ':'))

inductive ReservationState where
  | held
  | captured
  | released
  | expired
  deriving DecidableEq, Repr

inductive Direction where
  | debit
  | credit
  deriving DecidableEq, Repr

inductive RefType where
  | reservation
  | capture
  | release
  | expire
  | reverse
  deriving DecidableEq, Repr

structure LedgerMovement where
  account : String
  direction : Direction
  amountMinor : Int
  deriving DecidableEq

/-- A movement between two buckets of a mandate: out of one, into the other. -/
def movements (source target : Bucket) (mandateId : String) (amountMinor : Int) :
    List LedgerMovement :=
  [⟨account mandateId source, .credit, amountMinor⟩,
    ⟨account mandateId target, .debit, amountMinor⟩]

def reserveMovements : String → Int → List LedgerMovement := movements .available .reserved

def captureMovements : String → Int → List LedgerMovement := movements .reserved .settled

def releaseMovements : String → Int → List LedgerMovement := movements .reserved .available

def reverseMovements : String → Int → List LedgerMovement := movements .settled .available

def signed (direction : Direction) (amountMinor : Int) : Int :=
  match direction with
  | .debit => amountMinor
  | .credit => -amountMinor

def netBalance (entries : List (Direction × Int)) : Int :=
  entries.foldl (fun total entry => total + signed entry.1 entry.2) 0

theorem netBalance_eq_sum (entries : List (Direction × Int)) :
    netBalance entries = (entries.map fun entry => signed entry.1 entry.2).sum := by
  have general : ∀ (total : Int) (l : List (Direction × Int)),
      l.foldl (fun total entry => total + signed entry.1 entry.2) total
        = total + (l.map fun entry => signed entry.1 entry.2).sum := by
    intro total l
    induction l generalizing total with
    | nil => simp
    | cons entry l ih =>
        rw [List.foldl_cons, ih, List.map_cons, List.sum_cons, add_assoc]
  rw [netBalance, general, zero_add]

/-! ## Account names -/

theorem toList_account (mandateId : String) (bucket : Bucket) :
    (account mandateId bucket).toList
      = "mandate:".toList ++ (mandateId.toList ++ ':' :: bucket.name.toList) := by
  simp [account]

/-- A mandate id without colons is read back from its account names. -/
theorem mandateIdFromAccount_account {mandateId : String} (plain : ':' ∉ mandateId.toList)
    (bucket : Bucket) : mandateIdFromAccount (account mandateId bucket) = mandateId := by
  have unprefixed : "mandate:".toList.isPrefixOf (account mandateId bucket).toList = true := by
    rw [toList_account, List.isPrefixOf_iff_prefix]
    exact List.prefix_append _ _
  have dropped : (account mandateId bucket).toList.drop 8
      = mandateId.toList ++ ':' :: bucket.name.toList := by
    rw [toList_account]
    rfl
  have taken : (mandateId.toList ++ ':' :: bucket.name.toList).takeWhile (· ≠ ':')
      = mandateId.toList := by
    rw [List.takeWhile_append_of_pos]
    · simp
    · intro c member
      simp only [decide_eq_true_eq]
      rintro rfl
      exact plain member
  unfold mandateIdFromAccount
  simp only [unprefixed, if_true, dropped, taken, String.ofList_toList]

theorem Bucket.name_injective {b b' : Bucket} (same : b.name = b'.name) : b = b' := by
  cases b <;> cases b' <;> first | rfl | exact absurd same (by decide)

/-- Different mandates have different accounts, whatever their ids are. -/
theorem account_left_inj {m m' : String} {bucket : Bucket} :
    account m bucket = account m' bucket ↔ m = m' := by
  refine ⟨fun same => ?_, fun same => same ▸ rfl⟩
  have lists := congrArg String.toList same
  rw [toList_account, toList_account, List.append_cancel_left_eq, List.append_cancel_right_eq]
    at lists
  exact String.toList_inj.mp lists

/-- Different mandates and different buckets have different accounts. -/
theorem account_inj {m m' : String} (plain : ':' ∉ m.toList) (plain' : ':' ∉ m'.toList)
    {b b' : Bucket} : account m b = account m' b' ↔ m = m' ∧ b = b' := by
  refine ⟨fun same => ?_, fun ⟨sameId, sameBucket⟩ => sameId ▸ sameBucket ▸ rfl⟩
  have ids : m = m' := by
    rw [← mandateIdFromAccount_account plain b, same, mandateIdFromAccount_account plain']
  subst ids
  have lists := congrArg String.toList same
  rw [toList_account, toList_account, List.append_cancel_left_eq, List.append_cancel_left_eq,
    List.cons.injEq] at lists
  exact ⟨rfl, Bucket.name_injective (String.toList_inj.mp lists.2)⟩

end Actl.Ledger
