import Actl.Foundation.WriteOnce
import Actl.Platform

/-!
# The anchor contract

`AuditCheckpointAnchor.sol`: one root for each chain id and range, written by the
owner only. A zero root stands for a range that is not anchored. The contract is a
family of write-once registers (`anchor_refines`): the first root of a range stays,
with one event, the same root again is a success without effect, and another root is
turned down.
-/

set_option autoImplicit false

namespace Actl.Anchor

open Foundation (WriteOnce)

abbrev Address : Type := String

/-- `bytes32(0)`. -/
def zeroRoot : Digest := ⟨List.replicate 32 0, rfl⟩

structure Checkpoint where
  merkleRoot : Digest
  anchoredAt : UInt64
  deriving DecidableEq

/-- The keys of the contract's mapping. -/
structure Range where
  auditChainId : Digest
  startSeq : UInt64
  endSeq : UInt64
  deriving DecidableEq

structure CheckpointAnchored where
  range : Range
  merkleRoot : Digest
  anchoredAt : UInt64
  deriving DecidableEq

/-- The errors the contract reverts with. -/
inductive Revert where
  | notOwner
  | invalidRoot
  | invalidRange
  | conflictingRoot (existingRoot : Digest)
  deriving DecidableEq

/-- The contract's storage and the events it has emitted. -/
structure Contract where
  owner : Address
  checkpoints : Range → Checkpoint
  events : List CheckpointAnchored

namespace Contract

/-- The constructor. -/
def deploy (sender : Address) : Contract := ⟨sender, fun _ => ⟨zeroRoot, 0⟩, []⟩

/-- `anchor`. -/
def anchor (c : Contract) (sender : Address) (timestamp : Nat) (range : Range)
    (merkleRoot : Digest) : Except Revert Contract :=
  if sender ≠ c.owner then .error .notOwner
  else if merkleRoot = zeroRoot then .error .invalidRoot
  else if range.endSeq < range.startSeq then .error .invalidRange
  else
    let existing := c.checkpoints range
    if existing.merkleRoot ≠ zeroRoot then
      if existing.merkleRoot ≠ merkleRoot then .error (.conflictingRoot existing.merkleRoot)
      else .ok c
    else
      let anchoredAt := UInt64.ofNat timestamp
      .ok { c with
        checkpoints := Function.update c.checkpoints range ⟨merkleRoot, anchoredAt⟩
        events := c.events ++ [⟨range, merkleRoot, anchoredAt⟩] }

/-- `getCheckpoint`. -/
def getCheckpoint (c : Contract) (range : Range) : Checkpoint := c.checkpoints range

/-! ## The registers -/

/-- The root of a range, if it has one. -/
def root? (c : Contract) (range : Range) : Option Digest :=
  if (c.checkpoints range).merkleRoot = zeroRoot then none
  else some (c.checkpoints range).merkleRoot

/-- The contract as registers that are written once. -/
def registers (c : Contract) : WriteOnce Range Digest :=
  ⟨c.root?, c.events.map fun e => (e.range, e.merkleRoot)⟩

variable {c c' : Contract} {sender : Address} {timestamp : Nat} {range : Range} {root : Digest}

theorem root?_eq_some : c.root? range = some root ↔
    (c.checkpoints range).merkleRoot = root ∧ root ≠ zeroRoot := by
  unfold root?
  split
  · rename_i unset
    rw [unset]
    exact ⟨nofun, fun ⟨same, set⟩ => absurd same.symm set⟩
  · rename_i set
    constructor
    · rintro ⟨⟩
      exact ⟨rfl, set⟩
    · rintro ⟨rfl, -⟩
      rfl

theorem registers_deploy (owner : Address) : (deploy owner).registers = .empty := by
  unfold registers WriteOnce.empty
  congr 1

/-- A call that succeeds is the owner's write of a root to a register, which had that
root or none. -/
theorem anchor_refines (done : c.anchor sender timestamp range root = .ok c') :
    sender = c.owner ∧ c'.owner = c.owner ∧ c'.registers = c.registers.write range root ∧
      c'.root? range = some root := by
  unfold anchor at done
  split at done
  · cases done
  rename_i owner
  split at done
  · cases done
  rename_i valid
  split at done
  · cases done
  refine ⟨not_not.mp owner, ?_⟩
  dsimp only at done
  split at done
  · rename_i set
    split at done
    · cases done
    · rename_i same
      cases done
      have found : c.root? range = some root := root?_eq_some.mpr ⟨not_not.mp same, valid⟩
      exact ⟨rfl, (WriteOnce.write_of_set found).symm, found⟩
  · rename_i unset
    cases done
    have absent : c.registers.value range = none := if_pos (not_not.mp unset)
    have found : (Function.update c.checkpoints range ⟨root, UInt64.ofNat timestamp⟩ range).merkleRoot
        = root := by rw [Function.update_self]
    refine ⟨rfl, ?_, root?_eq_some.mpr ⟨found, valid⟩⟩
    rw [WriteOnce.write_of_unset absent]
    simp only [registers, List.map_append, List.map_cons, List.map_nil, WriteOnce.mk.injEq, and_true]
    funext range'
    by_cases same : range' = range
    · subst same
      rw [Function.update_self]
      exact root?_eq_some.mpr ⟨found, valid⟩
    · simp only [root?, Function.update_of_ne same]

/-- A call that is turned down for a conflict has met another root. -/
theorem anchor_conflict {existing : Digest}
    (done : c.anchor sender timestamp range root = .error (.conflictingRoot existing)) :
    c.root? range = some existing ∧ existing ≠ root := by
  unfold anchor at done
  split at done
  · cases done
  split at done
  · cases done
  split at done
  · cases done
  dsimp only at done
  split at done
  · rename_i set
    split at done
    · rename_i other
      cases done
      exact ⟨root?_eq_some.mpr ⟨rfl, set⟩, other⟩
    · cases done
  · cases done

end Contract

end Actl.Anchor
