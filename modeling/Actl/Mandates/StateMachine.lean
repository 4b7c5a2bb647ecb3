import Actl.Mandates.Model

/-!
# The mandate lifecycle

The transition table of `domain/mandate/state_machine.py` with its guards. A
guard reads only the values its caller supplies.
-/

set_option autoImplicit false

namespace Actl.Mandates

inductive MandateStatus where
  | draft
  | pendingConfirm
  | locked
  | executing
  | settled
  | compensated
  | revoked
  | expired
  deriving DecidableEq, Repr

structure TransitionGuardContext where
  now : Option Time := none
  expiresAt : Option Time := none
  txnCount : Int := 0
  maxTransactions : Int := 1
  reservedMinor : Int := 0
  capturedMinor : Int := 0
  allCompensationsConfirmed : Bool := true
  confirmationMatchesDraftHash : Bool := true
  allRequiredBoundsPresent : Bool := true

inductive Trigger where
  | draftOk
  | confirm
  | propose
  | captured
  | failure
  | revoke
  | ttl
  deriving DecidableEq, Repr

def guardDraftOk (ctx : TransitionGuardContext) : Bool := ctx.allRequiredBoundsPresent

def guardConfirm (ctx : TransitionGuardContext) : Bool := ctx.confirmationMatchesDraftHash

def guardPropose (ctx : TransitionGuardContext) : Bool :=
  match ctx.now, ctx.expiresAt with
  | some now, some expiresAt => now < expiresAt ∧ ctx.txnCount < ctx.maxTransactions
  | _, _ => false

def guardCaptured (ctx : TransitionGuardContext) : Bool := ctx.reservedMinor = ctx.capturedMinor

def guardFailure (ctx : TransitionGuardContext) : Bool := ctx.allCompensationsConfirmed

structure Transition where
  fromStatus : Option MandateStatus
  trigger : Trigger
  toStatus : MandateStatus
  guard : Option (TransitionGuardContext → Bool)

def transitions : List Transition := [
  ⟨some .draft, .draftOk, .pendingConfirm, some guardDraftOk⟩,
  ⟨some .pendingConfirm, .confirm, .locked, some guardConfirm⟩,
  ⟨some .locked, .propose, .executing, some guardPropose⟩,
  ⟨some .executing, .captured, .settled, some guardCaptured⟩,
  ⟨some .executing, .failure, .compensated, some guardFailure⟩,
  ⟨none, .revoke, .revoked, none⟩,
  ⟨some .pendingConfirm, .ttl, .expired, none⟩]

/-- The first entry of the table for the trigger and the current status decides:
its guard raises or its target is the new status. -/
def transition (current : MandateStatus) (trigger : Trigger) (ctx : TransitionGuardContext) :
    Except Failure MandateStatus :=
  match transitions.find? fun t =>
    t.trigger = trigger ∧ (t.fromStatus = none ∨ t.fromStatus = some current) with
  | none => .error .invalidTransition
  | some t =>
      match t.guard with
      | some guard => if guard ctx then .ok t.toStatus else .error .guardRejected
      | none => .ok t.toStatus

/-- A transition that is made is one of the table. -/
theorem transition_ok {current status : MandateStatus} {trigger : Trigger}
    {ctx : TransitionGuardContext} (made : transition current trigger ctx = .ok status) :
    ∃ t ∈ transitions, t.trigger = trigger ∧
      (t.fromStatus = none ∨ t.fromStatus = some current) ∧ t.toStatus = status := by
  rw [transition] at made
  split at made
  next => cases made
  next t found =>
    have member := List.mem_of_find?_eq_some found
    have fits := List.find?_some found
    simp only [decide_eq_true_eq] at fits
    refine ⟨t, member, fits.1, fits.2, ?_⟩
    split at made
    next =>
      split at made
      next => exact Except.ok.inj made
      next => cases made
    next => exact Except.ok.inj made

theorem transition_propose {current status : MandateStatus} {ctx : TransitionGuardContext}
    (made : transition current .propose ctx = .ok status) : status = .executing := by
  obtain ⟨t, member, trigger, _, rfl⟩ := transition_ok made
  simp only [transitions, List.mem_cons, List.not_mem_nil, or_false] at member
  rcases member with rfl | rfl | rfl | rfl | rfl | rfl | rfl
  all_goals first | rfl | cases trigger

end Actl.Mandates
