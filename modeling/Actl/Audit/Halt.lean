import Actl.Audit.Tables
import Actl.Store

/-!
# Halting on a broken chain

`verify_chain_and_halt_on_failure` runs the verifier and trips the integrity halt
when it finds a break. It reads the audit tables as they are stored, which someone
with access to the database may have changed, so they are an argument.

The first trip is the one that is recorded.
-/

set_option autoImplicit false

namespace Actl

open Audit (AuditTables ChainVerificationResult)

namespace Audit

/-- `verify_chain_and_halt_on_failure`. -/
def verifyChainAndHaltOnFailure (P : Platform) (tables : AuditTables) (fromSeq toSeq : Int)
    (now : Time) (db : Database) : Except Failure (ChainVerificationResult × Database) := do
  let result ← verifyChain P tables fromSeq toSeq
  if result.ok then return (result, db)
  else
    let reason := (result.break_.map ChainBreak.reason).getD "audit chain verification failed"
    return (result, db.tripIntegrity reason (result.break_.map ChainBreak.seq) now)

end Audit

namespace Database

variable {db : Database}

/-- A trip finds the halt tripped, or records itself. -/
theorem tripIntegrity_integrity (db : Database) (reason : String) (trippedSeq : Option Int)
    (now : Time) :
    (db.tripIntegrity reason trippedSeq now).integrity =
      if db.integrity.halted then db.integrity else ⟨⟨true, some reason, some now⟩, trippedSeq⟩ := by
  unfold tripIntegrity
  split <;> rfl

/-- A tripped halt stays as it is. -/
theorem tripIntegrity_of_halted (halted : db.integrity.halted = true) (reason : String)
    (trippedSeq : Option Int) (now : Time) : db.tripIntegrity reason trippedSeq now = db := by
  rw [tripIntegrity, if_pos halted]

theorem tripIntegrity_halted (db : Database) (reason : String) (trippedSeq : Option Int)
    (now : Time) : (db.tripIntegrity reason trippedSeq now).integrity.halted = true := by
  rw [tripIntegrity_integrity]
  split
  · assumption
  · rfl

theorem raiseIfHalted_eq_ok : db.raiseIfHalted = .ok () ↔ db.integrity.halted = false := by
  unfold raiseIfHalted
  cases db.integrity.halted <;> simp

end Database

/-- The verifier leaves the store alone but for a trip. -/
theorem verifyChainAndHaltOnFailure_ok {P : Platform} {tables : AuditTables} {fromSeq toSeq : Int}
    {now : Time} {db db' : Database} {result : ChainVerificationResult}
    (done : Audit.verifyChainAndHaltOnFailure P tables fromSeq toSeq now db = .ok (result, db')) :
    (result.ok = true ∧ db' = db) ∨
      (result.ok = false ∧ ∃ reason trippedSeq, db' = db.tripIntegrity reason trippedSeq now) := by
  obtain ⟨verified, -, rest⟩ := Foundation.bind_eq_ok.mp done
  split at rest
  · rename_i intact
    cases rest
    exact .inl ⟨intact, rfl⟩
  · rename_i broken
    cases rest
    exact .inr ⟨by simpa using broken, _, _, rfl⟩

end Actl
