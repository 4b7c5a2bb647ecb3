import Actl.Effects.Growth
import Actl.Ledger.BudgetCap

/-!
# What one sweep does

Of the references whose reservation is older than the cutoff a sweep takes those
that are held, each once, and nothing else. On the book of holds it is one
operation, `expireAll`; in the audit log it is one entry for each hold, with the
terms the hold was opened with. The next sweep of the same period finds nothing.
-/

set_option autoImplicit false

namespace Actl.Ledger

open Foundation (Table ok_bind)

/-! ## Expiring many holds at once -/

namespace Book

/-- Every held hold of these references is expired. -/
def expireAll (book : Book) (refIds : List String) : Book :=
  book.modify (fun h => h.refId ∈ refIds ∧ h.phase = .held) (fun h => { h with phase := .expired })
    (by simp)

variable {book : Book}

theorem expireAll_nil : book.expireAll [] = book :=
  Table.modify_eq_self fun _ _ => by simp

theorem expireAll_cons (refId : String) (refIds : List String) :
    book.expireAll (refId :: refIds) = (book.advance refId .held .expired).expireAll refIds := by
  refine Table.ext ?_
  simp only [expireAll, advance, Table.modify, List.map_map]
  refine List.map_congr_left fun h _ => ?_
  by_cases held : h.phase = .held
  · by_cases first : h.refId = refId
    · simp [held, first]
    · simp [held, first]
  · simp [held]

theorem mem_expireAll {refIds : List String} {x : Hold} :
    x ∈ book.expireAll refIds ↔
      ∃ h ∈ book, (if h.refId ∈ refIds ∧ h.phase = .held then { h with phase := .expired } else h)
        = x := by
  simp [expireAll, Table.mem_modify]

/-- What the expired holds of a mandate were for is no longer committed. -/
theorem committed_expireAll (refIds : List String) (mandateId : String) :
    (book.expireAll refIds).committed mandateId
        + (book.rows.map fun h =>
            if h.mandateId = mandateId ∧ h.refId ∈ refIds ∧ h.phase = .held then h.amountMinor
            else 0).sum
      = book.committed mandateId := by
  simp only [committed, expireAll, Table.modify, List.map_map]
  induction book.rows with
  | nil => rfl
  | cons h rows ih =>
      simp only [List.map_cons, List.sum_cons, Function.comp_apply]
      rw [← ih]
      by_cases own : h.mandateId = mandateId
      · by_cases taken : h.refId ∈ refIds ∧ h.phase = .held
        · simp only [own, taken, Phase.isLive, and_self, decide_true, if_true, Bool.false_eq_true,
            and_false, if_false]
          omega
        · simp only [taken, decide_false, Bool.false_eq_true, and_false, if_false]
          omega
      · by_cases taken : h.refId ∈ refIds ∧ h.phase = .held
        · simp only [own, taken, and_self, decide_true, if_true, false_and, if_false]
          omega
        · simp only [own, taken, decide_false, Bool.false_eq_true, false_and, if_false]
          omega

end Book

/-! ## One candidate -/

/-- An entry of the audit log that says which hold expired, with its terms. -/
def Names (book : Book) (refId : String) (entry : Audit.AuditEntry) : Prop :=
  ∃ h ∈ book, h.refId = refId ∧ entry.action = .reservationExpired ∧
    entry.payload = .obj [("mandate_id", .str h.mandateId), ("ref_id", .str refId),
      ("amount_minor", .int h.amountMinor)]

/-- The opening entries, which the candidates of a sweep are read from. -/
def openings (db : Database) : List LedgerEntryRecord :=
  db.ledgerEntries.filter fun e => e.refType = .reservation

/-- What a sweep over some candidates does to a store that keeps a book. -/
structure Sweeping (db : Database) (book : Book) (swept : List String) (db' : Database) : Prop where
  kept : Keeps db' (book.expireAll swept)
  named : ∃ added, db'.auditLog.entries = db.auditLog.entries ++ added ∧
    List.Forall₂ (Names book) swept added
  openings : openings db' = openings db
  integrity : db'.integrity = db.integrity
  mandates : db'.mandates = db.mandates

section Candidates

variable {db : Database} {book : Book}

theorem Keeps.sweeping_nil (kept : Keeps db book) : Sweeping db book [] db where
  kept := by rwa [Book.expireAll_nil]
  named := ⟨[], (List.append_nil _).symm, .nil⟩
  openings := rfl
  integrity := rfl
  mandates := rfl

theorem openings_addMovements (ms : List LedgerMovement) {refType : RefType} (refId : String)
    (now : Nat → Time) (closing : refType ≠ .reservation) :
    openings (addMovements db ms refType refId now) = openings db := by
  rw [openings, openings, addMovements, List.filter_append, List.append_right_eq_self]
  refine List.filter_eq_nil_iff.mpr fun e member => ?_
  obtain ⟨i, _, rfl⟩ := List.mem_mapIdx.mp member
  simpa using closing

/-- A held candidate is expired and named. -/
theorem Keeps.sweeping_held (kept : Keeps db book) (P : Platform) (now : Nat → Time)
    (traceId : String) {refId : String} (held : stateOfRef db refId = some .held) :
    ∃ db', Ledger.sweepReservation P db now traceId refId = .ok (true, db') ∧
      Sweeping db book [refId] db' := by
  obtain ⟨h, member, rfl, phase⟩ := kept.exists_held held
  obtain ⟨e, found, acct, amount⟩ := kept.find_reservation member
  obtain ⟨row, present, same⟩ := kept.mandates h member
  have row_found : db.getMandate h.mandateId = some row :=
    (Table.get?_eq_some_iff (by simp)).mpr ⟨present, same⟩
  have posted := kept.post_leg member .expired
    ⟨.expire, .reserved, .available⟩ (by rw [phase]; rfl) now
  rw [phase] at posted
  obtain ⟨entry, action, payload, entries⟩ := entries_appendEntry P db.auditLog traceId "system"
    "sweeper" .reservationExpired
    (.ofStrings [("mandate_id", h.mandateId), ("ref_id", h.refId)])
    (.obj [("mandate_id", .str h.mandateId), ("ref_id", .str h.refId),
      ("amount_minor", .int h.amountMinor)])
  unfold Ledger.sweepReservation
  unfold stateOfRef at held
  simp only [held, found, acct, mandateIdFromAccount_account (kept.plain member), row_found,
    amount, ne_eq, not_true_eq_false, if_false]
  refine ⟨_, rfl, ?_⟩
  exact {
    kept := by
      rw [Book.expireAll_cons, Book.expireAll_nil]
      exact posted.congr rfl fun row present => ⟨row, present, rfl⟩
    named := ⟨[entry], entries, .cons ⟨h, member, rfl, action, payload⟩ .nil⟩
    openings := openings_addMovements _ _ _ (by simp)
    integrity := rfl
    mandates := rfl }

/-- A candidate in any other state is left alone. -/
theorem sweepReservation_of_not_held (P : Platform) (now : Nat → Time) (traceId : String)
    {refId : String} (elsewhere : stateOfRef db refId ≠ some .held) :
    Ledger.sweepReservation P db now traceId refId = .ok (false, db) := by
  unfold Ledger.sweepReservation
  unfold stateOfRef at elsewhere
  simp [elsewhere]

/-- Two sweeps in a row are one. -/
theorem Sweeping.trans {db' db'' : Database} {refId : String} {swept : List String}
    (first : Sweeping db book [refId] db')
    (rest : Sweeping db' (book.expireAll [refId]) swept db'') :
    Sweeping db book (refId :: swept) db'' where
  kept := by
    have kept := rest.kept
    rw [Book.expireAll_cons, Book.expireAll_nil] at kept
    rw [Book.expireAll_cons]
    exact kept
  named := by
    obtain ⟨one, entries, names⟩ := first.named
    obtain ⟨more, entries', names'⟩ := rest.named
    refine ⟨one ++ more, by rw [entries', entries, List.append_assoc], ?_⟩
    have older : List.Forall₂ (Names book) swept more := by
      refine names'.imp fun ref entry named => ?_
      obtain ⟨x, present, ref, terms⟩ := named
      obtain ⟨h, member, rfl⟩ := Book.mem_expireAll.mp present
      refine ⟨h, member, ?_⟩
      split at ref <;> split at terms <;> exact ⟨ref, terms⟩
    exact List.rel_append names older
  openings := rest.openings.trans first.openings
  integrity := rest.integrity.trans first.integrity
  mandates := rest.mandates.trans first.mandates

/-- Expiring one reference leaves the state of the others. -/
theorem Sweeping.stateOfRef_of_ne {db' : Database} {refId : String} (kept : Keeps db book)
    (first : Sweeping db book [refId] db') {ref : String} (other : ref ≠ refId) :
    stateOfRef db' ref = stateOfRef db ref := by
  rw [first.kept.stateOfRef_eq, kept.stateOfRef_eq, Book.find?, Book.expireAll,
    Table.get?_modify (by simp)]
  cases found : book.get? Hold.refId ref with
  | none => simp [Book.find?, found]
  | some h =>
      obtain ⟨-, own⟩ := Table.get?_mem found
      have skipped : h.refId ≠ refId := fun same => other (own.symm.trans same)
      simp [Book.find?, found, skipped]

/-- Over candidates without repetition the sweep takes those that are held, in
their order. -/
theorem Keeps.sweepAll (P : Platform) (now : Nat → Nat → Time) (traceId : Nat → String)
    {refIds : List String} (distinct : refIds.Nodup) (i : Nat) {db : Database} {book : Book}
    (kept : Keeps db book) :
    ∃ db', Ledger.sweepAll P now traceId i refIds db
        = .ok (refIds.filter (fun ref => stateOfRef db ref = some .held), db') ∧
      Sweeping db book (refIds.filter fun ref => stateOfRef db ref = some .held) db' := by
  induction refIds generalizing i db book with
  | nil => exact ⟨db, rfl, kept.sweeping_nil⟩
  | cons refId refIds ih =>
      obtain ⟨fresh, distinct⟩ := List.nodup_cons.mp distinct
      by_cases held : stateOfRef db refId = some .held
      · obtain ⟨db', one, first⟩ := kept.sweeping_held P (now i) (traceId i) held
        obtain ⟨db'', more, rest⟩ := ih distinct (i + 1) first.kept
        have same : refIds.filter (fun ref => stateOfRef db' ref = some .held)
            = refIds.filter fun ref => stateOfRef db ref = some .held := by
          refine List.filter_congr fun ref member => ?_
          have other : ref ≠ refId := fun same => fresh (same ▸ member)
          rw [first.stateOfRef_of_ne kept other]
        rw [same] at more rest
        refine ⟨db'', ?_, ?_⟩
        · simp only [Ledger.sweepAll, one, ok_bind, more]
          simp [held]
          rfl
        · rw [List.filter_cons_of_pos (by simpa using held)]
          exact first.trans rest
      · obtain ⟨db'', more, rest⟩ := ih distinct (i + 1) kept
        refine ⟨db'', ?_, ?_⟩
        · simp only [Ledger.sweepAll, sweepReservation_of_not_held P (now i) (traceId i) held,
            ok_bind, more]
          simp [held]
          rfl
        · rw [List.filter_cons_of_neg (by simpa using held)]
          exact rest

end Candidates

/-- A sweep over candidates none of which is held changes nothing. -/
theorem sweepAll_of_none_held (P : Platform) (now : Nat → Nat → Time) (traceId : Nat → String)
    {db : Database} {refIds : List String} (i : Nat)
    (elsewhere : ∀ ref ∈ refIds, stateOfRef db ref ≠ some .held) :
    Ledger.sweepAll P now traceId i refIds db = .ok ([], db) := by
  induction refIds generalizing i with
  | nil => rfl
  | cons refId refIds ih =>
      have first := elsewhere refId List.mem_cons_self
      have rest := ih (i + 1) fun ref member => elsewhere ref (List.mem_cons_of_mem _ member)
      simp only [Ledger.sweepAll, sweepReservation_of_not_held P (now i) (traceId i) first, ok_bind,
        rest]
      rfl

/-! ## The sweep -/

theorem raiseIfHalted_of_running {db : Database} (running : db.integrity.halted = false) :
    db.raiseIfHalted = .ok () := by
  simp [Database.raiseIfHalted, running]

theorem mem_listReservationsOlderThan {db : Database} {cutoff : Time} {refId : String} :
    refId ∈ db.listReservationsOlderThan cutoff ↔
      ∃ e ∈ openings db, e.createdAt < cutoff ∧ e.refId = refId := by
  simp only [Database.listReservationsOlderThan, openings, List.mem_dedup, List.mem_map,
    List.mem_filter, Bool.and_eq_true, decide_eq_true_eq]
  exact ⟨fun ⟨e, ⟨member, type, older⟩, own⟩ => ⟨e, ⟨member, type⟩, older, own⟩,
    fun ⟨e, ⟨member, type⟩, older, own⟩ => ⟨e, ⟨member, type, older⟩, own⟩⟩

theorem nodup_listReservationsOlderThan (db : Database) (cutoff : Time) :
    (db.listReservationsOlderThan cutoff).Nodup :=
  List.nodup_dedup _

/-- What has been swept is not swept again, at this cutoff or an earlier one. -/
theorem Sweeping.done {db db' : Database} {book : Book} {cutoff cutoff' : Time}
    (kept : Keeps db book)
    (sweeping : Sweeping db book ((db.listReservationsOlderThan cutoff).filter fun ref =>
      stateOfRef db ref = some .held) db') (earlier : cutoff' ≤ cutoff) :
    ∀ ref ∈ db'.listReservationsOlderThan cutoff', stateOfRef db' ref ≠ some .held := by
  intro ref candidate held
  obtain ⟨e, opening, older, own⟩ := mem_listReservationsOlderThan.mp candidate
  rw [sweeping.openings] at opening
  have overdue : ref ∈ db.listReservationsOlderThan cutoff :=
    mem_listReservationsOlderThan.mpr ⟨e, opening, lt_of_lt_of_le older earlier, own⟩
  obtain ⟨x, present, mine, phase⟩ := sweeping.kept.exists_held held
  obtain ⟨h, member, rfl⟩ := Book.mem_expireAll.mp present
  -- A hold that is still held was held before, so the sweep has taken it.
  split at phase
  · simp at phase
  · rename_i kept_as_is
    rw [if_neg kept_as_is] at mine
    refine kept_as_is ⟨List.mem_filter.mpr ⟨mine ▸ overdue, ?_⟩, phase⟩
    rw [decide_eq_true_eq, kept.stateOfRef_of_mem member, phase]
    rfl

/-- In every state a proper run of the ledger reaches, a sweep expires exactly
the held reservations older than its cutoff: in the audit log each of them is
named once with its own terms, what they were for is again free under each
mandate, and no sweep at this or an earlier cutoff finds anything more. -/
theorem sweep_expires_overdue (P : Platform) (db : Database) (empty : db.ledgerEntries = [])
    (ops : List Operation) (proper : Operation.ProperRun P db ops)
    (running : (Operation.run P db ops).integrity.halted = false) (now : Nat → Nat → Time)
    (traceId : Nat → String) (reservationTtlS : Int) :
    let reached := Operation.run P db ops
    let cutoff := now 0 0 - seconds reservationTtlS
    let swept := (reached.listReservationsOlderThan cutoff).filter fun ref =>
      stateOfRef reached ref = some .held
    ∃ book db' added, Keeps reached book ∧
      Ledger.sweep P now traceId reservationTtlS reached = .ok (swept, db') ∧
      Keeps db' (book.expireAll swept) ∧
      db'.auditLog.entries = reached.auditLog.entries ++ added ∧
      List.Forall₂ (Names book) swept added ∧
      (∀ row ∈ db.mandates, committedTotal db' row.id
          + (book.rows.map fun h =>
              if h.mandateId = row.id ∧ h.refId ∈ swept ∧ h.phase = .held then h.amountMinor
              else 0).sum
        = committedTotal reached row.id) ∧
      ∀ (now' : Nat → Nat → Time) (traceId' : Nat → String) (ttl : Int),
        now' 0 0 - seconds ttl ≤ cutoff → Ledger.sweep P now' traceId' ttl db' = .ok ([], db') := by
  intro reached cutoff swept
  obtain ⟨⟨book, kept, -⟩, same⟩ := Operation.run_budgeted P (budgeted_of_empty empty) proper
  obtain ⟨db', done, sweeping⟩ := kept.sweepAll P (fun i => now (i + 1)) traceId
    (nodup_listReservationsOlderThan reached cutoff) 0
  obtain ⟨added, entries, named⟩ := sweeping.named
  have running' : db'.integrity.halted = false := by rw [sweeping.integrity, running]
  refine ⟨book, db', added, kept, ?_, sweeping.kept, entries, named, ?_, ?_⟩
  · rw [Ledger.sweep, raiseIfHalted_of_running running, ok_bind]
    exact done
  · intro row member
    have plain : ':' ∉ row.id.toList := row.plainId
    rw [kept.committedTotal_eq plain, sweeping.kept.committedTotal_eq plain]
    exact Book.committed_expireAll _ _
  · intro now' traceId' ttl earlier
    rw [Ledger.sweep, raiseIfHalted_of_running running', ok_bind]
    exact sweepAll_of_none_held P _ traceId' 0 (sweeping.done kept earlier)

/-- Of two reservations the older one has expired when the sweep comes; the
other is left, and the next sweep finds nothing. -/
theorem sweep_expires_overdue_fixture :
    ∃ db', Ledger.sweep Fixture.platform (fun _ _ => 301000000) (fun _ => "trc_1") 300
        (Operation.run Fixture.platform Fixture.database
          [.reserve "mdt_1" 420000 "ik_1" fun _ => 0,
            .reserve "mdt_1" 285000 "ik_2" fun _ => 100000000]) = .ok (["ik_1"], db') ∧
      Ledger.sweep Fixture.platform (fun _ _ => 301000000) (fun _ => "trc_2") 300 db'
        = .ok ([], db') := by
  obtain ⟨book, db', added, -, done, -, -, -, -, after⟩ := sweep_expires_overdue Fixture.platform
    Fixture.database rfl
    [.reserve "mdt_1" 420000 "ik_1" fun _ => 0, .reserve "mdt_1" 285000 "ik_2" fun _ => 100000000]
    (by decide +kernel) (by decide +kernel) (fun _ _ => 301000000) (fun _ => "trc_1") 300
  have taken : ((Operation.run Fixture.platform Fixture.database
      [.reserve "mdt_1" 420000 "ik_1" fun _ => 0,
        .reserve "mdt_1" 285000 "ik_2" fun _ => 100000000]).listReservationsOlderThan
        (301000000 - seconds 300)).filter (fun ref => stateOfRef (Operation.run Fixture.platform
          Fixture.database [.reserve "mdt_1" 420000 "ik_1" fun _ => 0,
            .reserve "mdt_1" 285000 "ik_2" fun _ => 100000000]) ref = some .held) = ["ik_1"] := by
    decide +kernel
  rw [taken] at done
  exact ⟨db', done, after (fun _ _ => 301000000) (fun _ => "trc_2") 300 (le_refl _)⟩

end Actl.Ledger
