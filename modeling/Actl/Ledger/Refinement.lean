import Actl.Ledger.Book

/-!
# The entries keep the book

`Keeps` relates the store to a book: the entries are the postings of the book's
holds in some order. Balances and reservation states are then read off the book,
and every operation of `Service` carries the relation from the book before to
the book after the same operation on it.
-/

set_option autoImplicit false

namespace Actl.Ledger

open Foundation (Table)

/-! ## Postings -/

/-- An entry without its time. -/
structure Posting where
  movement : LedgerMovement
  refType : RefType
  refId : String
  deriving DecidableEq

def posting (e : LedgerEntryRecord) : Posting :=
  ⟨⟨e.account, e.direction, e.amountMinor⟩, e.refType, e.refId⟩

/-- The two postings of a leg. -/
def Leg.postings (leg : Leg) (mandateId : String) (amountMinor : Int) (refId : String) :
    List Posting :=
  (movements leg.source leg.target mandateId amountMinor).map fun m => ⟨m, leg.refType, refId⟩

def Hold.postings (h : Hold) : List Posting :=
  h.phase.legs.flatMap fun leg => leg.postings h.mandateId h.amountMinor h.refId

theorem postings_addMovements (db : Database) (leg : Leg) (mandateId : String) (amountMinor : Int)
    (refId : String) (now : Nat → Time) :
    (addMovements db (movements leg.source leg.target mandateId amountMinor) leg.refType refId
        now).ledgerEntries.map posting
      = db.ledgerEntries.map posting ++ leg.postings mandateId amountMinor refId := by
  simp [addMovements, movements, Leg.postings, posting]

theorem Hold.refId_of_mem_postings {h : Hold} {p : Posting} (member : p ∈ h.postings) :
    p.refId = h.refId := by
  simp only [Hold.postings, Leg.postings, List.mem_flatMap, List.mem_map] at member
  obtain ⟨leg, -, m, -, rfl⟩ := member
  rfl

theorem Hold.refType_mem_postings (h : Hold) {t : RefType} :
    t ∈ h.postings.map Posting.refType ↔ t ∈ h.phase.legs.map Leg.refType := by
  simp only [Hold.postings, List.map_flatMap, List.mem_flatMap, List.mem_map, Leg.postings,
    movements, List.map_cons, List.map_nil, List.mem_cons, List.not_mem_nil, or_false, or_self]
  exact exists_congr fun leg => and_congr_right fun _ => eq_comm

/-- The postings of a reference are those of its hold. -/
theorem filter_postings (book : Book) (refId : String) :
    (book.rows.flatMap Hold.postings).filter (fun p => p.refId = refId)
      = (book.find? refId).elim [] Hold.postings := by
  have distinct := book.unique Hold.refId (by simp)
  unfold Book.find? Table.get?
  generalize book.rows = rows at distinct
  induction rows with
  | nil => rfl
  | cons h rows ih =>
      rw [List.map_cons, List.nodup_cons] at distinct
      rw [List.flatMap_cons, List.filter_append, ih distinct.2, List.find?_cons]
      by_cases mine : h.refId = refId
      · have own : h.postings.filter (fun p => p.refId = refId) = h.postings :=
          List.filter_eq_self.mpr fun p member => by
            simp [Hold.refId_of_mem_postings member, mine]
        have alone : rows.find? (fun h => h.refId = refId) = none := by
          refine List.find?_eq_none.mpr fun x member => ?_
          simp only [decide_eq_true_eq]
          intro same
          exact distinct.1 (List.mem_map.mpr ⟨x, member, same.trans mine.symm⟩)
        simp [own, alone, mine]
      · have none : h.postings.filter (fun p => p.refId = refId) = [] :=
          List.filter_eq_nil_iff.mpr fun p member => by
            simp [Hold.refId_of_mem_postings member, mine]
        simp [none, mine]

/-! ## The relation -/

/-- The entries of the store are the postings of the book. -/
structure Keeps (db : Database) (book : Book) : Prop where
  entries : (db.ledgerEntries.map posting).Perm (book.rows.flatMap Hold.postings)
  positive : ∀ h ∈ book, 0 < h.amountMinor
  mandates : ∀ h ∈ book, ∃ row ∈ db.mandates, row.id = h.mandateId

/-- Only the entries and the mandate ids matter. -/
theorem Keeps.congr {db db' : Database} {book : Book} (kept : Keeps db book)
    (entries : db'.ledgerEntries = db.ledgerEntries)
    (mandates : ∀ row ∈ db.mandates, ∃ row' ∈ db'.mandates, row'.id = row.id) : Keeps db' book where
  entries := entries ▸ kept.entries
  positive := kept.positive
  mandates h member := by
    obtain ⟨row, present, same⟩ := kept.mandates h member
    obtain ⟨row', present', same'⟩ := mandates row present
    exact ⟨row', present', same'.trans same⟩

theorem Keeps.plain {db : Database} {book : Book} (kept : Keeps db book) {h : Hold}
    (member : h ∈ book) : ':' ∉ h.mandateId.toList := by
  obtain ⟨row, -, same⟩ := kept.mandates h member
  exact same ▸ row.plainId

/-! ### Balances -/

def Posting.effect (acct : String) (p : Posting) : Int :=
  if p.movement.account = acct then signed p.movement.direction p.movement.amountMinor else 0

theorem sum_filter_signed (entries : List LedgerEntryRecord) (acct : String) :
    ((entries.filter fun e => e.account = acct).map fun e => signed e.direction e.amountMinor).sum
      = ((entries.map posting).map (Posting.effect acct)).sum := by
  induction entries with
  | nil => rfl
  | cons e entries ih =>
      by_cases mine : e.account = acct
      · rw [List.filter_cons_of_pos (by simpa using mine), List.map_cons, List.sum_cons, ih]
        simp [Posting.effect, posting, mine]
      · rw [List.filter_cons_of_neg (by simpa using mine), ih]
        simp [Posting.effect, posting, mine]

theorem Leg.sum_effect {mandateId m : String} (plain : ':' ∉ mandateId.toList)
    (plain' : ':' ∉ m.toList) (leg : Leg) (amountMinor : Int) (refId : String) (bucket : Bucket) :
    ((leg.postings m amountMinor refId).map (Posting.effect (account mandateId bucket))).sum
      = if m = mandateId then
          ((if leg.target = bucket then 1 else 0) - (if leg.source = bucket then 1 else 0))
            * amountMinor
        else 0 := by
  simp only [Leg.postings, movements, List.map_cons, List.map_nil, List.sum_cons, List.sum_nil,
    add_zero, Posting.effect, account_inj plain' plain, signed]
  by_cases mine : m = mandateId
  · by_cases source : leg.source = bucket <;> by_cases target : leg.target = bucket <;>
      simp [mine, source, target]
  · simp [mine]

theorem Hold.sum_effect {h : Hold} {mandateId : String} (plain : ':' ∉ mandateId.toList)
    (plain' : ':' ∉ h.mandateId.toList) (bucket : Bucket) :
    (h.postings.map (Posting.effect (account mandateId bucket))).sum
      = if h.mandateId = mandateId then h.phase.weight bucket * h.amountMinor else 0 := by
  simp only [Hold.postings, Phase.weight]
  induction h.phase.legs with
  | nil => simp
  | cons leg legs ih =>
      rw [List.flatMap_cons, List.map_append, List.sum_append, ih, leg.sum_effect plain plain',
        List.map_cons, List.sum_cons, add_mul]
      split <;> simp

theorem Keeps.balance_eq {db : Database} {book : Book} (kept : Keeps db book) {mandateId : String}
    (plain : ':' ∉ mandateId.toList) (bucket : Bucket) :
    balance db (account mandateId bucket) = book.balance mandateId bucket := by
  have effects := (kept.entries.map (Posting.effect (account mandateId bucket))).sum_eq
  have shares : ∀ rows : List Hold, (∀ h ∈ rows, ':' ∉ h.mandateId.toList) →
      ((rows.flatMap Hold.postings).map (Posting.effect (account mandateId bucket))).sum
        = (rows.map fun h =>
            if h.mandateId = mandateId then h.phase.weight bucket * h.amountMinor else 0).sum := by
    intro rows allPlain
    induction rows with
    | nil => rfl
    | cons h rows ih =>
        rw [List.flatMap_cons, List.map_append, List.sum_append, List.map_cons, List.sum_cons,
          Hold.sum_effect plain (allPlain h List.mem_cons_self),
          ih fun x member => allPlain x (List.mem_cons_of_mem h member)]
  calc balance db (account mandateId bucket)
      = ((db.ledgerEntries.map posting).map (Posting.effect (account mandateId bucket))).sum := by
        rw [← sum_filter_signed, balance, netBalance_eq_sum, List.map_map]
        rfl
    _ = book.balance mandateId bucket := by
        rw [effects, shares book.rows fun h member => kept.plain member]
        rfl

theorem Keeps.committedTotal_eq {db : Database} {book : Book} (kept : Keeps db book)
    {mandateId : String} (plain : ':' ∉ mandateId.toList) :
    committedTotal db mandateId = book.committed mandateId := by
  rw [committedTotal, kept.balance_eq plain, kept.balance_eq plain, Book.committed_eq]

/-! ### States -/

theorem Keeps.postings_of_ref {db : Database} {book : Book} (kept : Keeps db book)
    (refId : String) :
    ((db.listForRefId refId).map posting).Perm ((book.find? refId).elim [] Hold.postings) := by
  rw [← filter_postings]
  have filtered := kept.entries.filter fun p => p.refId = refId
  rw [List.filter_map] at filtered
  exact filtered

/-- The reference types of a reservation are those of the legs of its hold. -/
theorem Keeps.refType_mem {db : Database} {book : Book} (kept : Keeps db book) {refId : String}
    {t : RefType} :
    t ∈ (db.listForRefId refId).map LedgerEntryRecord.refType ↔
      ∃ h, book.find? refId = some h ∧ t ∈ h.phase.legs.map Leg.refType := by
  have types := ((kept.postings_of_ref refId).map Posting.refType).mem_iff (a := t)
  rw [List.map_map] at types
  have same : (Posting.refType ∘ posting) = LedgerEntryRecord.refType := rfl
  rw [same] at types
  rw [types]
  cases book.find? refId with
  | none => simp
  | some h =>
      simp only [Option.elim_some, h.refType_mem_postings, Option.some.injEq, exists_eq_left']

theorem Keeps.listForRefId_eq_nil {db : Database} {book : Book} (kept : Keeps db book)
    {refId : String} : db.listForRefId refId = [] ↔ book.find? refId = none := by
  have same := kept.postings_of_ref refId
  cases found : book.find? refId with
  | none =>
      rw [found] at same
      simpa using same.eq_nil
  | some h =>
      rw [found] at same
      refine ⟨fun empty => ?_, fun absent => by cases absent⟩
      rw [empty] at same
      have none := same.symm.eq_nil
      cases phase : h.phase <;> simp [Hold.postings, Leg.postings, movements, phase, Phase.legs] at none

theorem Keeps.stateOfRef_eq {db : Database} {book : Book} (kept : Keeps db book) (refId : String) :
    stateOfRef db refId = (book.find? refId).map fun h => h.phase.state := by
  unfold stateOfRef stateOf
  simp only [kept.refType_mem]
  cases book.find? refId with
  | none => simp
  | some h => cases phase : h.phase <;> simp [phase, Phase.legs, Phase.state]

theorem Keeps.exists_hold {db : Database} {book : Book} (kept : Keeps db book) {refId : String}
    {state : ReservationState} (known : stateOfRef db refId = some state) :
    ∃ h ∈ book, h.refId = refId ∧ h.phase.state = state := by
  rw [kept.stateOfRef_eq] at known
  obtain ⟨h, found, same⟩ := Option.map_eq_some_iff.mp known
  obtain ⟨member, ref⟩ := Book.find?_eq_some.mp found
  exact ⟨h, member, ref, same⟩

theorem Keeps.exists_held {db : Database} {book : Book} (kept : Keeps db book) {refId : String}
    (held : stateOfRef db refId = some .held) :
    ∃ h ∈ book, h.refId = refId ∧ h.phase = .held := by
  obtain ⟨h, member, ref, state⟩ := kept.exists_hold held
  refine ⟨h, member, ref, ?_⟩
  cases phase : h.phase <;> simp [phase, Phase.state] at state ⊢

theorem Keeps.stateOfRef_of_mem {db : Database} {book : Book} (kept : Keeps db book) {h : Hold}
    (member : h ∈ book) : stateOfRef db h.refId = some h.phase.state := by
  rw [kept.stateOfRef_eq, Book.find?_eq_some.mpr ⟨member, rfl⟩]
  rfl

theorem Keeps.not_held {db : Database} {book : Book} (kept : Keeps db book) {refId : String}
    (elsewhere : stateOfRef db refId ≠ some .held) : ∀ h ∈ book, h.refId = refId →
      h.phase ≠ .held := by
  intro h member ref phase
  refine elsewhere ?_
  rw [← ref, kept.stateOfRef_of_mem member, phase]
  rfl

/-! ## The operations -/

/-- The reservation of this reference, if there is one, was made for this
mandate and this amount. -/
def Carries (db : Database) (refId mandateId : String) (amountMinor : Int) : Prop :=
  ∀ e ∈ db.listForRefId refId, e.refType = .reservation → e.direction = .debit →
    e.account = account mandateId .reserved ∧ e.amountMinor = amountMinor

instance (db : Database) (refId mandateId : String) (amountMinor : Int) :
    Decidable (Carries db refId mandateId amountMinor) :=
  inferInstanceAs (Decidable (∀ e ∈ db.listForRefId refId, _ → _ → _ ∧ _))

section Operations

variable {db : Database} {book : Book} {mandateId refId : String} {amountMinor : Int}

/-- The entry a hold was opened with. -/
theorem Keeps.reservation_entry (kept : Keeps db book) {h : Hold} (member : h ∈ book) :
    ∃ e ∈ db.listForRefId h.refId, e.refType = .reservation ∧ e.direction = .debit ∧
      e.account = account h.mandateId .reserved ∧ e.amountMinor = h.amountMinor := by
  have found : book.find? h.refId = some h := Book.find?_eq_some.mpr ⟨member, rfl⟩
  have posted : (⟨⟨account h.mandateId .reserved, .debit, h.amountMinor⟩, .reservation, h.refId⟩ :
      Posting) ∈ h.postings := by
    cases phase : h.phase <;> simp [Hold.postings, phase, Phase.legs, Leg.postings, movements]
  have same := kept.postings_of_ref h.refId
  rw [found] at same
  obtain ⟨e, present, image⟩ := List.mem_map.mp (same.mem_iff.mpr posted)
  simp only [posting, Posting.mk.injEq, LedgerMovement.mk.injEq] at image
  exact ⟨e, present, image.2.1, image.1.2.1, image.1.1, image.1.2.2⟩

theorem Keeps.terms_of_carries (kept : Keeps db book)
    (carries : Carries db refId mandateId amountMinor) : book.Terms refId mandateId amountMinor := by
  intro h member ref
  obtain ⟨e, present, type, direction, acct, amount⟩ := kept.reservation_entry member
  obtain ⟨acct', amount'⟩ := carries e (ref ▸ present) type direction
  exact ⟨account_left_inj.mp (acct.symm.trans acct'), amount.symm.trans amount'⟩

/-- Posting one more leg of a hold is moving it on in the book. -/
theorem Keeps.post_leg (kept : Keeps db book) {h : Hold} (member : h ∈ book) (target : Phase)
    (leg : Leg) (onward : target.legs = h.phase.legs ++ [leg]) (now : Nat → Time) :
    Keeps (addMovements db (movements leg.source leg.target h.mandateId h.amountMinor) leg.refType
      h.refId now) (book.advance h.refId h.phase target) := by
  have chosen : ∀ x ∈ book, decide (x.refId = h.refId ∧ x.phase = h.phase) = true ↔ x = h := by
    intro x present
    rw [decide_eq_true_eq]
    exact ⟨fun same => Book.eq_of_refId_eq present member same.1, fun same => by simp [same]⟩
  obtain ⟨before, after, rows, rows'⟩ := Table.modify_split Hold.refId (by simp)
    (fun h => { h with phase := target }) (by simp) member chosen
  have grown : Hold.postings { h with phase := target }
      = h.postings ++ leg.postings h.mandateId h.amountMinor h.refId := by
    simp [Hold.postings, onward]
  refine ⟨?_, ?_, ?_⟩
  · have entries := kept.entries
    rw [rows, List.flatMap_append, List.flatMap_cons] at entries
    rw [postings_addMovements, Book.advance, rows', List.flatMap_append, List.flatMap_cons, grown]
    refine (entries.append_right _).trans ?_
    rw [List.append_assoc, List.append_assoc, List.append_assoc]
    exact List.Perm.append_left _ (List.Perm.append_left _ List.perm_append_comm)
  · intro x present
    obtain ⟨y, old, rfl⟩ := Book.mem_advance.mp present
    split
    · exact kept.positive y old
    · exact kept.positive y old
  · intro x present
    obtain ⟨y, old, rfl⟩ := Book.mem_advance.mp present
    split
    · exact kept.mandates y old
    · exact kept.mandates y old

/-- A reference whose hold is not in the phase to be left stays as it is. -/
theorem advance_eq_self {source target : Phase}
    (elsewhere : ∀ h ∈ book, h.refId = refId → h.phase ≠ source) :
    book.advance refId source target = book :=
  Table.modify_eq_self fun h member => by simpa using elsewhere h member

theorem Keeps.getMandate_of_terms (kept : Keeps db book)
    (terms : book.Terms refId mandateId amountMinor) {h : Hold} (member : h ∈ book)
    (ref : h.refId = refId) : ∃ row, db.getMandate mandateId = some row := by
  obtain ⟨row, present, same⟩ := kept.mandates h member
  exact ⟨row, (Table.get?_eq_some_iff (by simp)).mpr ⟨present, same.trans (terms h member ref).1⟩⟩

theorem plain_of_getMandate {row : MandateRow} (found : db.getMandate mandateId = some row) :
    ':' ∉ mandateId.toList :=
  (Table.get?_mem found).2 ▸ row.plainId

/-- A hold in a given state is moved on by posting the leg with its terms. -/
theorem Keeps.post_leg_of_terms (kept : Keeps db book)
    (terms : book.Terms refId mandateId amountMinor) {h : Hold} (member : h ∈ book)
    (ref : h.refId = refId) (target : Phase) (leg : Leg)
    (onward : target.legs = h.phase.legs ++ [leg]) (now : Nat → Time) :
    Keeps (addMovements db (movements leg.source leg.target mandateId amountMinor) leg.refType
      refId now) (book.advance refId h.phase target) := by
  obtain ⟨rfl, rfl⟩ := terms h member ref
  exact ref ▸ kept.post_leg member target leg onward now

/-- A call for a mandate without a row finds no hold. -/
theorem Keeps.no_hold_of_missing (kept : Keeps db book)
    (terms : book.Terms refId mandateId amountMinor) (missing : db.getMandate mandateId = none) :
    ∀ h ∈ book, h.refId ≠ refId := by
  intro h member ref
  obtain ⟨row, found⟩ := kept.getMandate_of_terms terms member ref
  rw [missing] at found
  cases found

theorem Keeps.capture (kept : Keeps db book) (carries : Carries db refId mandateId amountMinor)
    (now : Nat → Time) :
    Keeps (capture db now mandateId amountMinor refId).2 (book.advance refId .held .captured) := by
  have terms := kept.terms_of_carries carries
  unfold Ledger.capture
  split
  · rename_i missing
    rw [advance_eq_self fun h member ref => (kept.no_hold_of_missing terms missing h member ref).elim]
    exact kept
  · split
    · rename_i state
      rw [advance_eq_self (kept.not_held (by simp [state]))]
      exact kept
    · rename_i state
      obtain ⟨h, member, ref, held⟩ := kept.exists_held state
      have posted := kept.post_leg_of_terms terms member ref .captured
        ⟨.capture, .reserved, .settled⟩ (by rw [held]; rfl) now
      rw [held] at posted
      exact posted
    · rename_i elsewhere
      rw [advance_eq_self (kept.not_held elsewhere)]
      exact kept

theorem Keeps.release (kept : Keeps db book) (carries : Carries db refId mandateId amountMinor)
    (now : Nat → Time) :
    Keeps (release db now mandateId amountMinor refId).2 (book.advance refId .held .released) := by
  have terms := kept.terms_of_carries carries
  unfold Ledger.release
  split
  · rename_i missing
    rw [advance_eq_self fun h member ref => (kept.no_hold_of_missing terms missing h member ref).elim]
    exact kept
  · split
    · rename_i state
      rw [advance_eq_self (kept.not_held (by simp [state]))]
      exact kept
    · rename_i state
      obtain ⟨h, member, ref, held⟩ := kept.exists_held state
      have posted := kept.post_leg_of_terms terms member ref .released
        ⟨.release, .reserved, .available⟩ (by rw [held]; rfl) now
      rw [held] at posted
      exact posted
    · rename_i elsewhere
      rw [advance_eq_self (kept.not_held elsewhere)]
      exact kept

theorem Keeps.reverseSettlement (kept : Keeps db book)
    (carries : Carries db refId mandateId amountMinor) (now : Nat → Time) :
    Keeps (reverseSettlement db now mandateId amountMinor refId).2
      (book.advance refId .captured .reversed) := by
  have terms := kept.terms_of_carries carries
  unfold Ledger.reverseSettlement
  split
  · rename_i missing
    rw [advance_eq_self fun h member ref => (kept.no_hold_of_missing terms missing h member ref).elim]
    exact kept
  · simp only [kept.refType_mem]
    -- What the two tests find is which legs the hold has.
    split
    · rename_i reversed
      obtain ⟨h, found, type⟩ := reversed
      rw [advance_eq_self]
      · exact kept
      · intro x member ref phase
        rw [Book.find?_eq_some.mpr ⟨member, ref⟩] at found
        cases found
        simp [phase, Phase.legs] at type
    · rename_i unreversed
      split
      · rename_i settled
        obtain ⟨h, found, type⟩ := settled
        obtain ⟨member, ref⟩ := Book.find?_eq_some.mp found
        have captured : h.phase = .captured := by
          have open' : RefType.reverse ∉ h.phase.legs.map Leg.refType :=
            fun present => unreversed ⟨h, found, present⟩
          cases phase : h.phase <;> simp [phase, Phase.legs] at type open' ⊢
        have posted := kept.post_leg_of_terms terms member ref .reversed
          ⟨.reverse, .settled, .available⟩ (by rw [captured]; rfl) now
        rw [captured] at posted
        exact posted
      · rename_i unsettled
        rw [advance_eq_self]
        · exact kept
        · intro x member ref phase
          exact unsettled ⟨x, Book.find?_eq_some.mpr ⟨member, ref⟩, by simp [phase, Phase.legs]⟩

theorem Keeps.insert (kept : Keeps db book) {book' : Book}
    (inserted : book.insert? ⟨refId, mandateId, amountMinor, .held⟩ = some book')
    {row : MandateRow} (found : db.getMandate mandateId = some row) (positive : 0 < amountMinor)
    (now : Nat → Time) :
    Keeps (addMovements db (reserveMovements mandateId amountMinor) .reservation refId now)
      book' := by
  have members := fun x => Table.mem_of_insert? inserted (x := x)
  refine ⟨?_, ?_, ?_⟩
  · have posted := postings_addMovements db ⟨.reservation, .available, .reserved⟩ mandateId
      amountMinor refId now
    have fresh : Hold.postings ⟨refId, mandateId, amountMinor, .held⟩
        = Leg.postings ⟨.reservation, .available, .reserved⟩ mandateId amountMinor refId := by
      simp [Hold.postings, Phase.legs]
    rw [Table.rows_of_insert? inserted, List.flatMap_append, List.flatMap_singleton, fresh]
    exact posted ▸ kept.entries.append_right _
  · intro x present
    rcases (members x).mp present with old | rfl
    · exact kept.positive x old
    · exact positive
  · intro x present
    rcases (members x).mp present with old | rfl
    · exact kept.mandates x old
    · exact ⟨row, Table.get?_mem found⟩

theorem reserve_missing (missing : db.getMandate mandateId = none) (maxTotalMinor : Int)
    (now : Nat → Time) :
    reserve db now mandateId amountMinor maxTotalMinor refId = (none, db) := by
  simp [reserve, missing]

theorem Keeps.reserve (kept : Keeps db book) {row : MandateRow}
    (found : db.getMandate mandateId = some row) (positive : 0 < amountMinor)
    (maxTotalMinor : Int) (now : Nat → Time) :
    Keeps (reserve db now mandateId amountMinor maxTotalMinor refId).2
      (book.reserve mandateId amountMinor maxTotalMinor refId) := by
  have plain := plain_of_getMandate found
  simp only [Ledger.reserve, found, Book.reserve, Book.committed_eq, ← kept.balance_eq plain]
  by_cases fresh : db.listForRefId refId = []
  · have absent := kept.listForRefId_eq_nil.mp fresh
    simp only [fresh, ne_eq, not_true_eq_false, if_false]
    split
    · exact kept
    · cases inserted : book.insert? ⟨refId, mandateId, amountMinor, .held⟩ with
      | none => exact absurd absent (Book.insert?_eq_none.mp inserted)
      | some book' => exact kept.insert inserted found positive now
  · have known : book.find? refId ≠ none := fun absent => fresh (kept.listForRefId_eq_nil.mpr absent)
    have refused : book.insert? ⟨refId, mandateId, amountMinor, .held⟩ = none :=
      Book.insert?_eq_none.mpr known
    simp only [fresh, ne_eq, not_false_eq_true, if_true, refused, Option.getD_none, ite_self]
    exact kept

/-! ### The sweeper -/

/-- Every entry the sweeper could read a reservation's terms from has the terms
of its hold. -/
theorem Keeps.reservation_terms (kept : Keeps db book) {h : Hold} (member : h ∈ book)
    {e : LedgerEntryRecord} (present : e ∈ db.listForRefId h.refId)
    (type : e.refType = .reservation) (direction : e.direction = .debit) :
    e.account = account h.mandateId .reserved ∧ e.amountMinor = h.amountMinor := by
  have image := (kept.postings_of_ref h.refId).mem_iff.mp (List.mem_map_of_mem present)
  rw [Book.find?_eq_some.mpr ⟨member, rfl⟩] at image
  have terms : (e.account = account h.mandateId .reserved ∧ e.amountMinor = h.amountMinor) ∧
      e.refId = h.refId := by
    cases phase : h.phase <;>
      simpa [Hold.postings, phase, Phase.legs, Leg.postings, movements, posting, type, direction]
        using image
  exact terms.1

theorem Keeps.find_reservation (kept : Keeps db book) {h : Hold} (member : h ∈ book) :
    ∃ e, (db.listForRefId h.refId).find? (fun e => e.refType = .reservation ∧ e.direction = .debit)
        = some e ∧ e.account = account h.mandateId .reserved ∧ e.amountMinor = h.amountMinor := by
  obtain ⟨e, present, type, direction, -⟩ := kept.reservation_entry member
  cases found : (db.listForRefId h.refId).find?
      (fun e => e.refType = .reservation ∧ e.direction = .debit) with
  | none =>
      have skipped := List.find?_eq_none.mp found e present
      simp [type, direction] at skipped
  | some e' =>
      have kind : e'.refType = .reservation ∧ e'.direction = .debit := by
        simpa using List.find?_some found
      exact ⟨e', rfl, kept.reservation_terms member (List.mem_of_find?_eq_some found) kind.1 kind.2⟩

theorem Keeps.sweepReservation (kept : Keeps db book) (P : Platform) (now : Nat → Time)
    (traceId refId : String) :
    ∃ expired db', sweepReservation P db now traceId refId = .ok (expired, db') ∧
      Keeps db' (book.advance refId .held .expired) ∧ db'.mandates = db.mandates := by
  unfold Ledger.sweepReservation
  by_cases state : stateOfRef db refId = some .held
  · obtain ⟨h, member, rfl, held⟩ := kept.exists_held state
    obtain ⟨e, found, acct, amount⟩ := kept.find_reservation member
    obtain ⟨row, present, same⟩ := kept.mandates h member
    have row_found : db.getMandate h.mandateId = some row :=
      (Table.get?_eq_some_iff (by simp)).mpr ⟨present, same⟩
    have swept := kept.post_leg member .expired
      ⟨.expire, .reserved, .available⟩ (by rw [held]; rfl) now
    rw [held] at swept
    unfold stateOfRef at state
    simp only [state, found, acct, mandateIdFromAccount_account (kept.plain member), row_found,
      amount, ne_eq, not_true_eq_false, if_false]
    exact ⟨true, _, rfl, swept.congr rfl fun row present => ⟨row, present, rfl⟩, rfl⟩
  · rw [advance_eq_self (kept.not_held state)]
    unfold stateOfRef at state
    simp only [state, ne_eq, not_false_eq_true, if_true]
    exact ⟨false, db, rfl, kept, rfl⟩

end Operations

end Actl.Ledger
