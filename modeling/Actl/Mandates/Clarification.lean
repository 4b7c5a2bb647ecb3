import Actl.Mandates.MoneyEvidence

/-!
# Drafts and clarifications

What `build_draft` is to do with a conversation: make a draft of it when every required
slot is filled and all money evidence is verified, and otherwise ask for the first of
what is missing (`Answers`). It does so, as long as verification raises nothing, except
for the bound on a unit: evidence for it that is not verified is dropped when nothing
else is missing (`buildDraft_answers_iff`).
-/

set_option autoImplicit false

namespace Actl.Mandates

/-! ## What is to be answered -/

/-- The evidence, if there is any, gives an amount. -/
def Verifies (conversationText : String) (evidence : Option MoneyEvidence) : Prop :=
  ∀ e ∈ evidence, ∃ amount, verifyMoneyEvidence conversationText e = .ok (some amount)

/-- The slot is absent, or its evidence is not verified. -/
def Unmet (conversationText : String) (slots : MandateDraftSlots) (slot : Slot) : Prop :=
  slots.present slot = false ∨
    (slot = .maxTotalMinor ∧ ¬ Verifies conversationText slots.maxTotalMinorEvidence)

/-- Every required slot is filled and all money evidence is verified. -/
structure Complete (conversationText : String) (slots : MandateDraftSlots) : Prop where
  met : ∀ slot ∈ requiredSlots, ¬ Unmet conversationText slots slot
  unit : Verifies conversationText slots.maxUnitMinorEvidence

/-- The draft carries the slots and the verified amounts. -/
structure Carries (conversationText : String) (slots : MandateDraftSlots) (draft : MandateDraft) :
    Prop where
  same : draft.slots = slots
  total : verified conversationText slots.maxTotalMinorEvidence = .ok (some draft.maxTotalMinor)
  unit : verified conversationText slots.maxUnitMinorEvidence = .ok draft.maxUnitMinor

/-- The clarification lists the required slots that are unmet, in their order, and asks
about the first of them in the order of the questions. -/
structure Asks (conversationText : String) (slots : MandateDraftSlots)
    (clarification : ClarificationNeeded) : Prop where
  listed : ∀ slot, slot ∈ clarification.missingSlots ↔
    slot ∈ requiredSlots ∧ Unmet conversationText slots slot
  ordered : clarification.missingSlots.Sublist requiredSlots
  distinct : clarification.missingSlots.Nodup
  question : ∃ slot front back, questionPriority = front ++ slot :: back ∧
    slot ∈ clarification.missingSlots ∧ (∀ earlier ∈ front, earlier ∉ clarification.missingSlots) ∧
    clarification.questions = [slotQuestion slot]

/-- A draft is made of what is complete, and a question is asked otherwise. -/
structure Answers (conversationText : String) (slots : MandateDraftSlots) : Prop where
  drafts : Complete conversationText slots →
    ∃ draft, buildDraft conversationText slots = .ok (.draft draft) ∧
      Carries conversationText slots draft
  asks : ¬ Complete conversationText slots →
    ∃ clarification, buildDraft conversationText slots = .ok (.clarification clarification) ∧
      Asks conversationText slots clarification

/-- No evidence raises: what is quoted can be computed with. -/
def NothingRaises (conversationText : String) (evidence : Option MoneyEvidence) : Prop :=
  ∀ e ∈ evidence, Quoted conversationText e → Computable e.numeralText.toList

/-! ## Verification -/

section Verification

variable {conversationText : String} {slots : MandateDraftSlots}

theorem verified_ok_iff (evidence : Option MoneyEvidence) :
    (∃ result, verified conversationText evidence = .ok result)
      ↔ NothingRaises conversationText evidence := by
  cases evidence with
  | none => simp [verified, NothingRaises]
  | some e => simp only [verified, NothingRaises, Option.mem_def, Option.some.injEq, forall_eq',
      verifyMoneyEvidence_ok_iff]

theorem verifies_iff {evidence : Option MoneyEvidence} {result : Option Nat}
    (done : verified conversationText evidence = .ok result) :
    Verifies conversationText evidence ↔ ¬ (evidence.isSome ∧ result = none) := by
  cases evidence with
  | none => simp [Verifies]
  | some e =>
      rw [verified] at done
      simp only [Verifies, Option.mem_def, Option.some.injEq, forall_eq', done, Except.ok.injEq,
        Option.isSome_some, true_and, ← Option.ne_none_iff_exists', ne_eq]

/-- The missing slots, with the total folded in when its evidence gives no amount. -/
def foldedMissing (slots : MandateDraftSlots) (total : Option Nat) : List Slot :=
  if slots.maxTotalMinorEvidence.isSome ∧ total = none ∧
      .maxTotalMinor ∉ missingRequiredSlots slots then
    missingRequiredSlots slots ++ [.maxTotalMinor]
  else missingRequiredSlots slots

/-- The slots that are missing in the end are the required ones that are unmet. -/
theorem mem_foldedMissing {total : Option Nat}
    (totalDone : verified conversationText slots.maxTotalMinorEvidence = .ok total) (slot : Slot) :
    slot ∈ foldedMissing slots total
      ↔ slot ∈ requiredSlots ∧ Unmet conversationText slots slot := by
  have absent : ∀ slot, slot ∈ missingRequiredSlots slots ↔
      slot ∈ requiredSlots ∧ slots.present slot = false := by
    intro slot
    simp [missingRequiredSlots]
  rw [Unmet, verifies_iff totalDone, not_not, foldedMissing]
  split
  next folded =>
    rw [List.mem_append, absent, List.mem_singleton]
    constructor
    · rintro (⟨required, here⟩ | rfl)
      · exact ⟨required, .inl here⟩
      · exact ⟨by decide, .inr ⟨rfl, folded.1, folded.2.1⟩⟩
    · rintro ⟨required, here | ⟨rfl, -⟩⟩
      · exact .inl ⟨required, here⟩
      · exact .inr rfl
  next kept =>
    rw [absent]
    refine and_congr_right fun required => ⟨.inl, ?_⟩
    rintro (here | ⟨rfl, some, none⟩)
    · exact here
    · have listed : Slot.maxTotalMinor ∈ missingRequiredSlots slots := by
        by_contra fresh
        exact kept ⟨some, none, fresh⟩
      exact ((absent _).mp listed).2

/-- The missing slots in their order. -/
def orderedMissing (slots : MandateDraftSlots) (total : Option Nat) : List Slot :=
  requiredSlots.filter fun slot => slot ∈ foldedMissing slots total

/-- What the two verifications give decides what `build_draft` makes of the slots. -/
theorem buildDraft_eq {total unit : Option Nat}
    (totalDone : verified conversationText slots.maxTotalMinorEvidence = .ok total)
    (unitDone : verified conversationText slots.maxUnitMinorEvidence = .ok unit) :
    buildDraft conversationText slots =
      if foldedMissing slots total ≠ [] then
        .ok (.clarification ⟨orderedMissing slots total, nextQuestions (orderedMissing slots total),
          slots, total⟩)
      else total.elim (.error .assertionError) fun amount => .ok (.draft ⟨slots, amount, unit⟩) := by
  rw [buildDraft, totalDone, Foundation.ok_bind, unitDone, Foundation.ok_bind]
  cases total <;> rfl

theorem mem_orderedMissing {total : Option Nat}
    (totalDone : verified conversationText slots.maxTotalMinorEvidence = .ok total) (slot : Slot) :
    slot ∈ orderedMissing slots total
      ↔ slot ∈ requiredSlots ∧ Unmet conversationText slots slot := by
  rw [orderedMissing, List.mem_filter, decide_eq_true_eq, mem_foldedMissing totalDone]
  exact ⟨fun here => here.2, fun here => ⟨here.1, here⟩⟩

/-- Every required slot has its place in the order of the questions. -/
theorem questionPriority_complete : ∀ slot ∈ requiredSlots, slot ∈ questionPriority := by
  decide

/-- The question is about the first slot that is missing. -/
theorem nextQuestions_first {missing : List Slot} {slot : Slot} (member : slot ∈ missing)
    (asked : slot ∈ questionPriority) :
    ∃ slot front back, questionPriority = front ++ slot :: back ∧ slot ∈ missing ∧
      (∀ earlier ∈ front, earlier ∉ missing) ∧ nextQuestions missing = [slotQuestion slot] := by
  unfold nextQuestions
  cases first : questionPriority.find? fun slot => slot ∈ missing with
  | none =>
      have never := List.find?_eq_none.mp first slot asked
      exact absurd (decide_eq_true member) never
  | some found =>
      obtain ⟨here, front, back, split, others⟩ := List.find?_eq_some_iff_append.mp first
      exact ⟨found, front, back, split, of_decide_eq_true here,
        fun earlier member => by simpa using others earlier member, rfl⟩

/-- A slot that is missing makes for a clarification that asks for it. -/
theorem asks_of_unmet {total unit : Option Nat} {slot : Slot}
    (totalDone : verified conversationText slots.maxTotalMinorEvidence = .ok total)
    (unitDone : verified conversationText slots.maxUnitMinorEvidence = .ok unit)
    (required : slot ∈ requiredSlots) (unmet : Unmet conversationText slots slot) :
    ∃ clarification, buildDraft conversationText slots = .ok (.clarification clarification) ∧
      Asks conversationText slots clarification := by
  have folded := (mem_foldedMissing totalDone slot).mpr ⟨required, unmet⟩
  have listed := (mem_orderedMissing totalDone slot).mpr ⟨required, unmet⟩
  refine ⟨_, (buildDraft_eq totalDone unitDone).trans (if_pos (List.ne_nil_of_mem folded)), ?_⟩
  exact
    { listed := mem_orderedMissing totalDone
      ordered := List.filter_sublist
      distinct := List.Nodup.filter _ (by decide)
      question := nextQuestions_first listed (questionPriority_complete slot required) }

/-- When no required slot is missing, there is a draft with the amounts verified. -/
theorem drafts_of_met {total unit : Option Nat}
    (totalDone : verified conversationText slots.maxTotalMinorEvidence = .ok total)
    (unitDone : verified conversationText slots.maxUnitMinorEvidence = .ok unit)
    (met : ∀ slot ∈ requiredSlots, ¬ Unmet conversationText slots slot) :
    ∃ draft, buildDraft conversationText slots = .ok (.draft draft) ∧
      Carries conversationText slots draft := by
  have empty : foldedMissing slots total = [] := by
    rw [List.eq_nil_iff_forall_not_mem]
    intro slot member
    have unmet := (mem_foldedMissing totalDone slot).mp member
    exact met slot unmet.1 unmet.2
  have filled := met .maxTotalMinor (by decide)
  rw [Unmet, verifies_iff totalDone, not_not, not_or] at filled
  have given : slots.maxTotalMinorEvidence.isSome = true :=
    Bool.eq_true_of_not_eq_false filled.1
  obtain ⟨amount, rfl⟩ := Option.ne_none_iff_exists'.mp fun nothing =>
    filled.2 ⟨rfl, given, nothing⟩
  exact ⟨_, (buildDraft_eq totalDone unitDone).trans (if_neg (not_not.mpr empty)), rfl, totalDone,
    unitDone⟩

/-- Every input is answered as it is to be, exactly when no evidence raises and evidence
for the bound on a unit is verified, or a required slot is asked for anyway. -/
theorem buildDraft_answers_iff (conversationText : String) (slots : MandateDraftSlots) :
    Answers conversationText slots ↔
      NothingRaises conversationText slots.maxTotalMinorEvidence ∧
        NothingRaises conversationText slots.maxUnitMinorEvidence ∧
        (¬ Verifies conversationText slots.maxUnitMinorEvidence →
          ∃ slot ∈ requiredSlots, Unmet conversationText slots slot) := by
  constructor
  · intro answers
    obtain ⟨result, done⟩ : ∃ result, buildDraft conversationText slots = .ok result := by
      by_cases complete : Complete conversationText slots
      · obtain ⟨draft, done, -⟩ := answers.drafts complete
        exact ⟨_, done⟩
      · obtain ⟨clarification, done, -⟩ := answers.asks complete
        exact ⟨_, done⟩
    rw [buildDraft] at done
    obtain ⟨total, totalDone, done⟩ := Foundation.bind_eq_ok.mp done
    obtain ⟨unit, unitDone, -⟩ := Foundation.bind_eq_ok.mp done
    refine ⟨(verified_ok_iff _).mp ⟨_, totalDone⟩, (verified_ok_iff _).mp ⟨_, unitDone⟩, ?_⟩
    intro unverified
    obtain ⟨clarification, -, asks⟩ := answers.asks fun complete => unverified complete.unit
    obtain ⟨slot, -, -, -, member, -⟩ := asks.question
    exact ⟨slot, (asks.listed slot).mp member⟩
  · rintro ⟨totalRaises, unitRaises, unitAsked⟩
    obtain ⟨total, totalDone⟩ := (verified_ok_iff _).mpr totalRaises
    obtain ⟨unit, unitDone⟩ := (verified_ok_iff _).mpr unitRaises
    refine ⟨fun complete => drafts_of_met totalDone unitDone complete.met, fun incomplete => ?_⟩
    obtain ⟨slot, required, unmet⟩ :
        ∃ slot ∈ requiredSlots, Unmet conversationText slots slot := by
      by_contra met
      refine incomplete ⟨fun slot required unmet => met ⟨slot, required, unmet⟩, ?_⟩
      by_contra unverified
      exact met (unitAsked unverified)
    exact asks_of_unmet totalDone unitDone required unmet

end Verification

namespace Fixture

/-- A stay in Goa, with a budget and a bound on the night that is said to stand where
the date does. -/
def slots : MandateDraftSlots where
  category := some "travel.hotel"
  location := some "Goa"
  checkIn := some "2026-01-10"
  nights := some 2
  rooms := some 1
  currency := some "INR"
  maxTotalMinorEvidence := some ⟨"9000", 13, 17, by decide, by decide⟩
  maxUnitMinorEvidence := some ⟨"4000", 4, 8, by decide, by decide⟩
  guests := none
  refundable := none

/-- The bound on the night is dropped. -/
theorem unit_is_dropped : ¬ Answers "Goa 2 nights 9000 in all, 4000 a night" slots := by
  intro answers
  have incomplete : ¬ Complete "Goa 2 nights 9000 in all, 4000 a night" slots := by
    intro complete
    obtain ⟨amount, read⟩ := complete.unit _ rfl
    have unread : verifyMoneyEvidence "Goa 2 nights 9000 in all, 4000 a night"
        ⟨"4000", 4, 8, by decide, by decide⟩ = .ok none := by decide +kernel
    cases unread.symm.trans read
  obtain ⟨clarification, asked, -⟩ := answers.asks incomplete
  have drafted : buildDraft "Goa 2 nights 9000 in all, 4000 a night" slots
      = .ok (.draft ⟨slots, 900000, none⟩) := by decide +kernel
  cases drafted.symm.trans asked

end Fixture

end Actl.Mandates
