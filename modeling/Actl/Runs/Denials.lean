import Actl.Runs.Repetition

/-!
# Denials for a stale price

`STALE_PRICE` is a code of the merchant's checks, of the policy and of the gate. A
proposal that passes the checks and the policy finds its quote at the catalog's version,
and the gate compares with the same version: a call that has the store to itself is then
not answered `STALE_PRICE` (`answer_of_allowed`).
-/

set_option autoImplicit false

namespace Actl

open Foundation (bind_eq_error bind_eq_ok)
open Foundation.Code (concludes_bind_ok concludes_pure)
open Foundation.Program (Concludes)
open Gate (MoneyActionRequest MoneyActionResult deny)
open Mandates (Mandate)
open Policy (ReasonCode)
open Saga (ProposeArgs Proposal SagaSnapshot proposeOrder)

/-! ## What the gate denies -/

section Gates

variable {P : Platform} {req : MoneyActionRequest} {db db' : Database}

theorem check_denies {ok : Bool} {code code' : ReasonCode}
    (denied : Gate.check ok code = .error (.deny code')) : code' = code := by
  unfold Gate.check at denied
  split at denied
  · cases denied
  · cases denied
    rfl

theorem g1_code {now : Time} {code : ReasonCode}
    (denied : Gate.g1 P req now db = .error (.deny code)) : code ≠ .stalePrice := by
  unfold Gate.g1 at denied
  split at denied
  · cases denied
    decide
  · dsimp only at denied
    rcases bind_eq_error.mp denied with one | ⟨_, -, denied⟩
    · rw [check_denies one]
      decide
    rcases bind_eq_error.mp denied with two | ⟨_, -, denied⟩
    · rw [check_denies two]
      decide
    rcases bind_eq_error.mp denied with three | ⟨_, -, denied⟩
    · rw [check_denies three]
      decide
    split at denied
    · rcases bind_eq_error.mp denied with four | ⟨_, -, denied⟩
      · rw [check_denies four]
        decide
      rcases bind_eq_error.mp denied with five | ⟨_, -, denied⟩
      · rw [check_denies five]
        decide
      · cases denied
    · cases denied
      decide

theorem g2g3_code {mandate : Mandate} {now : Time} {code : ReasonCode}
    (decided : ∀ decision,
      db.decisions.get? Policy.DecisionRecord.decisionId req.decisionId = some decision →
        decision.verdict = .allow)
    (denied : Gate.g2g3 req mandate now db = .error (.deny code)) : code ≠ .stalePrice := by
  unfold Gate.g2g3 at denied
  split at denied
  · cases denied
    decide
  · next decision found =>
    rcases bind_eq_error.mp denied with one | ⟨_, -, denied⟩
    · rw [check_denies one]
      decide
    rcases bind_eq_error.mp denied with two | ⟨_, -, denied⟩
    · rw [check_denies two]
      decide
    rcases bind_eq_error.mp denied with three | ⟨_, -, denied⟩
    · rw [check_denies three]
      decide
    rw [if_neg (not_not.mpr (decided decision found))] at denied
    cases denied

theorem g5_code {now : Time} {code : ReasonCode}
    (fresh : ∀ quote, db.quotes.get? QuoteRecord.id req.quoteId = some quote →
      quote.catalogVersion = db.catalogVersion)
    (denied : Gate.g5 req now db = .error (.deny code)) : code ≠ .stalePrice := by
  unfold Gate.g5 at denied
  split at denied
  · cases denied
    decide
  · next quote found =>
    rcases bind_eq_error.mp denied with one | ⟨_, -, denied⟩
    · rw [check_denies one]
      decide
    · rw [Gate.check, if_pos (decide_eq_true (fresh quote found))] at denied
      cases denied

theorem markExecuting_code {row : MandateRow} {now : Time} {code : ReasonCode} :
    Gate.markExecuting row now db ≠ .error (.deny code) := by
  unfold Gate.markExecuting
  split
  · split
    · exact nofun
    · exact nofun
  · exact nofun

/-- With an allowing decision and a quote at the catalog's version the gates do not deny
for a stale price. -/
theorem attempt_code {key : String} {now : Nat → Time} {result : MoneyActionResult}
    (decided : ∀ decision,
      db.decisions.get? Policy.DecisionRecord.decisionId req.decisionId = some decision →
        decision.verdict = .allow)
    (fresh : ∀ quote, db.quotes.get? QuoteRecord.id req.quoteId = some quote →
      quote.catalogVersion = db.catalogVersion)
    (done : Gate.attemptG1ThroughG5 P req key now db = .ok (some result, db')) :
    result.reasonCode ≠ .stalePrice := by
  unfold Gate.attemptG1ThroughG5 at done
  split at done
  · cases done
  · next code denied =>
    cases done
    unfold Gate.runG1ThroughG5 at denied
    rcases bind_eq_error.mp denied with one | ⟨row, -, denied⟩
    · exact g1_code one
    rcases bind_eq_error.mp denied with two | ⟨_, -, denied⟩
    · exact g2g3_code decided two
    rcases bind_eq_error.mp denied with four | ⟨_, -, denied⟩
    · have same : code = .budgetExceeded := check_denies four
      simp [deny, same]
    rcases bind_eq_error.mp denied with five | ⟨_, -, denied⟩
    · refine g5_code (fun quote found => ?_) five
      have kept : db.Frame (Ledger.reserve db (fun i => now (i + 2)) req.mandateId req.amountMinor
          row.mandate.bounds.maxTotalMinor key).2 [.orders, .sagas, .keys, .catalog] :=
        frame_reserve ..
      obtain ⟨quotes, -, version⟩ := by simpa only [Prod.mk.injEq] using kept.catalog
      rw [quotes] at found
      rw [version]
      exact fresh quote found
    rcases bind_eq_error.mp denied with marked | ⟨_, -, denied⟩
    · exact absurd marked markExecuting_code
    · cases denied
  · cases done

end Gates

/-! ## A quote at the catalog's version -/

section Fresh

variable {P : Platform} {allowed : Input → Prop} {w w' : World} {orderId : String}

/-- The decision an allowed proposal goes on with allows it. -/
theorem proposeOrder_decision {args : ProposeArgs} {decisionId : String} {now : Nat → Time}
    {db db' : Database} {req : MoneyActionRequest}
    (done : proposeOrder P args decisionId now db = .ok (.allowed req, db')) :
    ∃ decision, db'.decisions.get? Policy.DecisionRecord.decisionId req.decisionId = some decision ∧
      decision.verdict = .allow := by
  unfold proposeOrder at done
  split at done
  · cases done
  · dsimp only at done
    split at done
    · cases done
    · next decisions inserted =>
      split at done
      · next allow =>
        cases done
        exact ⟨_, (Foundation.Table.get?_eq_some_iff (by simp)).mpr
          ⟨(Foundation.Table.mem_of_insert? inserted).mpr (.inr rfl), rfl⟩, allow⟩
      · cases done

theorem proposeOrder_mandates {args : ProposeArgs} {decisionId : String} {now : Nat → Time}
    {db db' : Database} {proposal : Proposal}
    (done : proposeOrder P args decisionId now db = .ok (proposal, db')) :
    db'.mandates = db.mandates := by
  unfold proposeOrder at done
  split at done
  · cases done
    rfl
  · dsimp only at done
    split at done
    · cases done
    · split at done
      · cases done
        rfl
      · cases done
        rfl

theorem openSaga_keeps {req : MoneyActionRequest} {key : String} {db db' : Database}
    {existing : Option SagaRecord} (done : Saga.openSaga req key db = .ok (existing, db')) :
    db'.decisions = db.decisions ∧ db'.quotes = db.quotes ∧
      db'.catalogVersion = db.catalogVersion := by
  unfold Saga.openSaga at done
  split at done
  · cases done
    exact ⟨rfl, rfl, rfl⟩
  · obtain ⟨db₁, added, rest⟩ := bind_eq_ok.mp done
    cases rest
    unfold Database.addSaga at added
    split at added
    · split at added
      · cases added
        exact ⟨rfl, rfl, rfl⟩
      · cases added
    · cases added

/-- The code a purchase is denied with is the gate's. -/
theorem beginPurchase_code {req : MoneyActionRequest} {answer : SagaSnapshot} {code : ReasonCode}
    (ended : Concludes (execute P) allowed (beginPurchase P req orderId) w (.ok answer) w')
    (denied : answer.reasonCode = some code) :
    ∃ db middle result, Saga.openSaga req (req.key P) w.db = .ok (none, db) ∧
      Concludes (execute P) allowed (executeMoneyAction P req orderId) { w with db } (.ok result)
        middle ∧ result.reasonCode = code := by
  obtain ⟨existing, opened, first, rest⟩ := concludes_bind_ok.mp ended
  obtain ⟨input, -, answered, rfl⟩ := concludes_issue.mp first
  simp only [execute] at answered rest
  rcases w.transaction_cases input.dbError (Saga.openSaga req (req.key P)) with
    ⟨failure, done, -⟩ | ⟨value, db, -, ran, done⟩
  · rw [done] at answered
    cases answered
  rw [done] at answered rest
  cases answered
  cases existing with
  | some saga =>
      obtain ⟨same, -⟩ := concludes_pure.mp rest
      rw [Except.ok.inj same] at denied
      cases denied
  | none =>
      obtain ⟨result, middle, gated, rest⟩ := concludes_bind_ok.mp rest
      obtain ⟨final, last, -, rest⟩ := concludes_bind_ok.mp rest
      obtain ⟨same, -⟩ := concludes_pure.mp rest
      rw [Except.ok.inj same] at denied
      refine ⟨db, middle, result, ran, gated, ?_⟩
      simp only [Saga.snapshot] at denied
      split at denied
      · cases denied
      · exact Option.some.inj denied

/-- A proposal that the policy allows is not answered `STALE_PRICE`. -/
theorem answer_of_allowed {args : ProposeArgs} {row : MandateRow} {quote : QuoteRecord}
    {item : CatalogItemRecord} {now : Time} {result : Except Failure HandlerResult}
    (passed : Derived P args now w.db row quote item)
    (allows : ∀ input, Undisturbed row.mandate w.db input →
      (decisionFor P (input.ids 0) (input.now 0) row quote item w.db).verdict = .allow)
    (ended : Concludes (execute P) (Undisturbed row.mandate w.db)
      (handleOrderPropose P args orderId) w result w') :
    result ≠ .ok (.reject .stalePrice) := by
  rintro rfl
  obtain ⟨input, proposal, db, calm, done, rest⟩ := handleOrderPropose_undisturbed ended
  rcases proposeOrder_cases done with ⟨code, failed, -, -⟩ | ⟨row', quote', item', found, decision⟩
  · rw [deriveIntent_of_unexpired fun row' found => ?_, passed.deriveIntent_eq] at failed
    · cases failed
    · rw [passed.foundMandate] at found
      cases found
      exact ⟨passed.unexpired, (calm.valid 0 0).2⟩
  obtain ⟨rfl, rfl, rfl⟩ := passed.unique found
  have allow := allows input calm
  rcases decision with ⟨-, rfl⟩ | ⟨denied, -⟩
  · obtain ⟨decision, decided, verdict⟩ := proposeOrder_decision done
    have within := Policy.evaluate_allow_iff_withinBounds.mp allow
    obtain ⟨quotes, -, version⟩ := by
      simpa only [Prod.mk.injEq] using (proposeOrder_ok done).catalog
    obtain ⟨began, middle, begins, rest⟩ := concludes_bind_ok.mp rest
    have named : began.reasonCode = some .stalePrice := by
      split at rest
      · cases (concludes_pure.mp rest).1
      · obtain ⟨same, -⟩ := concludes_pure.mp rest
        have code := HandlerResult.reject.inj (Except.ok.inj same)
        cases reason : began.reasonCode with
        | none =>
            rw [reason] at code
            cases code
        | some code' =>
            rw [reason] at code
            rw [show code' = .stalePrice from code.symm]
    obtain ⟨opened, last, result, opens, executed, coded⟩ := beginPurchase_code begins named
    obtain ⟨-, now', attempt⟩ := executeMoneyAction_denied executed (by rw [coded]; decide)
    obtain ⟨decisions, quotes', version'⟩ := openSaga_keeps opens
    refine attempt_code (fun decision' found' => ?_) (fun pinned found' => ?_) attempt coded
    · rw [decisions, decided] at found'
      cases found'
      exact verdict
    · have same : w.db.quotes.get? QuoteRecord.id args.quoteId = some pinned := by
        rw [← quotes, ← quotes']
        exact found'
      rw [passed.foundQuote] at same
      cases same
      rw [version', version]
      exact within.fresh
  · exact denied allow

end Fresh

end Actl
