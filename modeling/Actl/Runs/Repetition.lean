import Actl.Foundation.Sequential
import Actl.Effects.Actions
import Actl.Effects.Proposals
import Actl.Runs.ProposalBounds

/-!
# A proposal that is repeated

`handle_order_propose` looks at the budget before it looks at the saga. A repeated
proposal is therefore decided again, against a ledger that has the first one's own
reservation in it, and a saga that was denied has kept only the name of its step,
not the code of the denial. The repetition gives the same answer exactly when
neither matters (`repetition_same_iff`); it never adds an entry to the ledger or an
order.
-/

set_option autoImplicit false

namespace Actl

open Foundation (Program)
open Foundation.Program (Concludes)
open Foundation.Code (ConfinedCode confined_pure confined_throw confined_perform confined_bind
  confined_tryCatch confined_outcome concludes_pure concludes_throw concludes_perform concludes_outcome
  concludes_bind_ok concludes_bind_cases concludes_tryCatch)
open Policy (ReasonCode InWindow)
open Gate (MoneyActionRequest MoneyActionResult)
open Saga (ProposeArgs Proposal SagaSnapshot snapshot deriveIntent)

/-! ## What a proposal leaves alone -/

def Action.sparesCatalog : Action → Bool
  | .createQuote _ | .mutatePrice _ | .upsertItem _ => false
  | _ => true

/-- The action leaves quotes, items and the version of the catalog alone. -/
def SparesCatalog (action : Action) : Prop := action.sparesCatalog = true

theorem SparesCatalog.mem_spares {action : Action} (fine : SparesCatalog action) :
    .catalog ∈ action.spares := by
  refine Action.mem_spares.mpr ?_
  cases action with
  | createQuote args => cases fine
  | mutatePrice args => cases fine
  | upsertItem item => cases fine
  | _ => simp [Action.writes]

section Confined

variable {P : Platform} {α : Type}

theorem confined_issue {action : Action} (fine : SparesCatalog action) :
    ConfinedCode SparesCatalog (issue action) := confined_perform fine _

theorem confined_retry {maxAttempts : Nat} {retryOn : Failure → Bool} {body : Prog α}
    (confined : ConfinedCode SparesCatalog body) (remaining : Nat) :
    ConfinedCode SparesCatalog (retryRemaining maxAttempts retryOn body remaining) := by
  induction remaining with
  | zero => exact confined_throw _
  | succ remaining ih =>
      refine confined_tryCatch confined fun failure => ?_
      split
      · split
        · exact confined_throw _
        · exact ih
      · exact confined_throw _

theorem confined_awaitPolls (key : String) (remaining : Nat) :
    ConfinedCode SparesCatalog (awaitPolls key remaining) := by
  induction remaining with
  | zero => exact confined_throw _
  | succ remaining ih =>
      refine confined_bind (confined_issue rfl) fun found => ?_
      cases found with
      | some order => exact confined_pure _
      | none => exact ih

theorem confined_createProviderOrder (args : Payments.OrderArgs) :
    ConfinedCode SparesCatalog (createProviderOrder P args) := by
  have awaited : ConfinedCode SparesCatalog (do
      let order ← awaitInFlightCompletion (args.key P)
      return (order, true) : Prog (OrderRecord × Bool)) :=
    confined_bind (confined_awaitPolls _ _) fun _ => confined_pure _
  have created : ConfinedCode SparesCatalog (callWithRetry P (.createOrder args)) := by
    refine confined_retry ?_ _
    exact confined_issue rfl
  refine confined_bind (confined_issue rfl) fun found => ?_
  cases found with
  | completed order => exact confined_pure _
  | inFlight => exact awaited
  | absent =>
      refine confined_bind (confined_issue rfl) fun won => ?_
      split
      · refine confined_bind (confined_bind (confined_tryCatch created fun failure => ?_)
          fun _ => confined_issue rfl) fun _ => confined_pure _
        split
        · exact confined_bind (confined_issue rfl) fun _ => confined_throw _
        · exact confined_throw _
      · exact awaited

theorem confined_executeMoneyAction (req : MoneyActionRequest) (orderId : String) :
    ConfinedCode SparesCatalog (executeMoneyAction P req orderId) := by
  refine confined_bind (confined_outcome (confined_issue rfl)) fun halt => ?_
  cases halt with
  | error _ => exact confined_pure _
  | ok halt =>
      dsimp only
      split
      · exact confined_pure _
      split
      · exact confined_pure _
      have gated : ConfinedCode SparesCatalog (retryWithFullJitter 50 Failure.isDbapiError
          (issue (.attemptG1ThroughG5 req (req.key P)))) := by
        refine confined_retry ?_ _
        exact confined_issue rfl
      refine confined_bind (confined_outcome gated) fun gates => ?_
      split
      · exact confined_pure _
      · exact confined_pure _
      · refine confined_bind (confined_outcome
          (confined_retry (confined_createProviderOrder _) _)) fun made => ?_
        split
        · exact confined_pure _
        · exact confined_pure _
        · exact confined_pure _
        · exact confined_bind (confined_issue rfl) fun _ => confined_pure _
        · split
          · exact confined_bind (confined_issue rfl) fun _ => confined_pure _
          · exact confined_bind (confined_issue rfl) fun _ => confined_pure _

theorem confined_handleOrderPropose (args : ProposeArgs) (orderId : String) :
    ConfinedCode SparesCatalog (handleOrderPropose P args orderId) := by
  refine confined_bind (confined_issue rfl) fun proposal => ?_
  cases proposal with
  | rejected code => exact confined_pure _
  | allowed req =>
      refine confined_bind (confined_bind (confined_issue rfl) fun found => ?_)
        fun answer => ?_
      · cases found with
        | some existing => exact confined_pure _
        | none =>
            exact confined_bind (confined_executeMoneyAction _ _) fun _ =>
              confined_bind (confined_issue rfl) fun _ => confined_pure _
      · split
        · exact confined_pure _
        · exact confined_pure _

end Confined

section Sequence

variable {P : Platform} {allowed : Input → Prop} {w w' : World} {orderId : String}

theorem concludes_issue {action : Action} {result : Except Failure (Value action)} :
    Concludes (execute P) allowed (issue action) w result w' ↔
      ∃ input, allowed input ∧ result = (execute P action input w).1 ∧
        w' = (execute P action input w).2 := concludes_perform

/-- A proposal that is alone leaves the mandates as they were locked, and the
catalog. -/
theorem handleOrderPropose_frame {args : ProposeArgs} {result : Except Failure HandlerResult}
    (ended : Concludes (execute P) allowed (handleOrderPropose P args orderId) w result w') :
    w.db.Frame w'.db [.catalog] := by
  refine Concludes.keeps (fun w w' => w.db.Frame w'.db [.catalog]) (fun w => .refl _ _)
    (fun _ _ _ => .trans) (fun action (fine : SparesCatalog action) input w => ?_)
    (confined_handleOrderPropose args orderId) ended
  refine (execute_frame P action input w).mono fun part member => ?_
  rw [List.mem_singleton.mp member]
  exact fine.mem_spares

/-! ## Where a denial comes from -/

/-- The gates' transaction, tried again and again, commits nothing when it denies, and
the denial is one attempt's. -/
theorem gates_denied {req : MoneyActionRequest} {denied : MoneyActionResult} (attempts : Nat)
    (remaining : Nat)
    (ended : Concludes (execute P) allowed (retryRemaining attempts Failure.isDbapiError
      (issue (.attemptG1ThroughG5 req (req.key P))) remaining) w (.ok (some denied)) w') :
    w' = w ∧ ∃ now, Gate.attemptG1ThroughG5 P req (req.key P) now w.db = .ok (some denied, w.db) := by
  have issued : ∀ {w w' : World} {result : Except Failure (Option MoneyActionResult)},
      Concludes (execute P) allowed (issue (.attemptG1ThroughG5 req (req.key P))) w result w' →
        result ≠ .ok none → w' = w ∧ ∀ denied, result = .ok (some denied) → ∃ now,
          Gate.attemptG1ThroughG5 P req (req.key P) now w.db = .ok (some denied, w.db) := by
    intro w w' result one denied
    obtain ⟨input, -, rfl, rfl⟩ := concludes_issue.mp one
    simp only [execute] at denied ⊢
    rcases w.transaction_cases input.dbError (Gate.attemptG1ThroughG5 P req (req.key P)
      (input.now 0)) with ⟨failure, done, -⟩ | ⟨value, db, -, ran, done⟩
    · rw [done]
      refine ⟨rfl, ?_⟩
      intro denied clash
      cases clash
    · rw [done] at denied ⊢
      rcases attemptG1ThroughG5_ok ran with ⟨code, rfl, rfl⟩ | ⟨rfl, -⟩
      · refine ⟨rfl, fun denied same => ⟨input.now 0, ?_⟩⟩
        cases same
        exact ran
      · exact absurd rfl denied
  induction remaining generalizing w with
  | zero =>
      obtain ⟨clash, -⟩ := concludes_throw.mp ended
      cases clash
  | succ remaining ih =>
      rcases concludes_tryCatch.mp ended with ⟨value, one, same⟩ | ⟨failure, middle, one, handled⟩
      · cases same
        obtain ⟨kept, attempt⟩ := issued one (by simp)
        exact ⟨kept, attempt _ rfl⟩
      · rw [(issued one (by simp)).1] at handled
        split at handled
        · split at handled
          · obtain ⟨clash, -⟩ := concludes_throw.mp handled
            cases clash
          · exact ih handled
        · obtain ⟨clash, -⟩ := concludes_throw.mp handled
          cases clash

/-- The codes of the gate besides those of its transaction. -/
def outerCodes : List ReasonCode :=
  [.ok, .auditUnavailable, .malformedRequest, .providerTerminal, .providerTransient, .internalError]

/-- Past the gates nothing is denied for what the gates are about. -/
theorem runG6G7Execute_code {req : MoneyActionRequest} {result : MoneyActionResult}
    (ended : Concludes (execute P) allowed (runG6G7Execute P req orderId) w (.ok result) w') :
    result.reasonCode ∈ outerCodes := by
  obtain ⟨outcome, middle, -, rest⟩ := concludes_bind_ok.mp ended
  have released : ∀ {reason code}, Concludes (execute P) allowed (do
      issue (.releaseReservation (gateCompensation P req reason))
      return Gate.deny code req.traceId : Prog MoneyActionResult) middle (.ok result) w' →
        result = Gate.deny code req.traceId := by
    intro reason code last
    obtain ⟨_, _, -, same⟩ := concludes_bind_ok.mp last
    exact Except.ok.inj (concludes_pure.mp same).1
  split at rest
  · rw [Except.ok.inj (concludes_pure.mp rest).1]
    simp [outerCodes]
  · rw [Except.ok.inj (concludes_pure.mp rest).1]
    simp [outerCodes, Gate.deny]
  · rw [Except.ok.inj (concludes_pure.mp rest).1]
    simp [outerCodes, Gate.deny]
  · rw [released rest]
    simp [outerCodes, Gate.deny]
  · split at rest
    · rw [released rest]
      simp [outerCodes, Gate.deny]
    · rw [released rest]
      simp [outerCodes, Gate.deny]

/-- Any other code is the one an attempt at the gates has ended with, and nothing has
been committed. -/
theorem executeMoneyAction_denied {req : MoneyActionRequest} {result : MoneyActionResult}
    (ended : Concludes (execute P) allowed (executeMoneyAction P req orderId) w (.ok result) w')
    (inner : result.reasonCode ∉ outerCodes) :
    w' = w ∧ ∃ now, Gate.attemptG1ThroughG5 P req (req.key P) now w.db = .ok (some result, w.db) := by
  obtain ⟨halt, middle, first, rest⟩ := concludes_bind_ok.mp ended
  obtain ⟨outcome, same, one⟩ := concludes_outcome.mp first
  cases same
  obtain ⟨input, -, rfl, rfl⟩ := concludes_issue.mp one
  simp only [execute, World.query_world] at rest
  have early : ∀ {code : ReasonCode} {w : World}, Concludes (execute P) allowed
      (pure (Gate.deny code req.traceId) : Prog MoneyActionResult) w (.ok result) w' →
        code ∉ outerCodes := by
    intro code w ended
    obtain ⟨same, -⟩ := concludes_pure.mp ended
    cases same
    exact inner
  split at rest
  · exact absurd (by decide) (early rest)
  split at rest
  · exact absurd (by decide) (early rest)
  split at rest
  · exact absurd (by decide) (early rest)
  obtain ⟨outcome, middle, second, rest⟩ := concludes_bind_ok.mp rest
  obtain ⟨gates, same, two⟩ := concludes_outcome.mp second
  cases same
  split at rest
  · exact absurd (by decide) (early rest)
  · obtain ⟨same, rfl⟩ := concludes_pure.mp rest
    cases same
    exact gates_denied _ _ two
  · exact absurd (runG6G7Execute_code rest) inner

/-! ## The two halves of a proposal -/

/-- The key that a proposal leads to. -/
def proposalKey (P : Platform) (args : ProposeArgs) : String :=
  Payments.computeIdempotencyKey P args.mandateId args.intentHash 1

/-- The saga under the key is decided. -/
def Decided (db : Database) (key : String) (saga : SagaRecord) : Prop :=
  db.getSaga key = some saga ∧ saga.status ≠ .running

/-- What the merchant answers for a decided saga. -/
def answerFor (saga : SagaRecord) (code : ReasonCode) : HandlerResult :=
  if saga.status = .awaitingAuthorization then .accept saga.orderId saga.id else .reject code

/-- What a finished call of `begin_purchase` has found or made of its saga. -/
inductive Began (P : Platform) (req : MoneyActionRequest) (w w' : World) : SagaSnapshot → Prop
  | found (saga : SagaRecord) (decided : Decided w.db (req.key P) saga) (same : w' = w) :
      Began P req w w' (snapshot saga)
  | allowed (saga : SagaRecord) (decided : Decided w'.db (req.key P) saga)
      (fresh : ∀ saga, ¬ Decided w.db (req.key P) saga)
      (awaiting : saga.status = .awaitingAuthorization) : Began P req w w' (snapshot saga)
  | denied (saga : SagaRecord) (code : ReasonCode) (decided : Decided w'.db (req.key P) saga)
      (fresh : ∀ saga, ¬ Decided w.db (req.key P) saga) (failed : saga.status = .failed)
      (step : saga.step = "DENY_" ++ code.value)
      (ledger : code = .budgetExceeded → w'.db.ledgerEntries = w.db.ledgerEntries) :
      Began P req w w' (snapshot saga (some code))

theorem writeSaga_found {sagaId step : String} {status : SagaStatus} {orderId : Option String}
    {db db' : Database} {final : SagaRecord}
    (done : Saga.writeSaga sagaId step status orderId db = .ok (final, db')) :
    db'.getSaga sagaId = some final ∧ final.status = status ∧ final.step = step := by
  obtain ⟨⟨old, present, named, rfl⟩, rows, -⟩ := writeSaga_ok done
  refine ⟨Database.getSaga_eq_some.mpr ⟨(rows _).mpr ⟨old, present, by rw [if_pos named]⟩, named⟩,
    rfl, rfl⟩

theorem beginPurchase_began {req : MoneyActionRequest} {answer : SagaSnapshot}
    (ended : Concludes (execute P) allowed (beginPurchase P req orderId) w (.ok answer) w') :
    Began P req w w' answer := by
  obtain ⟨existing, opened, first, rest⟩ := concludes_bind_ok.mp ended
  obtain ⟨input, -, answered, rfl⟩ := concludes_issue.mp first
  simp only [execute] at answered rest
  rcases w.transaction_cases input.dbError (Saga.openSaga req (req.key P)) with
    ⟨failure, done, -⟩ | ⟨value, db, -, ran, done⟩
  · rw [done] at answered
    cases answered
  rw [done] at answered rest
  cases answered
  cases existing with
  | some saga =>
      obtain ⟨same, rfl⟩ := concludes_pure.mp rest
      rw [Except.ok.inj same]
      rcases openSaga_ok ran with ⟨rfl, found, present, named, same⟩ | ⟨none, -⟩
      · split at same
        · cases same
        · rename_i decided
          cases same
          exact .found _ ⟨Database.getSaga_eq_some.mpr ⟨present, named⟩, decided⟩ rfl
      · cases none
  | none =>
      -- The saga was running, or has just been written as running.
      have fresh : ∀ saga, ¬ Decided w.db (req.key P) saga := by
        rintro saga ⟨found, decided⟩
        obtain ⟨present, named⟩ := Database.getSaga_eq_some.mp found
        rcases openSaga_ok ran with ⟨-, found', present', named', same⟩ | ⟨-, absent, -⟩
        · have one := Foundation.Table.eq_of_col_eq SagaRecord.id (by simp) present present'
            (named.trans named'.symm)
          subst one
          rw [if_neg decided] at same
          cases same
        · exact absent saga present named
      have opened : db.ledgerEntries = w.db.ledgerEntries := by
        rcases openSaga_ok ran with ⟨rfl, -⟩ | ⟨-, -, -, frame⟩
        · rfl
        · exact frame.ledger
      obtain ⟨result, middle, gated, rest⟩ := concludes_bind_ok.mp rest
      obtain ⟨final, last, resolved, rest⟩ := concludes_bind_ok.mp rest
      obtain ⟨same, rfl⟩ := concludes_pure.mp rest
      rw [Except.ok.inj same]
      obtain ⟨input', -, answered, rfl⟩ := concludes_issue.mp resolved
      simp only [execute] at answered
      simp only [execute]
      rcases middle.transaction_cases input'.dbError (Saga.resolveSaga (req.key P) result) with
        ⟨failure, done, -⟩ | ⟨value, db', -, wrote, done⟩
      · rw [done] at answered
        cases answered
      · rw [done] at answered ⊢
        cases answered
        unfold Saga.resolveSaga at wrote
        split at wrote
        · rename_i verdict
          rw [if_pos verdict]
          obtain ⟨found, status, -⟩ := writeSaga_found wrote
          exact .allowed _ ⟨found, by rw [status]; decide⟩ fresh status
        · rename_i verdict
          rw [if_neg (by rw [verdict]; decide)]
          obtain ⟨found, status, step⟩ := writeSaga_found wrote
          refine .denied _ _ ⟨found, by rw [status]; decide⟩ fresh status step fun exceeded => ?_
          rw [(writeSaga_ok wrote).2.2.ledger,
            (executeMoneyAction_denied gated (by rw [exceeded]; decide)).1]
          exact opened

/-- What the merchant makes of the saga. -/
def answerOf (answer : SagaSnapshot) : HandlerResult :=
  if answer.status = .awaitingAuthorization then .accept answer.orderId answer.sagaId
  else .reject (answer.reasonCode.getD .internalError)

/-- A proposal has been turned down, or the purchase has begun. -/
theorem handleOrderPropose_proposed {args : ProposeArgs} {answer : HandlerResult}
    (ended : Concludes (execute P) allowed (handleOrderPropose P args orderId) w (.ok answer) w') :
    ∃ input proposal db, allowed input ∧
      Saga.proposeOrder P args (input.ids 0) (input.now 0) w.db = .ok (proposal, db) ∧
      match proposal with
      | .rejected code => answer = .reject code ∧ w' = { w with db }
      | .allowed req => ∃ began, Began P req { w with db } w' began ∧ answer = answerOf began := by
  obtain ⟨proposal, middle, first, rest⟩ := concludes_bind_ok.mp ended
  obtain ⟨input, fine, answered, rfl⟩ := concludes_issue.mp first
  simp only [execute] at answered rest
  rcases w.transaction_cases input.dbError
    (Saga.proposeOrder P args (input.ids 0) (input.now 0)) with
    ⟨failure, done, -⟩ | ⟨value, db, -, ran, done⟩
  · rw [done] at answered
    cases answered
  · rw [done] at answered rest
    cases answered
    refine ⟨input, proposal, db, fine, ran, ?_⟩
    cases proposal with
    | rejected code =>
        obtain ⟨same, rfl⟩ := concludes_pure.mp rest
        exact ⟨Except.ok.inj same, rfl⟩
    | allowed req =>
        obtain ⟨began, last, second, rest⟩ := concludes_bind_ok.mp rest
        refine ⟨began, ?_⟩
        unfold answerOf
        split at rest
        · rename_i awaiting
          obtain ⟨same, rfl⟩ := concludes_pure.mp rest
          exact ⟨beginPurchase_began second, by rw [if_pos awaiting, Except.ok.inj same]⟩
        · rename_i awaiting
          obtain ⟨same, rfl⟩ := concludes_pure.mp rest
          exact ⟨beginPurchase_began second, by rw [if_neg awaiting, Except.ok.inj same]⟩

end Sequence

/-! ## The repetition -/

/-- The mandate is in force whenever the clock is read. -/
def WhileValid (mandate : Mandates.Mandate) (input : Input) : Prop :=
  ∀ i j, InWindow mandate (input.now i j)

/-- Besides, no transaction fails and the decision id that is drawn is a new one. -/
structure Undisturbed (mandate : Mandates.Mandate) (db : Database) (input : Input) : Prop where
  valid : WhileValid mandate input
  noError : input.dbError = false
  fresh : ∀ decision ∈ db.decisions, decision.decisionId ≠ input.ids 0

section Repetition

variable {P : Platform} {args : ProposeArgs} {row row' : MandateRow} {quote : QuoteRecord}
variable {item : CatalogItemRecord} {w w' : World} {orderId : String}

/-- What has passed the checks passes them again. -/
theorem Derived.later {db db' : Database} {now now' : Time}
    (passed : Derived P args now db row quote item) (frame : db.Frame db' [.catalog])
    (found : db'.getMandate args.mandateId = some row')
    (status : row'.status = .locked ∨ row'.status = .executing)
    (unexpired : now' < row'.mandate.temporal.expiresAt) :
    row'.mandate = row.mandate ∧ Derived P args now' db' row' quote item := by
  obtain ⟨row'', found', mandate⟩ := getMandate_of_locked frame.mandates passed.foundMandate
  rw [found] at found'
  cases found'
  obtain ⟨quotes, items, -⟩ := by simpa only [Prod.mk.injEq] using frame.catalog
  refine ⟨mandate, found, status, unexpired, ?_, ?_, ?_, passed.quoteHash, ?_, ?_⟩
  · rw [mandate, passed.specHash]
  · rw [quotes, passed.foundQuote]
  · rw [passed.owner, MandateRow.id, MandateRow.id, mandate]
  · rw [items, passed.foundItem]
  · rw [mandate, passed.intentHash]

/-- The checks find one mandate, one quote and one item. -/
theorem Derived.unique {db : Database} {now now' : Time} {quote' : QuoteRecord}
    {item' : CatalogItemRecord} (passed : Derived P args now db row quote item)
    (passed' : Derived P args now' db row' quote' item') :
    row' = row ∧ quote' = quote ∧ item' = item := by
  have rows := passed'.foundMandate
  rw [passed.foundMandate] at rows
  cases rows
  have quotes := passed'.foundQuote
  rw [passed.foundQuote] at quotes
  cases quotes
  have items := passed'.foundItem
  rw [passed.foundItem] at items
  cases items
  exact ⟨rfl, rfl, rfl⟩

/-- Where the saga is decided a purchase that meets no error only reads it. -/
theorem beginPurchase_decided {allowed : Input → Prop} {req : MoneyActionRequest}
    (noError : ∀ input, allowed input → input.dbError = false) {saga : SagaRecord}
    (decided : Decided w.db (req.key P) saga) {result : Except Failure SagaSnapshot}
    (ended : Concludes (execute P) allowed (beginPurchase P req orderId) w result w') :
    result = .ok (snapshot saga) ∧ w' = w := by
  have found : ∀ {input}, allowed input →
      execute P (.openSaga req (req.key P)) input w = (.ok (some saga), w) := by
    intro input fine
    simp only [execute, World.transaction, noError input fine, Saga.openSaga, decided.1,
      if_neg decided.2]
    rfl
  rcases concludes_bind_cases ended with ⟨failure, raised, -⟩ | ⟨existing, middle, first, rest⟩
  · obtain ⟨input, fine, failed, -⟩ := concludes_issue.mp raised
    rw [found fine] at failed
    cases failed
  · obtain ⟨input, fine, answered, last⟩ := concludes_issue.mp first
    rw [found fine] at answered last
    cases answered
    subst last
    exact concludes_pure.mp rest

/-- The rest of `handle_order_propose` after its transaction. -/
def afterProposal (P : Platform) (orderId : String) : Proposal → Prog HandlerResult
  | .rejected code => return .reject code
  | .allowed req => do
      let snapshot ← beginPurchase P req orderId
      if snapshot.status = .awaitingAuthorization then
        return .accept snapshot.orderId snapshot.sagaId
      else return .reject (snapshot.reasonCode.getD .internalError)

theorem handleOrderPropose_eq (P : Platform) (args : ProposeArgs) (orderId : String) :
    handleOrderPropose P args orderId = (issue (.proposeOrder args) >>= afterProposal P orderId) := by
  unfold handleOrderPropose
  congr 1
  funext proposal
  cases proposal <;> rfl

/-- With nothing going wrong the transaction of a proposal is committed. -/
theorem handleOrderPropose_undisturbed {mandate : Mandates.Mandate}
    {result : Except Failure HandlerResult}
    (ended : Concludes (execute P) (Undisturbed mandate w.db) (handleOrderPropose P args orderId) w
      result w') :
    ∃ input proposal db, Undisturbed mandate w.db input ∧
      Saga.proposeOrder P args (input.ids 0) (input.now 0) w.db = .ok (proposal, db) ∧
      Concludes (execute P) (Undisturbed mandate w.db) (afterProposal P orderId proposal) { w with db }
        result w' := by
  have commits : ∀ {input}, Undisturbed mandate w.db input → ∃ proposal db,
      Saga.proposeOrder P args (input.ids 0) (input.now 0) w.db = .ok (proposal, db) ∧
        execute P (.proposeOrder args) input w = (.ok proposal, { w with db }) := by
    intro input calm
    obtain ⟨proposal, db, done⟩ : ∃ proposal db,
        Saga.proposeOrder P args (input.ids 0) (input.now 0) w.db = .ok (proposal, db) :=
      proposeOrder_total calm.fresh
    refine ⟨proposal, db, done, ?_⟩
    simp only [execute, World.transaction, calm.noError, done]
    rfl
  rw [handleOrderPropose_eq] at ended
  rcases concludes_bind_cases ended with ⟨failure, raised, -⟩ | ⟨proposal, middle, first, rest⟩
  · obtain ⟨input, calm, failed, -⟩ := concludes_issue.mp raised
    obtain ⟨proposal, db, -, committed⟩ := commits calm
    rw [committed] at failed
    cases failed
  · obtain ⟨input, calm, answered, last⟩ := concludes_issue.mp first
    obtain ⟨proposal', db, done, committed⟩ := commits calm
    rw [committed] at answered last
    cases answered
    subst last
    exact ⟨input, proposal, db, calm, done, rest⟩

/-- A proposal that the checks turn down. -/
theorem proposal_of_failed {code : ReasonCode} {mandate : Mandates.Mandate}
    {result : Except Failure HandlerResult}
    (failed : ∀ input, WhileValid mandate input →
      deriveIntent P args (input.now 0 0) w.db = .error code)
    (ended : Concludes (execute P) (Undisturbed mandate w.db) (handleOrderPropose P args orderId) w
      result w') : result = .ok (.reject code) ∧ w' = w := by
  obtain ⟨input, proposal, db, calm, done, rest⟩ := handleOrderPropose_undisturbed ended
  rcases proposeOrder_cases done with ⟨code', failed', rfl, rfl⟩ | ⟨_, _, _, passed, -⟩
  · rw [failed input calm.valid] at failed'
    cases failed'
    exact concludes_pure.mp rest
  · have derived := passed.deriveIntent_eq
    rw [failed input calm.valid] at derived
    cases derived

/-- A proposal that passes the checks, with nothing going wrong and its saga decided:
the policy's answer, or the saga's. -/
theorem proposal_of_decided {now : Time} {result : Except Failure HandlerResult}
    (passed : Derived P args now w.db row quote item)
    (ended : Concludes (execute P) (Undisturbed row.mandate w.db) (handleOrderPropose P args orderId) w
      result w') :
    ∃ input, Undisturbed row.mandate w.db input ∧
      ((decisionFor P (input.ids 0) (input.now 0) row quote item w.db).verdict = .allow ∧
          (∀ saga, Decided w.db (proposalKey P args) saga →
            result = .ok (answerFor saga .internalError) ∧
              w'.db.ledgerEntries = w.db.ledgerEntries ∧ w'.db.orders = w.db.orders) ∨
        (decisionFor P (input.ids 0) (input.now 0) row quote item w.db).verdict ≠ .allow ∧
          result = .ok (.reject ((decisionFor P (input.ids 0) (input.now 0) row quote item
            w.db).reasonCodes.headD .ok)) ∧
          w'.db.ledgerEntries = w.db.ledgerEntries ∧ w'.db.orders = w.db.orders) := by
  obtain ⟨input, proposal, db, calm, done, rest⟩ := handleOrderPropose_undisturbed ended
  have frame := proposeOrder_ok done
  refine ⟨input, calm, ?_⟩
  rcases proposeOrder_cases done with ⟨code, failed, -, -⟩ | ⟨row', quote', item', found, decision⟩
  · rw [deriveIntent_of_unexpired fun row' found => ?_, passed.deriveIntent_eq] at failed
    · cases failed
    · rw [passed.foundMandate] at found
      cases found
      exact ⟨passed.unexpired, (calm.valid 0 0).2⟩
  · obtain ⟨rfl, rfl, rfl⟩ := passed.unique found
    rcases decision with ⟨allowed, rfl⟩ | ⟨denied, rfl⟩
    · refine .inl ⟨allowed, fun saga decided => ?_⟩
      have named : (requestFor args (input.ids 0) row' quote').key P = proposalKey P args :=
        key_requestFor (Foundation.Table.get?_mem passed.foundMandate).2
      have there : Decided db (proposalKey P args) saga := by
        rw [Decided, Database.getSaga, frame.sagas]
        exact decided
      have read : ∀ {began last}, Concludes (execute P) (Undisturbed row'.mandate w.db)
          (beginPurchase P (requestFor args (input.ids 0) row' quote') orderId) { w with db }
            began last → began = .ok (snapshot saga) ∧ last = { w with db } :=
        beginPurchase_decided (fun _ calm => calm.noError) (named.symm ▸ there)
      rcases concludes_bind_cases rest with ⟨failure, raised, -⟩ | ⟨began, last, second, rest⟩
      · cases (read raised).1
      · obtain ⟨same, rfl⟩ := read second
        cases same
        unfold answerFor
        split at rest
        · rename_i awaiting
          obtain ⟨same, rfl⟩ := concludes_pure.mp rest
          rw [if_pos (show saga.status = .awaitingAuthorization from awaiting)]
          exact ⟨same, frame.ledger, frame.orders⟩
        · rename_i other
          obtain ⟨same, rfl⟩ := concludes_pure.mp rest
          rw [if_neg (show saga.status ≠ .awaitingAuthorization from other)]
          exact ⟨same, frame.ledger, frame.orders⟩
    · obtain ⟨same, rfl⟩ := concludes_pure.mp rest
      exact .inr ⟨denied, same, frame.ledger, frame.orders⟩

/-- The answer the repetition is to give: the same decision, with the same order and
saga, and with the same code when the saga was denied. -/
def SameAnswer (P : Platform) (args : ProposeArgs) (between : Database)
    (result : Except Failure HandlerResult) : HandlerResult → Prop
  | .accept orderId sagaId => result = .ok (.accept orderId sagaId)
  | .reject code => ∃ code', result = .ok (.reject code') ∧
      ((∃ saga, Decided between (proposalKey P args) saga ∧ saga.status = .failed) → code' = code)

/-- A proposal that the policy allows had found its saga decided, or leaves room for
its amount once more and a saga that awaits its payment or was denied for an
internal error. -/
def RepeatsAlike (P : Platform) (args : ProposeArgs) (before between : Database) : Prop :=
  ∀ decisionId now row quote item, AllowedProposal P args decisionId now before row quote item →
    (∃ saga, Decided before (proposalKey P args) saga) ∨
      Ledger.committedTotal between row.id + quote.totalMinor ≤ row.mandate.bounds.maxTotalMinor ∧
        ∀ saga, Decided between (proposalKey P args) saga →
          saga.status = .awaitingAuthorization ∨ saga.step = "DENY_INTERNAL_ERROR"

theorem Decided.unique {db : Database} {key : String} {saga saga' : SagaRecord}
    (decided : Decided db key saga) (decided' : Decided db key saga') : saga' = saga :=
  Option.some.inj (decided'.1.symm.trans decided.1)

theorem denied_for_internalError {code : ReasonCode} :
    "DENY_" ++ code.value = "DENY_INTERNAL_ERROR" ↔ code = .internalError := by
  cases code <;> decide

/-- Between a proposal and its repetition: the proposal had found its saga decided and
has changed nothing about it, or it has decided the saga itself. -/
theorem handleOrderPropose_between {decisionId : String}
    {now : Nat → Time} {db : Database} {began : SagaSnapshot}
    (proposes : Saga.proposeOrder P args decisionId now w.db
      = .ok (.allowed (requestFor args decisionId row quote), db))
    (owner : row.id = args.mandateId)
    (begins : Began P (requestFor args decisionId row quote) { w with db } w' began) :
    (∃ saga, Decided w.db (proposalKey P args) saga ∧ Decided w'.db (proposalKey P args) saga ∧
        w'.db.ledgerEntries = w.db.ledgerEntries ∧ answerOf began = answerFor saga .internalError) ∨
      (∀ saga, ¬ Decided w.db (proposalKey P args) saga) ∧
        ∃ saga code, Decided w'.db (proposalKey P args) saga ∧ answerOf began = answerFor saga code ∧
          (saga.status = .awaitingAuthorization ∨ saga.status = .failed ∧
            saga.step = "DENY_" ++ code.value ∧
              (code = .budgetExceeded → w'.db.ledgerEntries = w.db.ledgerEntries)) := by
  have frame := proposeOrder_ok proposes
  have named : (requestFor args decisionId row quote).key P = proposalKey P args :=
    key_requestFor owner
  have before : ∀ saga, Decided db (proposalKey P args) saga ↔
      Decided w.db (proposalKey P args) saga := by
    intro saga
    rw [Decided, Decided, Database.getSaga, Database.getSaga, frame.sagas]
  cases begins with
  | found saga decided same =>
      subst same
      rw [named] at decided
      exact .inl ⟨saga, (before saga).mp decided, decided, frame.ledger, rfl⟩
  | allowed saga decided fresh awaiting =>
      rw [named] at decided fresh
      refine .inr ⟨fun saga found => fresh saga ((before saga).mpr found), saga, .internalError,
        decided, rfl, .inl awaiting⟩
  | denied saga code decided fresh failed step ledger =>
      rw [named] at decided fresh
      refine .inr ⟨fun saga found => fresh saga ((before saga).mpr found), saga, code, decided, ?_,
        .inr ⟨failed, step, fun exceeded => (ledger exceeded).trans frame.ledger⟩⟩
      have other : saga.status ≠ .awaitingAuthorization := by
        rw [failed]
        decide
      rw [answerFor, if_neg other]
      exact if_neg other

theorem sameAnswer_self (P : Platform) (args : ProposeArgs) (between : Database)
    (answer : HandlerResult) : SameAnswer P args between (.ok answer) answer := by
  cases answer with
  | accept orderId sagaId => rfl
  | reject code => exact ⟨code, rfl, fun _ => rfl⟩

/-- What the condition comes to when the first call has decided the saga. -/
theorem repeatsAlike_of_fresh {decisionId : String} {now : Nat → Time} {before between : Database}
    {saga : SagaRecord} (allowed : AllowedProposal P args decisionId now before row quote item)
    (fresh : ∀ saga, ¬ Decided before (proposalKey P args) saga)
    (after : Decided between (proposalKey P args) saga) :
    RepeatsAlike P args before between ↔
      Ledger.committedTotal between row.id + quote.totalMinor ≤ row.mandate.bounds.maxTotalMinor ∧
        (saga.status = .awaitingAuthorization ∨ saga.step = "DENY_INTERNAL_ERROR") := by
  constructor
  · intro alike
    rcases alike decisionId now row quote item allowed with ⟨saga', decided⟩ | ⟨room, ends⟩
    · exact absurd decided (fresh saga')
    · exact ⟨room, ends saga after⟩
  · rintro ⟨room, ends⟩ decisionId' now' row' quote' item' allowed'
    obtain ⟨rfl, rfl, rfl⟩ := allowed.toDerived.unique allowed'.toDerived
    refine .inr ⟨room, fun saga' after' => ?_⟩
    rw [after.unique after']
    exact ends

/-- What is committed is read off the ledger. -/
theorem committedTotal_of_ledger {db db' : Database} (ledger : db'.ledgerEntries = db.ledgerEntries)
    (mandateId : String) : Ledger.committedTotal db' mandateId = Ledger.committedTotal db mandateId := by
  simp only [Ledger.committedTotal, Ledger.balance, Database.listForAccount, ledger]

/-- The policy decides alike while the mandate is in force and the same is
committed. -/
theorem decisionFor_alike {decisionId decisionId' : String} {now now' : Nat → Time}
    {db db' : Database} (mandate : row'.mandate = row.mandate)
    (inside : InWindow row.mandate (now 1)) (inside' : InWindow row.mandate (now' 1))
    (total : Ledger.committedTotal db' row'.id = Ledger.committedTotal db row.id)
    (version : db'.catalogVersion = db.catalogVersion) :
    (decisionFor P decisionId' now' row' quote item db').verdict
        = (decisionFor P decisionId now row quote item db).verdict ∧
      (decisionFor P decisionId' now' row' quote item db').reasonCodes
        = (decisionFor P decisionId now row quote item db).reasonCodes := by
  simp only [decisionFor, mandate]
  exact Policy.evaluate_codes_of_inWindow inside inside' total rfl version

/-- A call of `handle_order_propose` is repeated, with nothing in between and while
the mandate is in force: the repetition gives the same answer exactly when the policy
had not allowed the proposal, or the saga was decided before, or there is room for the
amount once more and the saga awaits its payment or was denied for an internal error.
It adds no entry to the ledger and no order. -/
theorem repetition_same_iff (P : Platform) (args : ProposeArgs) (first second : String)
    (w between w' : World) (row : MandateRow)
    (valid : between.db.getMandate args.mandateId = some row)
    (status : row.status = .locked ∨ row.status = .executing) (answer : HandlerResult)
    (called : Concludes (execute P) (WhileValid row.mandate) (handleOrderPropose P args first) w
      (.ok answer) between)
    (result : Except Failure HandlerResult)
    (repeated : Concludes (execute P) (Undisturbed row.mandate between.db)
      (handleOrderPropose P args second) between result w') :
    (SameAnswer P args between.db result answer ∧
        w'.db.ledgerEntries = between.db.ledgerEntries ∧ w'.db.orders = between.db.orders) ↔
      RepeatsAlike P args w.db between.db := by
  have frame := handleOrderPropose_frame called
  obtain ⟨input, proposal, db, fine, proposes, rest⟩ := handleOrderPropose_proposed called
  rcases proposeOrder_cases proposes with ⟨code, failed, rfl, rfl⟩ |
    ⟨row₀, quote, item, passed, decision⟩
  · -- The checks have turned the proposal down, and do so again.
    obtain ⟨rfl, rfl⟩ := rest
    have again : ∀ now, now < row.mandate.temporal.expiresAt →
        deriveIntent P args now w.db = .error code := by
      intro now unexpired
      rw [deriveIntent_of_unexpired fun row' found => ?_, failed]
      rw [show w.db.getMandate args.mandateId = some row from valid] at found
      cases found
      exact ⟨(fine 0 0).2, unexpired⟩
    obtain ⟨rfl, same⟩ := proposal_of_failed (fun input inside => again _ (inside 0 0).2) repeated
    rw [same]
    refine ⟨fun _ decisionId now row' quote item allowed => ?_, fun _ =>
      ⟨⟨code, rfl, fun _ => rfl⟩, rfl, rfl⟩⟩
    have found := allowed.foundMandate
    rw [show w.db.getMandate args.mandateId = some row from valid] at found
    cases found
    have derived := allowed.deriveIntent_eq
    rw [again _ allowed.unexpired] at derived
    cases derived
  · obtain ⟨mandate, later⟩ := passed.later frame valid status (fine 0 0).2
    obtain ⟨input', calm, repeats⟩ := proposal_of_decided later repeated
    have owner : row.id = row₀.id := by rw [MandateRow.id, MandateRow.id, mandate]
    have version : between.db.catalogVersion = w.db.catalogVersion := by
      have same := frame.catalog
      simp only [Prod.mk.injEq] at same
      exact same.2.2
    -- The two decisions differ at most in what is committed.
    have inside : InWindow row.mandate (input.now 0 1) := fine 0 1
    have inside' : InWindow row.mandate (input'.now 0 1) := calm.valid 0 1
    have total_of_ledger : between.db.ledgerEntries = w.db.ledgerEntries →
        Ledger.committedTotal between.db row.id = Ledger.committedTotal w.db row₀.id := by
      intro ledger
      rw [owner, committedTotal_of_ledger ledger]
    have alike : between.db.ledgerEntries = w.db.ledgerEntries →
        (decisionFor P (input'.ids 0) (input'.now 0) row quote item between.db).verdict
            = (decisionFor P (input.ids 0) (input.now 0) row₀ quote item w.db).verdict ∧
          (decisionFor P (input'.ids 0) (input'.now 0) row quote item between.db).reasonCodes
            = (decisionFor P (input.ids 0) (input.now 0) row₀ quote item w.db).reasonCodes := by
      intro ledger
      rw [mandate] at inside inside'
      exact decisionFor_alike mandate inside inside' (total_of_ledger ledger) version
    rcases decision with ⟨allowed, rfl⟩ | ⟨denied, rfl⟩
    · obtain ⟨began, begins, rfl⟩ := rest
      have within := Policy.evaluate_allow_iff_withinBounds.mp allowed
      rcases handleOrderPropose_between proposes
          (Foundation.Table.get?_mem passed.foundMandate).2 begins with
        ⟨saga, before, after, ledger, same⟩ | ⟨fresh, saga, code, after, same, ends⟩
      · -- The saga was decided before, and both calls answer for it.
        rcases repeats with ⟨-, answered⟩ | ⟨denied, -⟩
        · obtain ⟨rfl, kept⟩ := answered saga after
          rw [same]
          exact ⟨fun _ _ _ _ _ _ _ => .inl ⟨saga, before⟩, fun _ => ⟨sameAnswer_self _ _ _ _, kept⟩⟩
        · exact absurd ((alike ledger).1.trans allowed) denied
      · -- The first call has decided the saga.
        rw [repeatsAlike_of_fresh ⟨passed, within⟩ fresh after, ← owner, ← mandate]
        by_cases room : Ledger.committedTotal between.db row.id + quote.totalMinor
            ≤ row.mandate.bounds.maxTotalMinor
        · have again : (decisionFor P (input'.ids 0) (input'.now 0) row quote item
              between.db).verdict = .allow := by
            rw [decisionFor, Policy.evaluate_allow_iff_withinBounds]
            rw [← mandate] at within
            exact { within with
              started := inside'.1, unexpired := inside'.2, total := room
              fresh := within.fresh.trans version.symm }
          rcases repeats with ⟨-, answered⟩ | ⟨denied, -⟩
          · obtain ⟨rfl, kept⟩ := answered saga after
            rw [same]
            rcases ends with awaiting | ⟨failed, step, -⟩
            · have accepts : ∀ code, answerFor saga code = .accept saga.orderId saga.id :=
                fun code => if_pos awaiting
              rw [accepts, accepts]
              exact ⟨fun _ => ⟨room, .inl awaiting⟩, fun _ => ⟨rfl, kept⟩⟩
            · have rejects : ∀ code, answerFor saga code = .reject code :=
                fun code => if_neg (by rw [failed]; decide)
              rw [rejects, rejects]
              constructor
              · rintro ⟨⟨code', answer, denied⟩, -⟩
                cases answer
                rw [step, ← denied ⟨saga, after, failed⟩]
                exact ⟨room, .inr rfl⟩
              · rintro ⟨-, awaiting | internal⟩
                · rw [failed] at awaiting
                  cases awaiting
                · rw [step] at internal
                  rw [denied_for_internalError.mp internal]
                  exact ⟨⟨_, rfl, fun _ => rfl⟩, kept⟩
          · exact absurd again denied
        · have within' : Policy.WithinBounds P row.mandate (intentFor P row.mandate quote item)
              (contextFor P (input.ids 0) (input.now 0) row₀ w.db) := mandate.symm ▸ within
          have exceeds : (decisionFor P (input'.ids 0) (input'.now 0) row quote item
              between.db).verdict = .deny ∧ (decisionFor P (input'.ids 0) (input'.now 0) row quote item
                between.db).reasonCodes = [.budgetExceeded] :=
            Policy.evaluate_codes_of_over within' inside' rfl version room
          obtain ⟨verdict, codes⟩ := exceeds
          refine iff_of_false ?_ fun alike => room alike.1
          rintro ⟨answers, -⟩
          rcases repeats with ⟨allowed', -⟩ | ⟨-, rfl, -⟩
          · rw [verdict] at allowed'
            cases allowed'
          · rw [codes, same] at answers
            rcases ends with awaiting | ⟨failed, step, unchanged⟩
            · rw [answerFor, if_pos awaiting] at answers
              cases answers
            · rw [answerFor, if_neg (by rw [failed]; decide)] at answers
              obtain ⟨code', answer, denied⟩ := answers
              cases answer
              have ledger := unchanged (denied ⟨saga, after, failed⟩).symm
              rw [total_of_ledger ledger, mandate] at room
              exact room within.total
    · obtain ⟨rfl, rfl⟩ := rest
      have ledger := (proposeOrder_ok proposes).ledger
      refine ⟨fun _ decisionId now row' quote' item' allowed => ?_, fun _ => ?_⟩
      · obtain ⟨rfl, rfl, rfl⟩ := passed.unique allowed.toDerived
        rw [mandate] at inside
        have verdict : (decisionFor P decisionId now row' quote' item' w.db).verdict = .allow :=
          Policy.evaluate_allow_iff_withinBounds.mpr allowed.within
        have window : InWindow row'.mandate (now 1) :=
          ⟨allowed.within.started, allowed.within.unexpired⟩
        exact absurd ((decisionFor_alike rfl window inside rfl rfl).1.trans verdict) denied
      · rcases repeats with ⟨allowed, -⟩ | ⟨-, rfl, kept⟩
        · exact absurd ((alike ledger).1.symm.trans allowed) denied
        · rw [(alike ledger).2]
          exact ⟨sameAnswer_self _ _ _ _, kept⟩

end Repetition

namespace Fixture

/-- What a proposal comes to that has the store to itself, with an input that stays the
same. -/
def proposed (input : Input) (args : ProposeArgs) (orderId : String) (w : World) :
    Except Failure HandlerResult × World :=
  (handleOrderPropose platform args orderId).uniformly (execute platform) input w

theorem proposed_concludes (allowed : Input → Prop) (input : Input) (fine : allowed input)
    (args : ProposeArgs) (orderId : String) (w : World) :
    Concludes (execute platform) allowed (handleOrderPropose platform args orderId) w
      (proposed input args orderId w).1 (proposed input args orderId w).2 :=
  Program.concludes_uniformly _ fine w

/-- The input of the repetition, with a new decision id. -/
def later : Input := { input with ids := fun _ => "id_2" }

/-- The store after the first proposal. -/
def between (db : Database) (args : ProposeArgs) : World :=
  (proposed input args "ord_1" (world db)).2

theorem between_eq (db : Database) (args : ProposeArgs) :
    (proposed input args "ord_1" (world db)).2 = between db args := rfl

/-- The first proposal, which the cap leaves room for twice, is accepted again. -/
theorem first_proposal_repeats :
    (proposed later proposal "ord_2" (between database proposal)).1
      = .ok (.accept (some "ord_1") "ik_67e34bdc91084ae9992f70878d53edfc") := by
  have run : (proposed input proposal "ord_1" (world database)).1
        = .ok (.accept (some "ord_1") "ik_67e34bdc91084ae9992f70878d53edfc") ∧
      ((between database proposal).db.getMandate "mdt_1").map
        (fun row => (row.status, row.mandate.temporal)) = some (.executing, mandate.temporal) ∧
      Ledger.committedTotal (between database proposal).db "mdt_1" = 420000 ∧
      ((between database proposal).db.getSaga (proposalKey platform proposal)).map (·.status)
        = some .awaitingAuthorization ∧
      (between database proposal).db.decisions.rows.all (fun decision =>
        decide (decision.decisionId ≠ "id_2")) := by
    decide +kernel
  obtain ⟨accepted, mandated, committed, awaiting, decisions⟩ := run
  obtain ⟨row, valid, seen⟩ := Option.map_eq_some_iff.mp mandated
  obtain ⟨status, temporal⟩ := Prod.mk.inj seen
  have inside : InWindow row.mandate start := by
    rw [InWindow, temporal]
    decide
  have fresh : ∀ decision ∈ (between database proposal).db.decisions,
      decision.decisionId ≠ "id_2" := fun decision stored =>
    of_decide_eq_true (List.all_eq_true.mp decisions decision stored)
  have called := proposed_concludes (WhileValid row.mandate) input (fun _ _ => inside) proposal
    "ord_1" (world database)
  rw [accepted, between_eq] at called
  have repeats := (repetition_same_iff platform proposal "ord_1" "ord_2" (world database)
    (between database proposal) _ row valid (.inr status) _ called _
    (proposed_concludes _ later ⟨fun _ _ => inside, rfl, fresh⟩ proposal "ord_2"
      (between database proposal))).mpr ?_
  · exact repeats.1
  · intro decisionId now row' quote item allowed
    obtain rfl : Fixture.row = row' := Option.some.inj allowed.foundMandate
    obtain rfl : seaViewQuote = quote := Option.some.inj allowed.foundQuote
    refine .inr ⟨?_, fun saga decided => .inl ?_⟩
    · rw [show Ledger.committedTotal (between database proposal).db Fixture.row.id = 420000 from
        committed]
      decide
    · rw [decided.1] at awaiting
      exact Option.some.inj awaiting

/-- A dearer item, for which the cap leaves room only once. -/
def suite : CatalogItemRecord :=
  { seaView with sku := "HTL-GOA-SEA-STE", unitPriceMinor := 160000 }

def suiteQuote : QuoteRecord :=
  quoteOf "qte_4" "sha256:dbb690a907032964c6b29d534d0e8c06633360f7b55609e2cb53f507ace1b58f" suite

def suites : Database :=
  { database with
    quotes := ⟨[suiteQuote], by simp⟩
    items := ⟨[suite], by simp⟩ }

def suiteProposal : ProposeArgs :=
  { proposal with
    quoteId := "qte_4"
    quoteHash := suiteQuote.quoteHash
    intentHash := "sha256:460872621d66d08f08762d06246c6d2fc11b32cbb7872541a31ff58a33f4b1c8" }

/-- The store with the halt switch tripped. -/
def halted : Database :=
  { database with integrity := { database.integrity with halted := true } }

/-- The dearer item is accepted and, proposed again, rejected over the budget that is
reserved for it. A proposal denied by the halt is, proposed again, rejected for an
internal error. -/
theorem repetition_differs :
    ((proposed input suiteProposal "ord_1" (world suites)).1
        = .ok (.accept (some "ord_1") "ik_049125328aa3e3cebb1d674d9f18abf7") ∧
      (proposed later suiteProposal "ord_2" (between suites suiteProposal)).1
        = .ok (.reject .budgetExceeded)) ∧
    (proposed input proposal "ord_1" (world halted)).1 = .ok (.reject .auditUnavailable) ∧
      (proposed later proposal "ord_2" (between halted proposal)).1
        = .ok (.reject .internalError) := by
  decide +kernel

end Fixture

end Actl
