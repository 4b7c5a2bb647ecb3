import Actl.Runs.Terms
import Actl.Runs.Fixture

/-!
# An ALLOW is backed by budget

The reservation and the order of a gate call are made in two transactions that
only the key joins. In between the reservation can be freed, and a gate that
finds entries under its key asks for nothing more. An ALLOW is backed by a live
reservation for the order's amount in every run in which a gate finds under its
key either nothing or a live reservation with its own terms, and no reservation
is freed while a gate call with the key is between the two transactions.
-/

set_option autoImplicit false

namespace Actl

open Foundation (Step Program)
open Foundation.Code (ConfinedCode confined_pure confined_throw confined_perform confined_bind
  confined_tryCatch ObeysCode obeys_pure obeys_bind obeys_mono obeys_outcome)
open Foundation.System (Admissible Guarded initial run_config_invariant run_disciplined)
open Payments (OrderArgs)
open Gate (MoneyActionRequest MoneyActionResult Compensation)
open Ledger (Phase Orderly phaseOf stateOfRef account Carries terms)

/-! ## Allowing without compensating -/

/-- The call has not compensated anything. -/
def Uncompensated (past : Past) : Prop := ∀ s ∈ past, ∀ c, s.action ≠ .releaseReservation c

section Confined

variable {allowed : Action → Prop}

theorem issue_confined {action : Action} (fine : allowed action) :
    ConfinedCode allowed (issue action) := confined_perform fine _

theorem retry_confined {α : Type} {body : Prog α} (confined : ConfinedCode allowed body)
    (maxAttempts : Nat) (retryOn : Failure → Bool) :
    ConfinedCode allowed (retryWithFullJitter maxAttempts retryOn body) := by
  have remaining : ∀ n, ConfinedCode allowed (retryRemaining maxAttempts retryOn body n) := by
    intro n
    induction n with
    | zero => exact confined_throw _
    | succ n ih =>
        refine confined_tryCatch confined fun failure => ?_
        split
        · cases n with
          | zero => exact confined_throw _
          | succ n => exact ih
        · exact confined_throw _
  exact remaining maxAttempts

theorem awaitPolls_confined {key : String} (fine : allowed (.pollIdempotencyKey key)) (n : Nat) :
    ConfinedCode allowed (awaitPolls key n) := by
  induction n with
  | zero => exact confined_throw _
  | succ n ih =>
      refine confined_bind (issue_confined fine) fun found => ?_
      cases found with
      | none => exact ih
      | some order => exact confined_pure _

/-- Creating an order compensates nothing. -/
theorem createProviderOrder_confined (P : Platform) (args : OrderArgs) :
    ConfinedCode (fun action => ∀ c, action ≠ .releaseReservation c)
      (createProviderOrder P args) := by
  have waits : ConfinedCode (fun action => ∀ c, action ≠ .releaseReservation c)
      (do let order ← awaitInFlightCompletion (args.key P)
          return (order, true) : Prog (OrderRecord × Bool)) :=
    confined_bind (awaitPolls_confined (by simp) 40) fun _ => confined_pure _
  refine confined_bind (issue_confined (by simp)) fun found => ?_
  cases found with
  | completed order => exact confined_pure _
  | inFlight => exact waits
  | absent =>
      refine confined_bind (issue_confined (by simp)) fun won => ?_
      cases won with
      | false => exact waits
      | true =>
          refine confined_bind (confined_bind (confined_tryCatch
            (retry_confined (issue_confined (by simp)) _ _) fun failure => ?_)
            fun _ => issue_confined (by simp)) fun _ => confined_pure _
          split
          · exact confined_bind (issue_confined (by simp)) fun _ => confined_throw _
          · exact confined_throw _

end Confined

section Clean

variable {P : Platform} {history : Past}

/-- Code that compensates nothing. -/
theorem clean_obeys {α : Type} {body : Prog α}
    (confined : ConfinedCode (fun action => ∀ c, action ≠ .releaseReservation c) body)
    (clean : Uncompensated history) :
    ObeysCode (execute P) (fun _ _ => True) (fun _ past => Uncompensated past)
      (fun _ past => Uncompensated past) history body := by
  refine Foundation.Obeys.mono (confined.obeys Uncompensated ?_ clean) fun outcome past holds => ?_
  · intro s past fine holds s' member
    rcases List.mem_cons.mp member with rfl | earlier
    · exact fine
    · exact holds s' earlier
  · cases outcome with
    | ok value => exact holds
    | error failure => exact holds

theorem runG6G7Execute_clean (req : MoneyActionRequest) (orderId : String)
    (clean : Uncompensated history) :
    ObeysCode (execute P) (fun _ _ => True)
      (fun result past => result.verdict = .allow → Uncompensated past) (fun _ _ => True) history
      (runG6G7Execute P req orderId) := by
  have denies : ∀ (past : Past) reason (result : MoneyActionResult), result.verdict = .deny →
      ObeysCode (execute P) (fun _ _ => True)
        (fun result past => result.verdict = .allow → Uncompensated past) (fun _ _ => True) past
        (do issue (.releaseReservation (gateCompensation P req reason))
            return result : Prog MoneyActionResult) := by
    intro past reason result denied
    refine obeys_bind (fun _ _ => True) ?_ fun _ _ _ _ => obeys_pure fun allowed => ?_
    · refine Foundation.Obeys.mono (Foundation.obeys_nothing _ _) fun outcome _ _ => ?_
      cases outcome <;> trivial
    · rw [denied] at allowed
      cases allowed
  refine obeys_bind (fun _ past => Uncompensated past) (obeys_mono (clean_obeys
    (Foundation.Code.confined_outcome (retry_confined (createProviderOrder_confined P _) _ _))
    clean) (fun _ _ holds => holds) (fun _ _ _ => trivial)) fun outcome past _ clean' => ?_
  cases outcome with
  | ok result => exact obeys_pure fun _ => clean'
  | error failure =>
      cases failure with
      | idempotentAttemptFailed => exact obeys_pure fun _ => clean'
      | idempotencyInFlightTimeout => exact obeys_pure fun _ => clean'
      | _ => exact denies past _ _ rfl

theorem executeMoneyAction_clean (req : MoneyActionRequest) (orderId : String)
    (clean : Uncompensated history) :
    ObeysCode (execute P) (fun _ _ => True)
      (fun result past => result.verdict = .allow → Uncompensated past) (fun _ _ => True) history
      (executeMoneyAction P req orderId) := by
  refine obeys_bind (fun _ past => Uncompensated past) (obeys_mono (clean_obeys
    (Foundation.Code.confined_outcome (issue_confined (by simp))) clean)
    (fun _ _ holds => holds) (fun _ _ _ => trivial)) fun outcome past _ clean' => ?_
  cases outcome with
  | error failure => exact obeys_pure fun _ => clean'
  | ok haltState =>
      dsimp only
      split
      · exact obeys_pure fun _ => clean'
      split
      · exact obeys_pure fun _ => clean'
      refine obeys_bind (fun _ past => Uncompensated past) (obeys_mono (clean_obeys
        (Foundation.Code.confined_outcome (retry_confined (issue_confined (by simp)) _ _)) clean')
        (fun _ _ holds => holds) (fun _ _ _ => trivial)) fun outcome past' _ clean'' => ?_
      cases outcome with
      | error failure => exact obeys_pure fun _ => clean''
      | ok result =>
          cases result with
          | some denied => exact obeys_pure fun _ => clean''
          | none => exact runG6G7Execute_clean req orderId clean''

end Clean

/-- A gate call that allows has compensated nothing. -/
def AllowsClean : Call → Except Failure Outcome → Past → Prop
  | .executeMoneyAction _ _, .ok (.money result), past =>
      result.verdict = .allow → Uncompensated past
  | _, _, _ => True

theorem code_allowsClean (P : Platform) (call : Call) :
    Foundation.Obeys (execute P) (fun _ _ => True) (AllowsClean call) [] (Call.code P call) := by
  cases call with
  | executeMoneyAction req orderId =>
      have wrapped : ObeysCode (execute P) (fun _ _ => True)
          (fun outcome past => AllowsClean (.executeMoneyAction req orderId) (.ok outcome) past)
          (fun _ _ => True) [] (Call.code P (.executeMoneyAction req orderId)) :=
        obeys_bind _ (executeMoneyAction_clean req orderId (fun s member => by cases member))
          fun result past _ holds => obeys_pure holds
      refine Foundation.Obeys.mono wrapped fun outcome past holds => ?_
      cases outcome with
      | ok outcome => exact holds
      | error failure => trivial
  | _ => exact Foundation.Obeys.mono (Foundation.obeys_nothing _ _) fun _ _ _ => trivial

/-! ## The condition -/

section Condition

variable {P : Platform}

/-- The call at the index has passed the gate under the key, and has neither ended
nor compensated. -/
def GateOpen (c : (application P).Config) (key : String) (index : Nat) : Prop :=
  ∃ r, c.calls[index]? = some r ∧ r.InProgress ∧ Uncompensated r.history ∧
    ∃ req, PassedGate P r.history req ∧ req.key P = key

/-- The gate finds nothing under its key or a live reservation with its own terms,
orders are created by gate calls only, and a hold is freed only while no other
gate call with its key is between its two transactions. -/
def KeepsBacking (c : (application P).Config) (index : Nat) (r : (application P).Running)
    (action : Action) (input : Input) : Prop :=
  KeepsTerms c.state.db r.call action ∧ match action with
  | .attemptG1ThroughG5 _ key =>
      stateOfRef c.state.db key = none ∨ Live (stateOfRef c.state.db key)
  | .releaseReservation compensation => stateOfRef c.state.db compensation.refId = some .held →
      ∀ j, j ≠ index → ¬ GateOpen c compensation.refId j
  | .voidOrder compensation _ => stateOfRef c.state.db compensation.refId = some .held →
      ∀ j, ¬ GateOpen c compensation.refId j
  | .sweep => ∀ key ∈ sweepCandidates P input c.state.db, stateOfRef c.state.db key = some .held →
      ∀ j, ¬ GateOpen c key j
  | _ => True

end Condition

/-! ## The invariant -/

/-- Between the transactions of a gate call its reservation is live. -/
structure Backed (P : Platform) (c : (application P).Config) : Prop where
  termed : Termed P c.state c.journal
  live : ∀ key index, GateOpen c key index → Live (stateOfRef c.state.db key)

section Steps

variable {P : Platform} {c : (application P).Config} {index : Nat} {r : (application P).Running}
variable {action : Action} {input : Input}

theorem live_captured {db : Database} {key : String} (captured : phaseOf db key = some .captured) :
    Live (stateOfRef db key) := by
  rw [Ledger.stateOfRef_eq_map_phaseOf, captured]
  exact .inr rfl

/-- A live reservation that is not freed by the step stays live. -/
theorem live_step (orderly : Orderly c.state.db) {key : String}
    (live : Live (stateOfRef c.state.db key))
    (unreleased : ∀ compensation, action = .releaseReservation compensation ∨
        (∃ orderId, action = .voidOrder compensation orderId) → compensation.refId = key →
      stateOfRef c.state.db key ≠ some .held)
    (unswept : action = .sweep → key ∈ sweepCandidates P input c.state.db →
      stateOfRef c.state.db key ≠ some .held) :
    Live (stateOfRef (execute P action input c.state).2.db key) := by
  have becomes := (execute_holds P action input c.state orderly).phases key
  generalize before : phaseOf c.state.db key = source at becomes
  generalize after : phaseOf (execute P action input c.state).2.db key = target at becomes
  have held : source = some .held → stateOfRef c.state.db key = some .held := fun same =>
    Ledger.stateOfRef_eq_held.mpr (before.trans same)
  cases becomes with
  | same =>
      rw [Ledger.stateOfRef_eq_map_phaseOf, before] at live
      rw [Ledger.stateOfRef_eq_map_phaseOf, after]
      exact live
  | opened req issued =>
      rw [Ledger.stateOfRef_eq_map_phaseOf, after]
      exact .inl rfl
  | captured saga orderId paymentId actorId traceId issued ref => exact live_captured after
  | released compensation issued ref =>
      exact absurd (held rfl) (unreleased compensation issued ref)
  | expired issued old => exact absurd (held rfl) (unswept issued old)
  | reversed compensation orderId issued ref =>
      rw [Ledger.stateOfRef_eq_map_phaseOf, after]
      exact .inr rfl

/-- A gate that passes leaves a live reservation under its key, unless it has found
a dead one. -/
theorem live_passed {req : MoneyActionRequest} {key : String} (orderly : Orderly c.state.db)
    (found : stateOfRef c.state.db key = none ∨ Live (stateOfRef c.state.db key))
    (answered : (execute P (.attemptG1ThroughG5 req key) input c.state).1 = .ok none) :
    Live (stateOfRef (execute P (.attemptG1ThroughG5 req key) input c.state).2.db key) := by
  rcases found with absent | live
  · have known := passed_known orderly answered
    have becomes :=
      (execute_holds P (.attemptG1ThroughG5 req key) input c.state orderly).phases key
    rw [Ledger.stateOfRef_eq_map_phaseOf, Option.map_eq_none_iff] at absent
    rw [absent] at becomes
    generalize reached : phaseOf (execute P (.attemptG1ThroughG5 req key) input c.state).2.db key
      = phase at becomes known
    cases becomes with
    | same => exact absurd rfl known
    | opened req' issued => exact .inl (Ledger.stateOfRef_eq_held.mpr reached)
  · refine live_step orderly live (fun compensation issued => ?_) fun issued => by cases issued
    rcases issued with issued | ⟨orderId, issued⟩ <;> cases issued

end Steps

namespace Backed

variable {P : Platform} {c : (application P).Config} {index : Nat} {r : (application P).Running}
variable {action : Action} {input : Input}
variable {next : Reply action → Program Action Reply (Except Failure Outcome)}

/-- A gate call that is open after a step of another one was open before. -/
theorem gateOpen_of_ne {calls : List (application P).Running} {state : World} {key : String}
    {r' : (application P).Running} {i : Nat} (other : i ≠ index)
    (open' : GateOpen (⟨state, calls.set index r'⟩ : (application P).Config) key i) :
    ∃ r, calls[i]? = some r ∧ r.InProgress ∧ Uncompensated r.history ∧
      ∃ req, PassedGate P r.history req ∧ req.key P = key := by
  obtain ⟨r, found, rest⟩ := open'
  simp only [List.getElem?_set_ne (Ne.symm other)] at found
  exact ⟨r, found, rest⟩

theorem started (backed : Backed P c) (call : Call) :
    Backed P ⟨c.state, c.calls ++ [⟨call, [], some (Call.code P call)⟩]⟩ := by
  refine ⟨?_, fun key i open' => ?_⟩
  · rw [Foundation.System.Config.journal, List.map_append]
    exact backed.termed.started call
  · obtain ⟨r, found, running, clean, req, passed, same⟩ := open'
    rcases Foundation.System.getElem?_append_cases found with old | rfl
    · exact backed.live key i ⟨r, old, running, clean, req, passed, same⟩
    · obtain ⟨s, member, -⟩ := passed
      cases member

theorem crashed (backed : Backed P c) (found : c.calls[index]? = some r) :
    Backed P ⟨c.state, c.calls.set index ⟨r.call, r.history, none⟩⟩ := by
  refine ⟨?_, fun key i open' => ?_⟩
  · have same := (c.journal_crash index).2
    simp only [Foundation.System.Config.apply, found] at same
    rw [same]
    exact backed.termed
  · by_cases here : i = index
    · subst here
      obtain ⟨r', found', ⟨action, next, left⟩, -⟩ := open'
      rcases Foundation.System.getElem?_set_cases found' with ⟨-, rfl⟩ | ⟨other, -⟩
      · cases left
      · exact absurd rfl other
    · exact backed.live key i (gateOpen_of_ne here open')

theorem live_stepped (backed : Backed P c) (issues : c.Issues index r action next)
    (guarded : KeepsBacking c index r action input) (key : String) (i : Nat)
    (open' : GateOpen (⟨(execute P action input c.state).2,
      c.calls.set index (r.advance action next input c.state)⟩ : (application P).Config) key i) :
    Live (stateOfRef (execute P action input c.state).2.db key) := by
  by_cases here : i = index
  · subst here
    obtain ⟨r', found', -, clean, req, passed, rfl⟩ := open'
    rcases Foundation.System.getElem?_set_cases found' with ⟨-, rfl⟩ | ⟨other, -⟩
    swap
    · exact absurd rfl other
    rcases passedGate_cons passed with ⟨rfl, answered⟩ | earlier
    · exact live_passed backed.termed.orderly guarded.2 answered
    · have open' : GateOpen c (req.key P) i := ⟨r, issues.1, ⟨action, next, issues.2⟩,
        fun s member => clean s (List.mem_cons_of_mem _ member), req, earlier, rfl⟩
      refine live_step backed.termed.orderly (backed.live _ _ open')
        (fun compensation issued ref => ?_) fun issued candidate => ?_
      · rcases issued with rfl | ⟨orderId, rfl⟩
        · exact absurd rfl (clean _ List.mem_cons_self compensation)
        · intro held
          exact guarded.2 (ref ▸ held) i (ref ▸ open')
      · subst issued
        exact fun held => guarded.2 _ candidate held i open'
  · have open'' : GateOpen c key i := gateOpen_of_ne here open'
    refine live_step backed.termed.orderly (backed.live key i open'')
      (fun compensation issued ref => ?_) fun issued candidate => ?_
    · rcases issued with rfl | ⟨orderId, rfl⟩
      · intro held
        exact guarded.2 (ref ▸ held) i here (ref ▸ open'')
      · intro held
        exact guarded.2 (ref ▸ held) i (ref ▸ open'')
    · subst issued
      exact fun held => guarded.2 _ candidate held i open''

theorem stepped (backed : Backed P c) (issues : c.Issues index r action next)
    (permitted : May P r.call r.history action) (guarded : KeepsBacking c index r action input) :
    Backed P ⟨(execute P action input c.state).2,
      c.calls.set index (r.advance action next input c.state)⟩ := by
  refine ⟨?_, backed.live_stepped issues guarded⟩
  have found := Foundation.System.Config.getElem?_journal issues.1
  simp only [Foundation.System.Config.journal, List.map_set]
  exact backed.termed.stepped found permitted guarded.1

end Backed

theorem run_backed (P : Platform) (w : World) (noOrders : ∀ o, o ∉ w.db.orders)
    (noEntries : w.db.ledgerEntries = []) (events : List (application P).Event)
    (kept : Admissible (Guarded KeepsBacking) (initial w) events) :
    Backed P ((initial w : (application P).Config).run events) := by
  refine run_config_invariant (S := application P) (code_obeys P) KeepsBacking (Backed P)
    (fun c call backed => backed.started call) (fun c index r backed found => backed.crashed found)
    (fun c index r action next input _ backed issues permitted guarded =>
      backed.stepped issues permitted guarded) ?_ kept
  refine ⟨.initial noOrders noEntries, fun key i open' => ?_⟩
  obtain ⟨r, found, -⟩ := open'
  simp [initial] at found

/-- The reservation under the key is live and for exactly the order. -/
def BackedBy (db : Database) (key : String) (order : OrderRecord) : Prop :=
  Live (stateOfRef db key) ∧
    terms db key = [(account order.mandateId .reserved, order.amountMinor)]

/-- The order of the result is stored under the key and backed. -/
def AllowsBacked (db : Database) (key : String) (result : MoneyActionResult) : Prop :=
  ∃ order ∈ db.orders, order.idempotencyKey = key ∧ result.orderId = some order.id ∧
    BackedBy db key order

/-- A step that reports an order writes nothing but orders and keys. -/
theorem Reports.writes {P : Platform} {s : Step Action Input World} {key : String}
    {order : OrderRecord} (reports : Reports P s key order) :
    Part.ledger ∉ s.action.writes ∧ (∀ req key, s.action ≠ .attemptG1ThroughG5 req key) ∧
      ∀ (c : (application P).Config) index r, KeepsBacking c index r s.action s.input := by
  rcases reports with ⟨issued, -⟩ | ⟨issued, -⟩ | ⟨args, number, -, issued, -⟩ <;>
  · rw [issued]
    exact ⟨by simp [Action.writes], by simp, fun _ _ _ => ⟨trivial, trivial⟩⟩

/-- The order an uncompensated gate call learns of is backed. -/
theorem Backed.reported {P : Platform} {c : (application P).Config} {index : Nat}
    {r : (application P).Running} {action : Action} {input : Input}
    {next : Reply action → Program Action Reply (Except Failure Outcome)}
    {req : MoneyActionRequest} {order : OrderRecord} (backed : Backed P c)
    (exclusive : Exclusive P c.state c.journal) (issues : c.Issues index r action next)
    (permitted : May P r.call r.history action) (clean : Uncompensated r.history)
    (passed : PassedGate P (⟨action, input, c.state⟩ :: r.history) req)
    (reports : Reports P ⟨action, input, c.state⟩ (req.key P) order) :
    ∃ stored ∈ (execute P action input c.state).2.db.orders,
      stored.idempotencyKey = req.key P ∧ stored.id = order.id ∧
        BackedBy (execute P action input c.state).2.db (req.key P) stored := by
  obtain ⟨unwritten, other, quiet⟩ := reports.writes
  have ledger := (execute_frame P action input c.state).ledger (Action.mem_spares.mpr unwritten)
  have earlier : PassedGate P r.history req :=
    (passedGate_cons passed).resolve_left fun answered => other req _ answered.1
  have live := backed.live (req.key P) index
    ⟨r, issues.1, ⟨action, next, issues.2⟩, clean, req, earlier, rfl⟩
  have found := Foundation.System.Config.getElem?_journal issues.1
  have listed : (c.journal.set index (r.call, ⟨action, input, c.state⟩ :: r.history))[index]?
      = some (r.call, ⟨action, input, c.state⟩ :: r.history) :=
    List.getElem?_set_self (List.getElem?_eq_some_iff.mp found).1
  obtain ⟨-, stored, present, ofKey, same, -⟩ := (exclusive.stepped found permitted).reported index
    _ _ listed _ List.mem_cons_self _ order reports
  have placed := (backed.stepped issues permitted (quiet c index r)).termed.placed stored present
  refine ⟨stored, present, ofKey, same, ?_, ?_⟩
  · rw [Ledger.stateOfRef_congr ledger]
    exact live
  · rw [ofKey] at placed
    exact placed

/-- At the moment `execute_money_action` returns ALLOW the order it returns is
backed by the reservation under its key, in every run whose steps keep the
backing. -/
theorem allow_backed_by_budget (P : Platform) (w : World) (noOrders : ∀ o, o ∉ w.db.orders)
    (noEntries : w.db.ledgerEntries = []) (events : List (application P).Event)
    (kept : Admissible (Guarded KeepsBacking) (initial w) events) (index : Nat) (input : Input)
    (req : MoneyActionRequest) (orderId : String) (result : MoneyActionResult)
    (made : ((initial w : (application P).Config).run events).calls[index]?.map (·.call)
      = some (Call.executeMoneyAction req orderId))
    (returns : ((initial w : (application P).Config).run events).returns? index input
      = some (.ok (.money result)))
    (allowed : result.verdict = .allow) :
    AllowsBacked
      (((initial w : (application P).Config).run events).apply (.step index input)).state.db
      (req.key P) result := by
  obtain ⟨r, action, next, issues, last⟩ := Foundation.System.Config.issues_of_returns? returns
  rw [issues.1] at made
  have made' : r.call = Call.executeMoneyAction req orderId := Option.some.inj made
  rw [Foundation.System.Config.apply_of_issues issues input]
  have obeyed := (run_disciplined (S := application P) (code_obeys P) w events r
    issues.mem).obeys _ issues.2
  have ends := obeyed.2 input ((initial w : (application P).Config).run events).state
  have clean := ((run_disciplined (S := application P) (code_allowsClean P) w events r
    issues.mem).obeys _ issues.2).2 input ((initial w : (application P).Config).run events).state
  rw [last] at ends clean
  rw [made'] at ends clean
  rcases ends with ⟨-, passed, order, ⟨s, earlier, same', reports⟩, named, -⟩ | ⟨denied, -⟩
  · cases same'
    obtain ⟨stored, present, ofKey, sameId, backedBy⟩ :=
      (run_backed P w noOrders noEntries events kept).reported (run_exclusive P w events) issues
        obeyed.1 (fun s member => clean allowed s (List.mem_cons_of_mem _ member)) passed reports
    exact ⟨stored, present, ofKey, by rw [named, sameId], backedBy⟩
  · rw [allowed] at denied
    cases denied

namespace Fixture

/-- A check that is enough for the steps of a single gate call. -/
def checkBacking (c : (application platform).Config) : Event → Bool
  | .step index _ =>
      match c.next? index with
      | some (.attemptG1ThroughG5 _ _) => c.state.db.ledgerEntries.isEmpty
      | some (.claimOrder _) => c.calls.all fun r =>
          match r.call with
          | .createProviderOrder _ => false
          | _ => true
      | some (.releaseReservation _) | some (.voidOrder _ _) | some .sweep => false
      | _ => true
  | _ => true

theorem keepsBacking_of_check (c : (application platform).Config) (e : Event)
    (checked : checkBacking c e = true) : Guarded KeepsBacking c e := by
  cases e with
  | start call => trivial
  | crash index => trivial
  | step index input =>
      intro r action next issues
      simp only [checkBacking, issues.next?] at checked
      cases action with
      | attemptG1ThroughG5 req key =>
          have empty : c.state.db.listForRefId key = [] := by
            simp [Database.listForRefId, List.isEmpty_iff.mp checked]
          refine ⟨fun e member => ?_, .inl (by simp [stateOfRef, Ledger.stateOf, empty])⟩
          rw [empty] at member
          cases member
      | claimOrder args =>
          have fine := List.all_eq_true.mp checked r issues.mem
          refine ⟨fun direct => ?_, trivial⟩
          simp [direct] at fine
      | releaseReservation compensation => cases checked
      | voidOrder compensation orderId => cases checked
      | sweep => cases checked
      | _ => exact ⟨trivial, trivial⟩

/-- A gate call up to its last step. -/
def gateCall : List Event :=
  .start (.executeMoneyAction request "ord_1") :: List.replicate 5 (.step 0 input)

/-- A gate call that nothing interferes with allows, with its order backed. -/
theorem allowed_gate_backed :
    returns decided gateCall 0 input = some (.ok (.money
      { verdict := .allow, reasonCode := .ok, traceId := "trc_1", orderId := some "ord_1"
        providerOrderId := some "order_1" })) ∧
      AllowsBacked ((reached decided gateCall).apply (.step 0 input)).state.db
        (request.key platform)
        { verdict := .allow, reasonCode := .ok, traceId := "trc_1", orderId := some "ord_1"
          providerOrderId := some "order_1" } := by
  have run : Foundation.System.checkRun checkBacking (initial (world decided)) gateCall = true ∧
      returns decided gateCall 0 input = some (.ok (.money
        { verdict := .allow, reasonCode := .ok, traceId := "trc_1", orderId := some "ord_1"
          providerOrderId := some "order_1" })) := by
    decide +kernel
  have kept := Foundation.System.admissible_of_checkRun keepsBacking_of_check run.1
  refine ⟨run.2, ?_⟩
  rw [reached]
  exact allow_backed_by_budget platform (world decided) Foundation.Table.not_mem_empty rfl gateCall
    kept 0 input request "ord_1" _ (reached_call decided gateCall 0) run.2 rfl

/-- The sweeper comes between the two transactions of a gate call. -/
def sweptGateCall : List Event :=
  [.start (.executeMoneyAction request "ord_1"), .step 0 input, .step 0 input, .start .sweep,
    .step 1 { input with now := fun _ _ => start + 301000000 }, .step 0 input, .step 0 input,
    .step 0 input]

/-- The gate allows although its reservation has expired. -/
theorem swept_gate_allows :
    returns decided sweptGateCall 0 input = some (.ok (.money
      { verdict := .allow, reasonCode := .ok, traceId := "trc_1", orderId := some "ord_1"
        providerOrderId := some "order_1" })) ∧
      ¬ Live (stateOfRef ((reached decided sweptGateCall).apply (.step 0 input)).state.db
        (request.key platform)) := by
  have run : returns decided sweptGateCall 0 input = some (.ok (.money
        { verdict := .allow, reasonCode := .ok, traceId := "trc_1", orderId := some "ord_1"
          providerOrderId := some "order_1" })) ∧
      stateOfRef ((reached decided sweptGateCall).apply (.step 0 input)).state.db
        (request.key platform) = some .expired := by
    decide +kernel
  refine ⟨run.1, ?_⟩
  rw [run.2]
  rintro (held | captured)
  · cases held
  · cases captured

end Fixture

end Actl
