import Actl.Effects.Actions

/-!
# The discipline of the calls

What a call has done says which actions it may issue next (`May`) and how it may
end (`Ends`). The conditions are read off the programs once, and every result
about interleaved runs uses them instead of the programs: an order is created at
the provider only by the call that won the claim, an order is claimed only after
the gate was passed, a saga is settled only after its payment was recorded as
captured, and so on.
-/

set_option autoImplicit false

namespace Actl

open Foundation (Step)
open Payments (OrderArgs)
open Gate (MoneyActionRequest MoneyActionResult)

/-- What a call has done, the latest step first. -/
abbrev Past : Type := List (Step Action Input World)

/-! ## Steps and their replies -/

section Steps

variable (P : Platform)

/-- The step performed the action, which answered with the value. -/
def Answered (s : Step Action Input World) (action : Action) (value : Value action) : Prop :=
  s.action = action ∧ (execute P action s.input s.before).1 = .ok value

/-- The step performed the action, which raised. -/
def Raised (s : Step Action Input World) (action : Action) (failure : Failure) : Prop :=
  s.action = action ∧ (execute P action s.input s.before).1 = .error failure

def Did (past : Past) (action : Action) (value : Value action) : Prop :=
  ∃ s ∈ past, Answered P s action value

/-- The latest step satisfies the condition. -/
def Latest (past : Past) (holds : Step Action Input World → Prop) : Prop :=
  ∃ s earlier, past = s :: earlier ∧ holds s

/-- The step finished the attempt to create an order. -/
def Finishes (args : OrderArgs) (s : Step Action Input World) : Prop :=
  (∃ message, Answered P s (.recordOrderCreationFailed args message) ()) ∨
    ∃ providerOrderId order, Answered P s (.recordProviderOrder args providerOrderId) order

/-- The call has won the claim and has not finished the attempt. -/
def Owns (args : OrderArgs) : Past → Prop
  | [] => False
  | s :: past => Answered P s (.claimOrder args) true ∨ (Owns args past ∧ ¬ Finishes P args s)

/-- The step learned the order of a completed key. -/
def Reports (s : Step Action Input World) (key : String) (order : OrderRecord) : Prop :=
  Answered P s (.lookupIdempotencyKey key) (.completed order) ∨
    Answered P s (.pollIdempotencyKey key) (some order) ∨
    ∃ args providerOrderId, args.key P = key ∧
      Answered P s (.recordProviderOrder args providerOrderId) order

/-- The step learned that a key has failed or is still in flight. -/
def Waits (s : Step Action Input World) (key : String) : Prop :=
  Raised P s (.lookupIdempotencyKey key) .idempotentAttemptFailed ∨
    Raised P s (.pollIdempotencyKey key) .idempotentAttemptFailed ∨
    Answered P s (.pollIdempotencyKey key) none

variable {P}

theorem Answered.unique {s : Step Action Input World} {action : Action} {value value' : Value action}
    (one : Answered P s action value) (two : Answered P s action value') : value = value' :=
  Except.ok.inj (one.2.symm.trans two.2)

theorem Raised.not_answered {s : Step Action Input World} {action : Action} {failure : Failure}
    {value : Value action} (raised : Raised P s action failure) : ¬ Answered P s action value := by
  intro answered
  cases raised.2.symm.trans answered.2

theorem Did.mono {past later : Past} {action : Action} {value : Value action}
    (did : Did P past action value) (longer : past <:+ later) : Did P later action value := by
  obtain ⟨s, member, answered⟩ := did
  exact ⟨s, longer.subset member, answered⟩

theorem did_cons {s : Step Action Input World} {past : Past} {action : Action}
    {value : Value action} (answered : Answered P s action value) :
    Did P (s :: past) action value :=
  ⟨s, List.mem_cons_self, answered⟩

theorem latest_cons {s : Step Action Input World} {past : Past}
    {holds : Step Action Input World → Prop} (here : holds s) : Latest (s :: past) holds :=
  ⟨s, past, rfl, here⟩

end Steps

/-! ## Calls -/

section Calls

variable (P : Platform)

/-- The money action a call is about. -/
def Requests (past : Past) (req : MoneyActionRequest) : Call → Prop
  | .executeMoneyAction req' _ | .beginPurchase req' _ => req = req'
  | .handleOrderPropose args _ => Did P past (.proposeOrder args) (.allowed req)
  | _ => False

def Call.orderId? : Call → Option String
  | .executeMoneyAction _ orderId | .beginPurchase _ orderId | .handleOrderPropose _ orderId =>
      some orderId
  | _ => none

/-- The call has passed the gate with this request. -/
def PassedGate (past : Past) (req : MoneyActionRequest) : Prop :=
  Did P past (.attemptG1ThroughG5 req (req.key P)) none

/-- The order a call is to create: its own argument, or what the gate makes of
its request once it is passed. -/
def Orders (past : Past) (args : OrderArgs) (call : Call) : Prop :=
  call = .createProviderOrder args ∨
    ∃ req orderId, Requests P past req call ∧ call.orderId? = some orderId ∧
      args = req.orderArgs orderId ∧ PassedGate P past req

/-- The completion a call is about. -/
def CompletesWith (past : Past) (args : CompleteArgs) : Call → Prop
  | .completePurchase args' => args = args'
  | .checkout body _ => args.sagaId = body.sagaId ∧ ∃ order,
      Did P past (.getOrder body.orderId) (some order) ∧
        order.providerOrderId = some args.providerOrderId
  | _ => False

/-- The saga a call is completing, as it was read. -/
structure Completes (call : Call) (past : Past) (args : CompleteArgs) (saga : SagaRecord)
    (orderId : String) : Prop where
  about : CompletesWith P past args call
  read : Did P past (.getSaga args.sagaId) (some saga)
  awaiting : saga.status = .awaitingAuthorization
  order : saga.orderId = some orderId

/-- How a call of the gate may return. -/
def GateReturns (past : Past) (req : MoneyActionRequest) (result : MoneyActionResult) : Prop :=
  (result.verdict = .allow ∧ PassedGate P past req ∧ ∃ order,
      Latest past (Reports P · (req.key P) order) ∧ result.orderId = some order.id ∧
        result.providerOrderId = order.providerOrderId) ∨
    (result.verdict = .deny ∧ Latest past fun s =>
      s.action = .getHaltState ∨
      (s.action = .attemptG1ThroughG5 req (req.key P) ∧
        ¬ Answered P s (.attemptG1ThroughG5 req (req.key P)) none) ∨
      Waits P s (req.key P) ∨
      ∃ reason, Answered P s (.releaseReservation (gateCompensation P req reason)) () ∧
        PassedGate P past req)

/-- How a call of the gate may raise: the compensation itself has failed. -/
def GateRaises (past : Past) (req : MoneyActionRequest) : Prop :=
  PassedGate P past req ∧ Latest past fun s => ∃ reason failure,
    Raised P s (.releaseReservation (gateCompensation P req reason)) failure

/-- What a call may issue, given what it has done. -/
def May (call : Call) (past : Past) : Action → Prop
  | .attemptG1ThroughG5 req key =>
      key = req.key P ∧ Requests P past req call ∧ req.isMalformed = false ∧
        ∃ haltState, Did P past .getHaltState haltState ∧ haltState.halted = false
  | .claimOrder args => Orders P past args call
  | .createOrder args => Owns P args past ∧ Latest past fun s =>
      Answered P s (.claimOrder args) true ∨
        ∃ message, Raised P s (.createOrder args) (.transientProviderError message)
  | .recordOrderCreationFailed args _ => Owns P args past
  | .recordProviderOrder args providerOrderId =>
      Owns P args past ∧ Latest past (Answered P · (.createOrder args) providerOrderId)
  | .releaseReservation c => ∃ req reason, Requests P past req call ∧ PassedGate P past req ∧
      c = gateCompensation P req reason
  | .openSaga req key => key = req.key P ∧ Requests P past req call
  | .resolveSaga key result => ∃ req, Requests P past req call ∧ key = req.key P ∧
      Did P past (.openSaga req key) none ∧ GateReturns P past req result
  | .capturePayment paymentId _ => ∃ args saga orderId, Completes P call past args saga orderId ∧
      paymentId = args.providerPaymentId ∧
      P.verifyCheckoutSignature args.providerOrderId paymentId args.providerSignature = true
  | .recordPaymentFailed orderId _ _ _ _ _ =>
      ∃ args saga, Completes P call past args saga orderId
  | .recordPaymentCaptured orderId paymentId _ _ _ => ∃ args saga amountMinor,
      Completes P call past args saga orderId ∧ paymentId = args.providerPaymentId ∧
      P.verifyCheckoutSignature args.providerOrderId paymentId args.providerSignature = true ∧
      Latest past (Answered P · (.capturePayment paymentId amountMinor) ())
  | .settle saga orderId paymentId _ _ => ∃ args signature actorId traceId,
      Completes P call past args saga orderId ∧ paymentId = args.providerPaymentId ∧
      P.verifyCheckoutSignature args.providerOrderId paymentId args.providerSignature = true ∧
      Latest past (Answered P · (.recordPaymentCaptured orderId paymentId signature actorId traceId)
        ())
  | .refundPayment paymentId _ _ => ∃ args saga orderId actorId traceId,
      Completes P call past args saga orderId ∧ paymentId = args.providerPaymentId ∧
      Did P past (.settle saga orderId paymentId actorId traceId) none
  | .reverseSettlement c orderId => ∃ args saga reason actorId traceId amountMinor key,
      Completes P call past args saga orderId ∧ c = sagaCompensation args saga reason ∧
      Did P past (.settle saga orderId args.providerPaymentId actorId traceId) none ∧
      Latest past (Answered P · (.refundPayment args.providerPaymentId amountMinor key) ())
  | .voidOrder c orderId => ∃ args saga reason, Completes P call past args saga orderId ∧
      c = sagaCompensation args saga reason
  | .finalizeSaga sagaId _ status => ∃ args saga orderId reason,
      Completes P call past args saga orderId ∧ sagaId = args.sagaId ∧ status = .compensated ∧
      (Latest past (Answered P · (.voidOrder (sagaCompensation args saga reason) orderId) ()) ∨
        (∃ actorId traceId,
          Did P past (.settle saga orderId args.providerPaymentId actorId traceId) none) ∧
        Latest past
          (Answered P · (.reverseSettlement (sagaCompensation args saga reason) orderId) ()))
  | .proposeOrder args => past = [] ∧ ∃ orderId, call = .handleOrderPropose args orderId
  | _ => True

/-- How a call may end. -/
def Ends (call : Call) (result : Except Failure Outcome) (past : Past) : Prop :=
  match call with
  | .createProviderOrder args =>
      match result with
      | .ok (.order order _) => Latest past (Reports P · (args.key P) order)
      | _ => True
  | .executeMoneyAction req _ =>
      match result with
      | .ok (.money result) => GateReturns P past req result
      | .ok _ => False
      | .error _ => GateRaises P past req
  | _ => True

variable {P}

theorem Requests.mono {past later : Past} {req : MoneyActionRequest} {call : Call}
    (requests : Requests P past req call) (longer : past <:+ later) : Requests P later req call := by
  cases call with
  | handleOrderPropose args orderId => exact Did.mono requests longer
  | _ => exact requests

theorem Orders.mono {past later : Past} {args : OrderArgs} {call : Call}
    (orders : Orders P past args call) (longer : past <:+ later) : Orders P later args call := by
  rcases orders with direct | ⟨req, orderId, requests, drawn, same, passed⟩
  · exact .inl direct
  · exact .inr ⟨req, orderId, requests.mono longer, drawn, same, Did.mono passed longer⟩

theorem CompletesWith.mono {past later : Past} {args : CompleteArgs} {call : Call}
    (about : CompletesWith P past args call) (longer : past <:+ later) :
    CompletesWith P later args call := by
  cases call with
  | checkout body traceId =>
      obtain ⟨same, order, read, drawn⟩ := about
      exact ⟨same, order, read.mono longer, drawn⟩
  | _ => exact about

theorem Completes.mono {past later : Past} {call : Call} {args : CompleteArgs}
    {saga : SagaRecord} {orderId : String} (completes : Completes P call past args saga orderId)
    (longer : past <:+ later) : Completes P call later args saga orderId :=
  ⟨completes.about.mono longer, completes.read.mono longer, completes.awaiting, completes.order⟩

end Calls

end Actl
