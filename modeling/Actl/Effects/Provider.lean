import Actl.Effects.Actions

/-!
# What the actions do at the provider

Payments are captured and refunded at the provider by two actions only, and what was
captured or refunded stays so.
-/

set_option autoImplicit false

namespace Actl

/-- The payments of the provider before and after an action. -/
structure ProviderAfter (action : Action) (before after : Provider) : Prop where
  captured : before.captured ⊆ after.captured
  refunded : before.refunded ⊆ after.refunded
  charges : ∀ paymentId ∈ after.captured, paymentId ∈ before.captured ∨
    ∃ amountMinor, action = .capturePayment paymentId amountMinor
  refunds : ∀ paymentId ∈ after.refunded, paymentId ∈ before.refunded ∨
    ∃ amountMinor key, action = .refundPayment paymentId amountMinor key

section Provider

variable {action : Action} {w : World}

theorem ProviderAfter.refl (action : Action) (before : Provider) :
    ProviderAfter action before before :=
  ⟨List.Subset.refl _, List.Subset.refl _, fun _ => .inl, fun _ => .inl⟩

theorem providerAfter_transaction {α : Type} (dbError : Bool)
    (body : Database → Except Failure (α × Database)) :
    ProviderAfter action w.provider (w.transaction dbError body).2.provider := by
  rcases w.transaction_cases dbError body with ⟨failure, done, -⟩ | ⟨value, db, -, -, done⟩
  · rw [done]
    exact .refl _ _
  · rw [done]
    exact .refl _ _

theorem providerAfter_query {α : Type} (dbError : Bool) (body : Database → Except Failure α) :
    ProviderAfter action w.provider (w.query dbError body).2.provider := by
  rw [w.query_world]
  exact .refl _ _

/-- A provider call has had its effect or none. -/
theorem World.external_provider {α : Type} (w : World) (input : Input) (value : α)
    (effect : Provider → Provider) :
    (w.external input value effect).2.provider = w.provider ∨
      (w.external input value effect).2.provider = effect w.provider := by
  cases answer : input.answer with
  | ok _ => simp [World.external, answer]
  | error failure =>
      cases failure <;> cases took : input.tookEffect <;> simp [World.external, answer, took]

/-- A provider call that answers has had its effect. -/
theorem World.external_answered {α : Type} {w : World} {input : Input} {value answer : α}
    {effect : Provider → Provider} (answered : (w.external input value effect).1 = .ok answer) :
    (w.external input value effect).2.provider = effect w.provider := by
  unfold World.external at answered ⊢
  split at answered
  · rfl
  · cases answered

theorem providerAfter_external {α : Type} {input : Input} {value : α}
    {effect : Provider → Provider} (after : ProviderAfter action w.provider (effect w.provider)) :
    ProviderAfter action w.provider (w.external input value effect).2.provider := by
  rcases w.external_provider input value effect with same | took
  · rw [same]
    exact .refl _ _
  · rw [took]
    exact after

end Provider

/-- What an action does at the provider. -/
theorem execute_provider (P : Platform) (action : Action) (input : Input) (w : World) :
    ProviderAfter action w.provider (execute P action input w).2.provider := by
  cases action with
  | createOrder args =>
      exact providerAfter_external ⟨List.Subset.refl _, List.Subset.refl _, fun _ => .inl,
        fun _ => .inl⟩
  | fetchPayments providerOrderId => exact providerAfter_external (.refl _ _)
  | capturePayment paymentId amountMinor =>
      refine providerAfter_external ⟨List.subset_cons_self _ _, List.Subset.refl _,
        fun charged member => ?_, fun _ => .inl⟩
      rcases List.mem_cons.mp member with rfl | old
      · exact .inr ⟨amountMinor, rfl⟩
      · exact .inl old
  | refundPayment paymentId amountMinor key =>
      refine providerAfter_external ⟨List.Subset.refl _, List.subset_cons_self _ _,
        fun _ => .inl, fun refunded member => ?_⟩
      rcases List.mem_cons.mp member with rfl | old
      · exact .inr ⟨amountMinor, key, rfl⟩
      · exact .inl old
  | getHaltState => exact providerAfter_query ..
  | lookupIdempotencyKey key => exact providerAfter_query ..
  | pollIdempotencyKey key => exact providerAfter_query ..
  | getSaga sagaId => exact providerAfter_query ..
  | getMandateStatus mandateId => exact providerAfter_query ..
  | getOrder orderId => exact providerAfter_query ..
  | _ => exact providerAfter_transaction ..

end Actl
