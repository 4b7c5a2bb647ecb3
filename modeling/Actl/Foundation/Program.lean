import Mathlib.Data.List.Basic

/-!
# Programs over atomic actions

A program is a tree: it has finished with a value, or it issues an action and
continues with the reply. Everything a program does to the world is one of the
actions, and each action takes effect at one instant, so a program says exactly
at which points other programs can come in between.

Programs may fail. `Code` adds the exceptions: sequencing stops at a raise, and
`tryCatch` resumes with the handler.

The history of a running program is the list of the steps it has taken, the
latest first, each with the input the environment supplied and the state it was
taken in. `Obeys` says that a program only issues actions its history permits
and only ends as its history permits. It is read off the text of a program,
one lemma per way of building programs, and does not depend on what other
programs do.
-/

set_option autoImplicit false

namespace Actl.Foundation

/-! ## Outcomes -/

section Outcomes

variable {ε α β : Type}

@[simp] theorem ok_bind (value : α) (rest : α → Except ε β) : (Except.ok value >>= rest) = rest value :=
  rfl

@[simp] theorem error_bind (failure : ε) (rest : α → Except ε β) :
    (Except.error failure >>= rest) = .error failure := rfl

/-- A sequence that returned did so at every step. -/
theorem bind_eq_ok {first : Except ε α} {rest : α → Except ε β} {value : β} :
    (first >>= rest) = .ok value ↔ ∃ middle, first = .ok middle ∧ rest middle = .ok value := by
  cases first with
  | ok middle => simp
  | error failure => simp

/-- A sequence that raised did so at one of its steps. -/
theorem bind_eq_error {first : Except ε α} {rest : α → Except ε β} {failure : ε} :
    (first >>= rest) = .error failure ↔
      first = .error failure ∨ ∃ middle, first = .ok middle ∧ rest middle = .error failure := by
  cases first with
  | ok middle => simp
  | error failure => simp

end Outcomes

/-! ## Programs -/

/-- A program that issues actions and continues with their replies. -/
inductive Program (A : Type) (R : A → Type) (α : Type) where
  | done (value : α)
  | act (action : A) (next : R action → Program A R α)

namespace Program

variable {A : Type} {R : A → Type} {α β γ : Type}

/-- Running one program and then another on its value. -/
def bind : Program A R α → (α → Program A R β) → Program A R β
  | .done value, rest => rest value
  | .act action next, rest => .act action fun reply => (next reply).bind rest

instance : Monad (Program A R) where
  pure := .done
  bind := bind

@[simp] theorem pure_eq (value : α) : (pure value : Program A R α) = .done value := rfl

@[simp] theorem done_bind (value : α) (rest : α → Program A R β) :
    (Program.done value >>= rest) = rest value := rfl

@[simp] theorem act_bind (action : A) (next : R action → Program A R α)
    (rest : α → Program A R β) :
    (Program.act action next >>= rest) = .act action fun reply => next reply >>= rest := rfl

theorem bind_assoc (first : Program A R α) (second : α → Program A R β)
    (third : β → Program A R γ) :
    (first.bind second).bind third = first.bind fun value => (second value).bind third := by
  induction first with
  | done value => rfl
  | act action next ih =>
      simp only [bind]
      congr 1
      funext reply
      exact ih reply

end Program

/-- A program that may raise. -/
abbrev Code (A : Type) (R : A → Type) (ε α : Type) : Type :=
  ExceptT ε (Program A R) α

namespace Code

variable {A : Type} {R : A → Type} {ε α β γ : Type}

/-- The program that issues one action whose reply is a value or an exception. -/
def perform (action : A) (reply : R action → Except ε α) : Code A R ε α :=
  Program.act action fun r => Program.done (reply r)

/-- The handler of `tryCatch`, applied to the outcome of the body. -/
def recover (handler : ε → Code A R ε α) : Except ε α → Program A R (Except ε α)
  | .ok value => .done (.ok value)
  | .error failure => handler failure

/-- The outcome of the body as a value, so that the code after it can tell how
it ended. -/
def outcome (body : Code A R ε α) : Code A R ε (Except ε α) :=
  Program.bind body fun result => .done (.ok result)

theorem pure_eq (value : α) : (pure value : Code A R ε α) = Program.done (.ok value) := rfl

theorem throw_eq (failure : ε) : (throw failure : Code A R ε α) = Program.done (.error failure) :=
  rfl

theorem bind_eq (body : Code A R ε α) (rest : α → Code A R ε β) :
    (body >>= rest) = Program.bind body (ExceptT.bindCont rest) := rfl

theorem bind_assoc (first : Code A R ε α) (second : α → Code A R ε β)
    (third : β → Code A R ε γ) :
    ((first >>= second) >>= third) = (first >>= fun value => second value >>= third) := by
  simp only [bind_eq]
  refine (Program.bind_assoc ..).trans ?_
  congr 1
  funext outcome
  cases outcome with
  | ok value => rfl
  | error failure => rfl

theorem tryCatch_eq (body : Code A R ε α) (handler : ε → Code A R ε α) :
    tryCatch body handler = Program.bind body (recover handler) := rfl

end Code

/-! ## Histories -/

/-- One step of a program: the action it issued, the input the environment
supplied and the state the action was performed in. -/
structure Step (A I σ : Type) where
  action : A
  input : I
  before : σ

section Obeys

variable {A : Type} {R : A → Type} {I σ α β : Type}
variable (execute : (a : A) → I → σ → R a × σ)

/-- From the given history on, the program issues an action only where `may`
permits it and ends only as `ends` permits. Histories have the latest step
first. -/
def Obeys (may : List (Step A I σ) → A → Prop) (ends : α → List (Step A I σ) → Prop) :
    List (Step A I σ) → Program A R α → Prop
  | history, .done value => ends value history
  | history, .act action next =>
      may history action ∧
        ∀ input before, Obeys may ends (⟨action, input, before⟩ :: history)
          (next (execute action input before).1)

variable {execute} {may : List (Step A I σ) → A → Prop} {ends : α → List (Step A I σ) → Prop}

theorem Obeys.bind {ends' : β → List (Step A I σ) → Prop} {body : Program A R α}
    {rest : α → Program A R β} {history : List (Step A I σ)}
    (first : Obeys execute may (fun value past => Obeys execute may ends' past (rest value))
      history body) :
    Obeys execute may ends' history (body.bind rest) := by
  induction body generalizing history with
  | done value => exact first
  | act action next ih =>
      exact ⟨first.1, fun input before => ih _ (first.2 input before)⟩

theorem Obeys.mono {ends' : α → List (Step A I σ) → Prop} {body : Program A R α}
    {history : List (Step A I σ)} (obeys : Obeys execute may ends history body)
    (weaker : ∀ value past, ends value past → ends' value past) :
    Obeys execute may ends' history body := by
  induction body generalizing history with
  | done value => exact weaker value history obeys
  | act action next ih =>
      exact ⟨obeys.1, fun input before => ih _ (obeys.2 input before)⟩

/-- The history a program ends with extends the one it started from. -/
theorem Obeys.extends {body : Program A R α} {history : List (Step A I σ)}
    (obeys : Obeys execute may ends history body) :
    Obeys execute may (fun value past => history <:+ past ∧ ends value past) history body := by
  induction body generalizing history with
  | done value => exact ⟨List.suffix_refl _, obeys⟩
  | act action next ih =>
      refine ⟨obeys.1, fun input before => (ih _ (obeys.2 input before)).mono ?_⟩
      intro value past holds
      exact ⟨(List.suffix_cons _ _).trans holds.1, holds.2⟩

/-- Every program obeys a discipline that asks for nothing. -/
theorem obeys_nothing (body : Program A R α) (history : List (Step A I σ)) :
    Obeys execute (fun _ _ => True) (fun _ _ => True) history body := by
  induction body generalizing history with
  | done value => trivial
  | act action next ih => exact ⟨trivial, fun input before => ih _ _⟩

end Obeys

/-! ## Confined programs -/

namespace Program

variable {A : Type} {R : A → Type} {I σ α β : Type}

/-- Every action the program can issue is one of the allowed ones. -/
def Confined (allowed : A → Prop) : Program A R α → Prop
  | .done _ => True
  | .act action next => allowed action ∧ ∀ reply, (next reply).Confined allowed

variable {allowed : A → Prop}

theorem Confined.bind {body : Program A R α} {rest : α → Program A R β}
    (first : body.Confined allowed) (next : ∀ value, (rest value).Confined allowed) :
    (body.bind rest).Confined allowed := by
  induction body with
  | done value => exact next value
  | act action continue' ih => exact ⟨first.1, fun reply => ih reply (first.2 reply)⟩

theorem Confined.mono {wider : A → Prop} {body : Program A R α} (confined : body.Confined allowed)
    (weaker : ∀ action, allowed action → wider action) : body.Confined wider := by
  induction body with
  | done value => trivial
  | act action next ih =>
      exact ⟨weaker action confined.1, fun reply => ih reply (confined.2 reply)⟩

/-- What allowed actions keep of a history holds at the end of a confined
program. -/
theorem Confined.obeys {execute : (a : A) → I → σ → R a × σ} {body : Program A R α}
    (confined : body.Confined allowed) (kept : List (Step A I σ) → Prop)
    (keeps : ∀ s past, allowed s.action → kept past → kept (s :: past))
    {history : List (Step A I σ)} (holds : kept history) :
    Obeys execute (fun _ _ => True) (fun _ past => kept past) history body := by
  induction body generalizing history with
  | done value => exact holds
  | act action next ih =>
      exact ⟨trivial, fun input before => ih _ (confined.2 _) (keeps _ _ confined.1 holds)⟩

/-- A confined program obeys any discipline that permits the allowed actions as long as
what they keep holds. -/
theorem Confined.permitted {execute : (a : A) → I → σ → R a × σ} {body : Program A R α}
    (confined : body.Confined allowed) (kept : List (Step A I σ) → Prop)
    {may : List (Step A I σ) → A → Prop}
    (permits : ∀ past action, kept past → allowed action → may past action)
    (keeps : ∀ s past, allowed s.action → kept past → kept (s :: past))
    {history : List (Step A I σ)} (holds : kept history) :
    Obeys execute may (fun _ past => kept past) history body := by
  induction body generalizing history with
  | done value => exact holds
  | act action next ih =>
      refine ⟨permits history action holds confined.1, fun input before => ?_⟩
      exact ih _ (confined.2 _) (keeps _ _ confined.1 holds)

/-- What a confined program issues is allowed, besides being permitted. -/
theorem Confined.obeys_and {execute : (a : A) → I → σ → R a × σ} {body : Program A R α}
    (confined : body.Confined allowed) {may : List (Step A I σ) → A → Prop}
    {ends : α → List (Step A I σ) → Prop} {history : List (Step A I σ)}
    (obeys : Obeys execute may ends history body) :
    Obeys execute (fun past action => allowed action ∧ may past action) ends history body := by
  induction body generalizing history with
  | done value => exact obeys
  | act action next ih =>
      exact ⟨⟨confined.1, obeys.1⟩, fun input before => ih _ (confined.2 _) (obeys.2 input before)⟩

/-- What allowed actions keep of a history may be used at every step of a confined
program. -/
theorem Confined.keeping {execute : (a : A) → I → σ → R a × σ} {body : Program A R α}
    (confined : body.Confined allowed) (kept : List (Step A I σ) → Prop)
    (keeps : ∀ s past, allowed s.action → kept past → kept (s :: past))
    {may : List (Step A I σ) → A → Prop} {ends : α → List (Step A I σ) → Prop}
    {history : List (Step A I σ)} (obeys : Obeys execute may ends history body)
    (holds : kept history) :
    Obeys execute (fun past action => kept past ∧ may past action)
      (fun value past => kept past ∧ ends value past) history body := by
  induction body generalizing history with
  | done value => exact ⟨holds, obeys⟩
  | act action next ih =>
      refine ⟨⟨holds, obeys.1⟩, fun input before => ?_⟩
      exact ih _ (confined.2 _) (obeys.2 input before) (keeps _ _ confined.1 holds)

end Program

/-! ## Histories of code -/

namespace Code

variable {A : Type} {R : A → Type} {I σ ε α β : Type} {allowed : A → Prop}

/-- Every action the code can issue is one of the allowed ones. -/
abbrev ConfinedCode (allowed : A → Prop) (body : Code A R ε α) : Prop :=
  Program.Confined allowed body

theorem confined_pure (value : α) : ConfinedCode allowed (pure value : Code A R ε α) := trivial

theorem confined_throw (failure : ε) : ConfinedCode allowed (throw failure : Code A R ε α) :=
  trivial

theorem confined_perform {action : A} (fine : allowed action) (reply : R action → Except ε α) :
    ConfinedCode allowed (perform action reply) := ⟨fine, fun _ => trivial⟩

theorem confined_bind {body : Code A R ε α} {rest : α → Code A R ε β}
    (first : ConfinedCode allowed body) (next : ∀ value, ConfinedCode allowed (rest value)) :
    ConfinedCode allowed (body >>= rest) := by
  refine Program.Confined.bind first fun outcome => ?_
  cases outcome with
  | ok value => exact next value
  | error failure => trivial

theorem confined_tryCatch {body : Code A R ε α} {handler : ε → Code A R ε α}
    (first : ConfinedCode allowed body) (next : ∀ failure, ConfinedCode allowed (handler failure)) :
    ConfinedCode allowed (tryCatch body handler) := by
  rw [tryCatch_eq]
  refine Program.Confined.bind first fun outcome => ?_
  cases outcome with
  | ok value => trivial
  | error failure => exact next failure

theorem confined_outcome {body : Code A R ε α} (first : ConfinedCode allowed body) :
    ConfinedCode allowed (outcome body) :=
  Program.Confined.bind first fun _ => trivial

variable {execute : (a : A) → I → σ → R a × σ} {may : List (Step A I σ) → A → Prop}
variable {history : List (Step A I σ)}

/-- How code obeys: one condition for returning and one for raising. -/
abbrev ObeysCode (execute : (a : A) → I → σ → R a × σ) (may : List (Step A I σ) → A → Prop)
    (returns : α → List (Step A I σ) → Prop) (raises : ε → List (Step A I σ) → Prop)
    (history : List (Step A I σ)) (body : Code A R ε α) : Prop :=
  Obeys execute may
    (fun outcome past => match outcome with
      | .ok value => returns value past
      | .error failure => raises failure past) history body

theorem obeys_pure {returns : α → List (Step A I σ) → Prop}
    {raises : ε → List (Step A I σ) → Prop} {value : α} (holds : returns value history) :
    ObeysCode execute may returns raises history (pure value : Code A R ε α) := holds

theorem obeys_throw {returns : α → List (Step A I σ) → Prop}
    {raises : ε → List (Step A I σ) → Prop} {failure : ε} (holds : raises failure history) :
    ObeysCode execute may returns raises history (throw failure : Code A R ε α) := holds

theorem obeys_perform {returns : α → List (Step A I σ) → Prop}
    {raises : ε → List (Step A I σ) → Prop} {action : A} {reply : R action → Except ε α}
    (permitted : may history action)
    (holds : ∀ input before, match reply (execute action input before).1 with
      | .ok value => returns value (⟨action, input, before⟩ :: history)
      | .error failure => raises failure (⟨action, input, before⟩ :: history)) :
    ObeysCode execute may returns raises history (perform action reply) :=
  ⟨permitted, fun input before => holds input before⟩

/-- Sequencing: what follows is obeyed from every history the first part can
return with. -/
theorem obeys_bind (middle : α → List (Step A I σ) → Prop) {returns : β → List (Step A I σ) → Prop}
    {raises : ε → List (Step A I σ) → Prop} {body : Code A R ε α} {rest : α → Code A R ε β}
    (first : ObeysCode execute may middle raises history body)
    (next : ∀ value past, history <:+ past → middle value past →
      ObeysCode execute may returns raises past (rest value)) :
    ObeysCode execute may returns raises history (body >>= rest) := by
  refine Obeys.bind (Obeys.mono first.extends fun outcome past holds => ?_)
  cases outcome with
  | ok value => exact next value past holds.1 holds.2
  | error failure => exact holds.2

/-- Handling: the handler is obeyed from every history the body can raise
with. -/
theorem obeys_tryCatch {returns : α → List (Step A I σ) → Prop}
    (middle : ε → List (Step A I σ) → Prop) {raises : ε → List (Step A I σ) → Prop} {body : Code A R ε α}
    {handler : ε → Code A R ε α} (first : ObeysCode execute may returns middle history body)
    (next : ∀ failure past, history <:+ past → middle failure past →
      ObeysCode execute may returns raises past (handler failure)) :
    ObeysCode execute may returns raises history (tryCatch body handler) := by
  rw [tryCatch_eq]
  refine Obeys.bind (Obeys.mono first.extends fun outcome past holds => ?_)
  cases outcome with
  | ok value => exact holds.2
  | error failure => exact next failure past holds.1 holds.2

theorem obeys_outcome {returns : Except ε α → List (Step A I σ) → Prop}
    {raises : ε → List (Step A I σ) → Prop} {body : Code A R ε α}
    (first : ObeysCode execute may (fun value past => returns (.ok value) past)
      (fun failure past => returns (.error failure) past) history body) :
    ObeysCode execute may returns raises history (outcome body) := by
  refine Obeys.bind (Obeys.mono first fun result past holds => ?_)
  cases result with
  | ok value => exact holds
  | error failure => exact holds

theorem obeys_mono {returns returns' : α → List (Step A I σ) → Prop}
    {raises raises' : ε → List (Step A I σ) → Prop} {body : Code A R ε α}
    (obeys : ObeysCode execute may returns raises history body)
    (returned : ∀ value past, returns value past → returns' value past)
    (raised : ∀ failure past, raises failure past → raises' failure past) :
    ObeysCode execute may returns' raises' history body := by
  refine Obeys.mono obeys fun outcome past holds => ?_
  cases outcome with
  | ok value => exact returned value past holds
  | error failure => exact raised failure past holds

end Code

end Actl.Foundation
