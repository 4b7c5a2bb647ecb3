import Actl.Foundation.Run

/-!
# Programs that run by themselves

`Concludes` is the big-step meaning of a program: from one state it can end with a value
in another, with nothing in between its actions, on inputs of an allowed kind.
Sequencing and handling are composition (`concludes_bind`, `concludes_bind_ok`,
`concludes_tryCatch`), and what all its actions keep is kept by the whole program
(`Concludes.keeps`). A call that is alone is one of the runs of its system
(`run_concludes`), and a program that is part of a larger one ends there as it does by
itself (`concludes_embed`).
-/

set_option autoImplicit false

namespace Actl.Foundation

namespace Program

variable {A : Type} {R : A → Type} {I σ α β : Type}
variable (execute : (a : A) → I → σ → R a × σ) (allowed : I → Prop)

/-- From the first state the program can end with the value in the second. -/
def Concludes : Program A R α → σ → α → σ → Prop
  | .done value, s, result, s' => result = value ∧ s' = s
  | .act action next, s, result, s' => ∃ input, allowed input ∧
      Concludes (next (execute action input s).1) (execute action input s).2 result s'

/-- The program run with one and the same input for all its actions. -/
def uniformly (input : I) : Program A R α → σ → α × σ
  | .done value, s => (value, s)
  | .act action next, s =>
      uniformly input (next (execute action input s).1) (execute action input s).2

/-- The program run with an input for each of its actions. -/
def alone : Program A R α → (Nat → I) → σ → α × σ
  | .done value, _, s => (value, s)
  | .act action next, inputs, s =>
      alone (next (execute action (inputs 0) s).1) (fun i => inputs (i + 1))
        (execute action (inputs 0) s).2

variable {execute allowed}

/-- Such a run is one of its ends. -/
theorem concludes_alone (body : Program A R α) {inputs : Nat → I} (fine : ∀ i, allowed (inputs i))
    (s : σ) : Concludes execute allowed body s (body.alone execute inputs s).1
      (body.alone execute inputs s).2 := by
  induction body generalizing inputs s with
  | done value => exact ⟨rfl, rfl⟩
  | act action next ih => exact ⟨inputs 0, fine 0, ih _ (fun i => fine (i + 1)) _⟩

/-- A program always ends. -/
theorem concludes_uniformly (body : Program A R α) {input : I} (fine : allowed input) (s : σ) :
    Concludes execute allowed body s (body.uniformly execute input s).1
      (body.uniformly execute input s).2 := by
  induction body generalizing s with
  | done value => exact ⟨rfl, rfl⟩
  | act action next ih => exact ⟨input, fine, ih _ _⟩

theorem concludes_bind {body : Program A R α} {rest : α → Program A R β} {s s' : σ} {result : β} :
    Concludes execute allowed (body.bind rest) s result s' ↔
      ∃ value middle, Concludes execute allowed body s value middle ∧
        Concludes execute allowed (rest value) middle result s' := by
  induction body generalizing s with
  | done value =>
      constructor
      · intro ended
        exact ⟨value, s, ⟨rfl, rfl⟩, ended⟩
      · rintro ⟨_, _, ⟨rfl, rfl⟩, ended⟩
        exact ended
  | act action next ih =>
      constructor
      · rintro ⟨input, fine, ended⟩
        obtain ⟨value, middle, first, second⟩ := (ih _).mp ended
        exact ⟨value, middle, ⟨input, fine, first⟩, second⟩
      · rintro ⟨value, middle, ⟨input, fine, first⟩, second⟩
        exact ⟨input, fine, (ih _).mpr ⟨value, middle, first, second⟩⟩

/-- Inputs of a wider kind allow the same ends. -/
theorem Concludes.mono {wider : I → Prop} (kind : ∀ input, allowed input → wider input)
    {body : Program A R α} {s s' : σ} {result : α}
    (ended : Concludes execute allowed body s result s') :
    Concludes execute wider body s result s' := by
  induction body generalizing s with
  | done value => exact ended
  | act action next ih =>
      obtain ⟨input, fine, rest⟩ := ended
      exact ⟨input, kind input fine, ih _ rest⟩

/-- A relation that every action of the program keeps relates the program's
states. -/
theorem Concludes.keeps {issued : A → Prop} (related : σ → σ → Prop) (refl : ∀ s, related s s)
    (trans : ∀ s s' s'', related s s' → related s' s'' → related s s'')
    (kept : ∀ action, issued action → ∀ input s, related s (execute action input s).2)
    {body : Program A R α} (confined : body.Confined issued) {s s' : σ} {result : α}
    (ended : Concludes execute allowed body s result s') : related s s' := by
  induction body generalizing s with
  | done value =>
      obtain ⟨-, rfl⟩ := ended
      exact refl _
  | act action next ih =>
      obtain ⟨input, -, rest⟩ := ended
      exact trans _ _ _ (kept action confined.1 input s) (ih _ (confined.2 _) rest)

/-! ## A program within another system -/

section Embed

variable {B : Type} {Q : B → Type} {execute' : (b : B) → I → σ → Q b × σ}

/-- A program that has its actions done by another system. -/
def embed (f : A → B) (reply : (a : A) → Q (f a) → R a) : Program A R α → Program B Q α
  | .done value => .done value
  | .act action next => .act (f action) fun answer => embed f reply (next (reply action answer))

/-- Where the other system does the actions alike, the program ends alike. -/
theorem concludes_embed {f : A → B} {reply : (a : A) → Q (f a) → R a}
    (alike : ∀ action input s, reply action (execute' (f action) input s).1 =
      (execute action input s).1 ∧ (execute' (f action) input s).2 = (execute action input s).2)
    {body : Program A R α} {s s' : σ} {result : α} :
    Concludes execute' allowed (body.embed f reply) s result s' ↔
      Concludes execute allowed body s result s' := by
  induction body generalizing s with
  | done value => exact Iff.rfl
  | act action next ih =>
      refine exists_congr fun input => and_congr_right fun _ => ?_
      obtain ⟨answer, state⟩ := alike action input s
      dsimp only
      rw [answer, state]
      exact ih _

end Embed

end Program

/-! ## Code -/

namespace Code

open Program (Concludes concludes_bind)

variable {A : Type} {R : A → Type} {I σ ε α β : Type}
variable {execute : (a : A) → I → σ → R a × σ} {allowed : I → Prop} {s s' : σ}

@[simp] theorem concludes_pure {value : α} {result : Except ε α} :
    Concludes execute allowed (pure value : Code A R ε α) s result s' ↔ result = .ok value ∧ s' = s :=
  Iff.rfl

@[simp] theorem concludes_throw {failure : ε} {result : Except ε α} :
    Concludes execute allowed (throw failure : Code A R ε α) s result s' ↔
      result = .error failure ∧ s' = s := Iff.rfl

theorem concludes_perform {action : A} {reply : R action → Except ε α} {result : Except ε α} :
    Concludes execute allowed (perform action reply) s result s' ↔
      ∃ input, allowed input ∧ result = reply (execute action input s).1 ∧
        s' = (execute action input s).2 := Iff.rfl

theorem concludes_outcome {body : Code A R ε α} {result : Except ε (Except ε α)} :
    Concludes execute allowed (outcome body) s result s' ↔
      ∃ ended, result = .ok ended ∧ Concludes execute allowed body s ended s' := by
  refine Program.concludes_bind.trans ?_
  constructor
  · rintro ⟨ended, middle, first, rfl, rfl⟩
    exact ⟨ended, rfl, first⟩
  · rintro ⟨ended, rfl, first⟩
    exact ⟨ended, s', first, rfl, rfl⟩

/-- Code in sequence returns when both parts do. -/
theorem concludes_bind_ok {body : Code A R ε α} {rest : α → Code A R ε β} {result : β} :
    Concludes execute allowed (body >>= rest : Code A R ε β) s (.ok result) s' ↔
      ∃ value middle, Concludes execute allowed body s (.ok value) middle ∧
        Concludes execute allowed (rest value) middle (.ok result) s' := by
  rw [bind_eq]
  refine Program.concludes_bind.trans ?_
  constructor
  · rintro ⟨ended, middle, first, second⟩
    cases ended with
    | ok value => exact ⟨value, middle, first, second⟩
    | error failure =>
        obtain ⟨clash, -⟩ := second
        cases clash
  · rintro ⟨value, middle, first, second⟩
    exact ⟨.ok value, middle, first, second⟩

/-- Code in sequence ends as its first part has raised, or as its second does. -/
theorem concludes_bind_cases {body : Code A R ε α} {rest : α → Code A R ε β} {result : Except ε β}
    (ended : Concludes execute allowed (body >>= rest : Code A R ε β) s result s') :
    (∃ failure, Concludes execute allowed body s (.error failure) s' ∧ result = .error failure) ∨
      ∃ value middle, Concludes execute allowed body s (.ok value) middle ∧
        Concludes execute allowed (rest value) middle result s' := by
  rw [bind_eq] at ended
  obtain ⟨first, middle, one, two⟩ := Program.concludes_bind.mp ended
  cases first with
  | ok value => exact .inr ⟨value, middle, one, two⟩
  | error failure =>
      obtain ⟨rfl, rfl⟩ := two
      exact .inl ⟨failure, one, rfl⟩

theorem concludes_tryCatch {body : Code A R ε α} {handler : ε → Code A R ε α} {result : Except ε α} :
    Concludes execute allowed (tryCatch body handler : Code A R ε α) s result s' ↔
      (∃ value, Concludes execute allowed body s (.ok value) s' ∧ result = .ok value) ∨
        ∃ failure middle, Concludes execute allowed body s (.error failure) middle ∧
          Concludes execute allowed (handler failure) middle result s' := by
  rw [tryCatch_eq]
  refine Program.concludes_bind.trans ?_
  constructor
  · rintro ⟨ended, middle, first, second⟩
    cases ended with
    | ok value =>
        obtain ⟨rfl, rfl⟩ := second
        exact .inl ⟨value, first, rfl⟩
    | error failure => exact .inr ⟨failure, middle, first, second⟩
  · rintro (⟨value, first, rfl⟩ | ⟨failure, middle, first, second⟩)
    · exact ⟨.ok value, s', first, rfl, rfl⟩
    · exact ⟨.error failure, middle, first, second⟩

/-- The code does not raise, wherever it starts. -/
def Returns (execute : (a : A) → I → σ → R a × σ) (allowed : I → Prop) (body : Code A R ε α) :
    Prop :=
  ∀ s result s', Concludes execute allowed body s result s' → ∃ value, result = .ok value

theorem returns_pure (value : α) : Returns execute allowed (pure value : Code A R ε α) :=
  fun _ _ _ ended => ⟨value, (concludes_pure.mp ended).1⟩

theorem returns_outcome (body : Code A R ε α) : Returns execute allowed (outcome body) := by
  intro s result s' ended
  obtain ⟨value, same, -⟩ := concludes_outcome.mp ended
  exact ⟨value, same⟩

theorem returns_bind {body : Code A R ε α} {rest : α → Code A R ε β}
    (first : Returns execute allowed body) (second : ∀ value, Returns execute allowed (rest value)) :
    Returns execute allowed (body >>= rest : Code A R ε β) := by
  intro s result s' ended
  rcases concludes_bind_cases ended with ⟨failure, raised, -⟩ | ⟨value, middle, -, later⟩
  · obtain ⟨value, clash⟩ := first _ _ _ raised
    cases clash
  · exact second value _ _ _ later

section Yields

variable {inv : σ → Prop}

/-- From a state with the property the code returns the value, and the property is kept. -/
def Yields (execute : (a : A) → I → σ → R a × σ) (allowed : I → Prop) (inv : σ → Prop)
    (body : Code A R ε α) (value : α) : Prop :=
  ∀ s result s', inv s → Concludes execute allowed body s result s' → result = .ok value ∧ inv s'

theorem yields_pure (value : α) :
    Yields execute allowed inv (pure value : Code A R ε α) value := by
  intro s result s' holds ended
  obtain ⟨rfl, rfl⟩ := concludes_pure.mp ended
  exact ⟨rfl, holds⟩

theorem yields_bind {body : Code A R ε α} {rest : α → Code A R ε β} {value : α} {value' : β}
    (first : Yields execute allowed inv body value)
    (second : Yields execute allowed inv (rest value) value') :
    Yields execute allowed inv (body >>= rest : Code A R ε β) value' := by
  intro s result s' holds ended
  rcases concludes_bind_cases ended with ⟨failure, raised, -⟩ | ⟨found, middle, one, two⟩
  · cases (first s _ s' holds raised).1
  · obtain ⟨same, kept⟩ := first s _ middle holds one
    cases same
    exact second middle result s' kept two

end Yields

end Code

/-! ## Calls that are alone -/

namespace System

variable {S : System}

/-- A call that has the system to itself is a run of the system. -/
theorem run_concludes {allowed : S.Input → Prop} {c : S.Config} {index : Nat} {r : S.Running}
    {body : Program S.Action S.Reply S.Result} (found : c.calls[index]? = some r)
    (rest : r.rest = some body) {result : S.Result} {s' : S.State}
    (ended : body.Concludes S.execute allowed c.state result s') :
    ∃ inputs : List S.Input, (∀ input ∈ inputs, allowed input) ∧
      (c.run (inputs.map (.step index))).state = s' ∧
        ∃ r', (c.run (inputs.map (.step index))).calls[index]? = some r' ∧
          r'.returned? = some result := by
  induction body generalizing c r with
  | done value =>
      obtain ⟨rfl, rfl⟩ := ended
      refine ⟨[], nofun, rfl, r, found, ?_⟩
      simp only [Running.returned?, rest]
  | act action next ih =>
      obtain ⟨input, fine, after⟩ := ended
      have issues : c.Issues index r action next := ⟨found, rest⟩
      have applied := Config.apply_of_issues issues input
      have bound := (List.getElem?_eq_some_iff.mp found).1
      obtain ⟨inputs, all, state, returned⟩ := ih (S.execute action input c.state).1
        (c := c.apply (.step index input)) (r := r.advance action next input c.state)
        (by rw [applied]; exact List.getElem?_set_self bound) rfl
        (by rw [applied]; exact after)
      refine ⟨input :: inputs, List.forall_mem_cons.mpr ⟨fine, all⟩, ?_⟩
      rw [List.map_cons, Config.run_cons]
      exact ⟨state, returned⟩

end System

end Actl.Foundation
