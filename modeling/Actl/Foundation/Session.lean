import Actl.Foundation.Program

/-!
# Sessions on a shared store

A transaction as a program of statements. A session keeps its own memory: the rows
it has read and the writes it has sent, which nobody else sees. A statement
replies from what is committed at its own time and from the memory of its session
(READ COMMITTED), and a statement that publishes makes the writes of the session
the committed state.

`Engine.alone` runs a program with no other session in between. `Sessions` are any
number of them, interleaved statement by statement. A statement may need a lock,
which its session then keeps until it publishes or ends; a session that finds a
lock taken waits, and any session can be aborted at any point.

What a lock protects changes under the lock only when every program keeps to that
(`Outside`, `Inside`). Then a whole run is a sequence of changes, each made in one
go by the session that has the lock (`run_disciplined`), although that session has
read its rows at other times.
-/

set_option autoImplicit false

namespace Actl.Foundation

variable {A : Type} {R : A → Type} {I σ μ κ α β ε : Type}

/-- How the statements of a session act. -/
structure Engine (A : Type) (R : A → Type) (I σ μ κ : Type) where
  fresh : μ
  perform : (statement : A) → I → σ → μ → R statement × μ
  publishes : (statement : A) → R statement → Bool
  publish : μ → σ → σ
  lock : A → μ → Option κ

namespace Engine

variable (E : Engine A R I σ μ κ)

/-- What is committed after a statement. -/
def commit (statement : A) (reply : R statement) (memory : μ) (store : σ) : σ :=
  if E.publishes statement reply then E.publish memory store else store

/-! ## Alone -/

/-- A transaction under way: what is committed, the memory of the session and how
many statements it has sent. -/
structure Transacting (σ μ : Type) where
  store : σ
  memory : μ
  sent : Nat

def start (store : σ) : Transacting σ μ := ⟨store, E.fresh, 0⟩

/-- One statement of a session that is alone. -/
def send (inputs : Nat → I) (statement : A) (t : Transacting σ μ) :
    R statement × Transacting σ μ :=
  let replied := E.perform statement (inputs t.sent) t.store t.memory
  (replied.1, ⟨E.commit statement replied.1 t.memory t.store, replied.2, t.sent + 1⟩)

/-- A program run to its end. The `n`-th statement gets the `n`-th input. -/
def alone (inputs : Nat → I) : Program A R α → Transacting σ μ → α × Transacting σ μ
  | .done value, t => (value, t)
  | .act statement next, t =>
      alone inputs (next (E.send inputs statement t).1) (E.send inputs statement t).2

variable {E} {inputs : Nat → I} {t : Transacting σ μ}

theorem alone_program_bind (body : Program A R α) (rest : α → Program A R β) :
    E.alone inputs (body.bind rest) t =
      E.alone inputs (rest (E.alone inputs body t).1) (E.alone inputs body t).2 := by
  induction body generalizing t with
  | done value => rfl
  | act statement next ih => exact ih _

theorem alone_bind (body : Code A R ε α) (rest : α → Code A R ε β) :
    E.alone inputs (body >>= rest : Code A R ε β) t =
      match E.alone inputs body t with
      | (.ok value, t) => E.alone inputs (rest value) t
      | (.error failure, t) => (.error failure, t) := by
  rw [Code.bind_eq, alone_program_bind]
  cases ended : E.alone inputs body t with
  | mk outcome t =>
      cases outcome with
      | ok value => rfl
      | error failure => rfl

/-- A sequence that returned did so at every step. -/
theorem alone_bind_ok {body : Code A R ε α} {rest : α → Code A R ε β} {value : β}
    {t' : Transacting σ μ} :
    E.alone inputs (body >>= rest : Code A R ε β) t = (.ok value, t') ↔
      ∃ middle between, E.alone inputs body t = (.ok middle, between) ∧
        E.alone inputs (rest middle) between = (.ok value, t') := by
  rw [alone_bind]
  cases ended : E.alone inputs body t with
  | mk outcome between =>
      cases outcome with
      | ok middle => simp
      | error failure => simp

theorem alone_pure (value : α) :
    E.alone inputs (pure value : Code A R ε α) t = (.ok value, t) := rfl

theorem alone_throw (failure : ε) :
    E.alone inputs (throw failure : Code A R ε α) t = (.error failure, t) := rfl

theorem alone_perform (statement : A) (reply : R statement → Except ε α) :
    E.alone inputs (Code.perform statement reply) t =
      (reply (E.send inputs statement t).1, (E.send inputs statement t).2) := rfl

/-- A program that publishes nothing leaves what is committed alone. -/
theorem alone_store {allowed : A → Prop}
    (silent : ∀ statement, allowed statement → ∀ reply, E.publishes statement reply = false)
    {body : Program A R α} (confined : body.Confined allowed) :
    (E.alone inputs body t).2.store = t.store := by
  induction body generalizing t with
  | done value => rfl
  | act statement next ih =>
      have quiet : (E.send inputs statement t).2.store = t.store := by
        simp only [send, commit, silent statement confined.1, Bool.false_eq_true, if_false]
      rw [← quiet]
      exact ih _ (confined.2 _)

/-- A run depends on the inputs from its first statement on. -/
theorem alone_shift (body : Program A R α) (store : σ) (memory : μ) (sent offset : Nat) :
    let here := E.alone (fun n => inputs (n + offset)) body ⟨store, memory, sent⟩
    let there := E.alone inputs body ⟨store, memory, sent + offset⟩
    there.1 = here.1 ∧ there.2.store = here.2.store ∧ there.2.memory = here.2.memory := by
  induction body generalizing store memory sent with
  | done value => exact ⟨rfl, rfl, rfl⟩
  | act statement next ih =>
      have rest := ih (E.perform statement (inputs (sent + offset)) store memory).1
        (E.commit statement (E.perform statement (inputs (sent + offset)) store memory).1 memory
          store) (E.perform statement (inputs (sent + offset)) store memory).2 (sent + 1)
      rw [Nat.add_right_comm] at rest
      exact rest

end Engine

/-! ## Interleaved -/

/-- An open session: what it is there for, what is left of its program, and its
memory. -/
structure Session (A : Type) (R : A → Type) (μ T α : Type) where
  task : T
  code : Program A R α
  memory : μ

/-- What is committed, the open sessions, and who has each lock. -/
structure Sessions (A : Type) (R : A → Type) (σ μ κ T α : Type) where
  store : σ
  sessions : Nat → Option (Session A R μ T α)
  holder : κ → Option Nat

inductive Turn (I T : Type) where
  | start (session : Nat) (task : T)
  | step (session : Nat) (input : I)
  | abort (session : Nat)

namespace Sessions

variable {T : Type} [DecidableEq κ] (E : Engine A R I σ μ κ) (program : T → Program A R α)
variable (state : Sessions A R σ μ κ T α)

def initial (store : σ) : Sessions A R σ μ κ T α := ⟨store, fun _ => none, fun _ => none⟩

/-- The locks without those of a session. -/
def released (id : Nat) : κ → Option Nat :=
  fun k => if state.holder k = some id then none else state.holder k

/-- The end of a session gives back its locks. -/
def finish (id : Nat) : Sessions A R σ μ κ T α :=
  ⟨state.store, Function.update state.sessions id none, state.released id⟩

/-- A lock that the session has or can have. -/
def Free (id : Nat) (k : κ) : Prop := state.holder k = none ∨ state.holder k = some id

instance (id : Nat) (k : κ) : Decidable (state.Free id k) :=
  inferInstanceAs (Decidable (_ ∨ _))

/-- The locks of a session after it has taken the one its statement needs. -/
def locked (id : Nat) : Option κ → κ → Option Nat
  | none => state.holder
  | some k => Function.update state.holder k (some id)

/-- A statement of a session that has the lock it needs. -/
def proceed (id : Nat) (session : Session A R μ T α) (input : I) (statement : A)
    (next : R statement → Program A R α) : Sessions A R σ μ κ T α :=
  let replied := E.perform statement input state.store session.memory
  { store := E.commit statement replied.1 session.memory state.store
    sessions := Function.update state.sessions id
      (some ⟨session.task, next replied.1, replied.2⟩)
    holder :=
      if E.publishes statement replied.1 then state.released id
      else state.locked id (E.lock statement session.memory) }

/-- The next statement of a session, if it does not have to wait. -/
def advance (id : Nat) (session : Session A R μ T α) (input : I) : Sessions A R σ μ κ T α :=
  match session.code with
  | .done _ => state.finish id
  | .act statement next =>
      match E.lock statement session.memory with
      | none => state.proceed E id session input statement next
      | some k =>
          if state.Free id k then state.proceed E id session input statement next else state

def apply : Turn I T → Sessions A R σ μ κ T α
  | .start id task =>
      match state.sessions id with
      | none =>
          { state with
            sessions := Function.update state.sessions id (some ⟨task, program task, E.fresh⟩) }
      | some _ => state
  | .step id input =>
      match state.sessions id with
      | none => state
      | some session => state.advance E id session input
  | .abort id => state.finish id

def run (turns : List (Turn I T)) : Sessions A R σ μ κ T α :=
  turns.foldl (fun state turn => state.apply E program turn) state

/-! ## What a lock protects -/

section Discipline

variable {τ : Type} (part : σ → τ) (k : κ)

/-- From here on a session that has the lock, while `p` is what the lock protects:
it publishes a change of `p` and is then done. -/
def Inside (change : τ → τ → Prop) (p : τ) : Program A R α → μ → Prop
  | .done _, _ => True
  | .act statement next, memory => ∀ store input, part store = p →
      let replied := E.perform statement input store memory
      if E.publishes statement replied.1 then
        change p (part (E.publish memory store)) ∧ ∃ value, next replied.1 = .done value
      else Inside change p (next replied.1) replied.2

/-- From here on a session that does not have the lock: it publishes nothing of what
the lock protects, and is prepared for whatever it finds when it gets the lock, as
long as `enters` holds then. -/
def Outside (enters : A → μ → τ → Prop) (change : τ → τ → Prop) : Program A R α → μ → Prop
  | .done _, _ => True
  | .act statement next, memory =>
      if E.lock statement memory = some k then
        ∀ p, enters statement memory p → Inside E part change p (.act statement next) memory
      else ∀ store input,
        let replied := E.perform statement input store memory
        if E.publishes statement replied.1 then
          part (E.publish memory store) = part store ∧ ∃ value, next replied.1 = .done value
        else Outside enters change (next replied.1) replied.2

/-- Whatever is committed at each statement, the program ends like this. -/
def Anyhow (post : α → μ → Prop) : Program A R α → μ → Prop
  | .done value, memory => post value memory
  | .act statement next, memory => ∀ store input,
      Anyhow post (next (E.perform statement input store memory).1)
        (E.perform statement input store memory).2

/-- Whatever is committed at each statement, the code raises or returns like this. -/
def AnyhowReturns (good : α → μ → Prop) (body : Code A R ε α) (memory : μ) : Prop :=
  Anyhow E (fun outcome memory => ∀ value, outcome = .ok value → good value memory) body memory

section Anyhow

variable {E} {memory : μ}

omit [DecidableEq κ] in
theorem Anyhow.mono {post post' : α → μ → Prop} {body : Program A R α}
    (holds : Anyhow E post body memory)
    (weaker : ∀ value memory, post value memory → post' value memory) :
    Anyhow E post' body memory := by
  induction body generalizing memory with
  | done value => exact weaker value memory holds
  | act statement next ih => exact fun store input => ih _ (holds store input)

omit [DecidableEq κ] in
theorem Anyhow.bind {post : β → μ → Prop} {body : Program A R α} {rest : α → Program A R β}
    (first : Anyhow E (fun value memory => Anyhow E post (rest value) memory) body memory) :
    Anyhow E post (body.bind rest) memory := by
  induction body generalizing memory with
  | done value => exact first
  | act statement next ih => exact fun store input => ih _ (first store input)

omit [DecidableEq κ] in
theorem AnyhowReturns.bind {good : β → μ → Prop} {body : Code A R ε α} {rest : α → Code A R ε β}
    (first : AnyhowReturns E (fun value memory => AnyhowReturns E good (rest value) memory) body
      memory) :
    AnyhowReturns E good (body >>= rest) memory := by
  refine Anyhow.bind (Anyhow.mono first fun outcome memory holds => ?_)
  cases outcome with
  | ok value => exact holds value rfl
  | error failure => exact fun value same => by cases same

omit [DecidableEq κ] in
theorem anyhowReturns_pure {good : α → μ → Prop} {value : α} (holds : good value memory) :
    AnyhowReturns E good (pure value : Code A R ε α) memory := by
  intro value' same
  cases same
  exact holds

omit [DecidableEq κ] in
theorem anyhowReturns_throw {good : α → μ → Prop} {failure : ε} :
    AnyhowReturns E good (throw failure : Code A R ε α) memory := by
  intro value same
  cases same

omit [DecidableEq κ] in
theorem anyhowReturns_perform {good : α → μ → Prop} {statement : A}
    {reply : R statement → Except ε α}
    (holds : ∀ store input value, reply (E.perform statement input store memory).1 = .ok value →
      good value (E.perform statement input store memory).2) :
    AnyhowReturns E good (Code.perform statement reply) memory := holds

end Anyhow

section Rules

variable {E part k} {enters : A → μ → τ → Prop} {memory : μ}

/-- Before the lock a session can only count on its own memory. -/
theorem outside_bind {change : τ → τ → Prop} {allowed : A → Prop}
    (silent : ∀ statement, allowed statement → ∀ reply, E.publishes statement reply = false)
    (unlocked : ∀ statement, allowed statement → ∀ memory, E.lock statement memory ≠ some k)
    {body : Program A R β} (confined : body.Confined allowed) {rest : β → Program A R α}
    (ends : Anyhow E (fun value memory => Outside E part k enters change (rest value) memory)
      body memory) :
    Outside E part k enters change (body.bind rest) memory := by
  induction body generalizing memory with
  | done value => exact ends
  | act statement next ih =>
      rw [Program.bind, Outside, if_neg (unlocked statement confined.1 memory)]
      intro store input
      dsimp only
      rw [silent statement confined.1, if_neg Bool.false_ne_true]
      exact ih _ (confined.2 _) (ends store input)

omit [DecidableEq κ] in
/-- While a session has the lock and sends only statements that go by what the lock
protects, it is as good as alone with any store in which that is the same. -/
theorem inside_bind [Nonempty I] {change : τ → τ → Prop} {store : σ} {allowed : A → Prop}
    (silent : ∀ statement, allowed statement → ∀ reply, E.publishes statement reply = false)
    (determined : ∀ statement, allowed statement → ∀ input store store' memory,
      part store = part store' →
        E.perform statement input store memory = E.perform statement input store' memory)
    {body : Program A R β} (confined : body.Confined allowed) {rest : β → Program A R α}
    (ends : ∀ inputs n,
      let ended := E.alone inputs body ⟨store, memory, n⟩
      Inside E part change (part store) (rest ended.1) ended.2.memory) :
    Inside E part change (part store) (body.bind rest) memory := by
  induction body generalizing memory with
  | done value => exact ends (fun _ => Classical.choice inferInstance) 0
  | act statement next ih =>
      intro found input same
      rw [determined statement confined.1 input found store memory same]
      dsimp only
      rw [silent statement confined.1, if_neg Bool.false_ne_true]
      refine ih _ (confined.2 _) fun inputs n => ?_
      let stream : Nat → I := Nat.rec input fun i _ => inputs (i + n)
      have whole := ends stream 0
      have kept : E.commit statement (E.perform statement input store memory).1 memory store
          = store := by
        rw [Engine.commit, silent statement confined.1, if_neg Bool.false_ne_true]
      have first : E.alone stream (.act statement next) ⟨store, memory, 0⟩ =
          E.alone stream (next (E.perform statement input store memory).1)
            ⟨store, (E.perform statement input store memory).2, 0 + 1⟩ := by
        show E.alone stream (next (E.perform statement input store memory).1)
          ⟨E.commit statement (E.perform statement input store memory).1 memory store,
            (E.perform statement input store memory).2, 0 + 1⟩ = _
        rw [kept]
      obtain ⟨value, -, after⟩ := @Engine.alone_shift A R I σ μ κ β E stream
        (next (E.perform statement input store memory).1) store
        (E.perform statement input store memory).2 0 1
      obtain ⟨value', -, after'⟩ := @Engine.alone_shift A R I σ μ κ β E inputs
        (next (E.perform statement input store memory).1) store
        (E.perform statement input store memory).2 0 n
      dsimp only at whole
      rw [first, value, after] at whole
      dsimp only
      rw [Nat.zero_add] at value' after'
      rw [value', after']
      exact whole

/-- A session whose next statement takes the lock. -/
theorem outside_of_inside {change : τ → τ → Prop} {body : Program A R α} {statement : A}
    {next : R statement → Program A R α} (shape : body = .act statement next)
    (needs : E.lock statement memory = some k)
    (inside : ∀ p, enters statement memory p → Inside E part change p body memory) :
    Outside E part k enters change body memory := by
  rw [shape] at inside ⊢
  rw [Outside, if_pos needs]
  exact inside

/-- The same for code: what has raised is over. -/
theorem outside_code_bind {change : τ → τ → Prop} {allowed : A → Prop}
    (silent : ∀ statement, allowed statement → ∀ reply, E.publishes statement reply = false)
    (unlocked : ∀ statement, allowed statement → ∀ memory, E.lock statement memory ≠ some k)
    {body : Code A R ε α} (confined : body.Confined allowed) {rest : α → Code A R ε β}
    (ends : AnyhowReturns E (fun value memory => Outside E part k enters change (rest value) memory)
      body memory) :
    Outside E part k enters change (body >>= rest : Code A R ε β) memory := by
  refine outside_bind silent unlocked confined (ends.mono fun outcome memory holds => ?_)
  cases outcome with
  | ok value => exact holds value rfl
  | error failure => trivial

end Rules

/-- The session that takes the lock in this turn, and the statement it takes it
for. -/
def takes : Turn I T → Option (Session A R μ T α × A)
  | .step id _ =>
      match state.sessions id with
      | none => none
      | some session =>
          match session.code with
          | .done _ => none
          | .act statement _ =>
              if E.lock statement session.memory = some k ∧ state.holder k = none then
                some (session, statement)
              else none
  | _ => none

/-- Whoever takes the lock in this turn finds what it must. -/
def Admits (enters : T → A → μ → τ → Prop) (turn : Turn I T) : Prop :=
  ∀ taken, state.takes E k turn = some taken →
    enters taken.1.task taken.2 taken.1.memory (part state.store)

def AdmissibleRun (enters : T → A → μ → τ → Prop) : Sessions A R σ μ κ T α → List (Turn I T) → Prop
  | _, [] => True
  | state, turn :: turns =>
      state.Admits E part k enters turn ∧ AdmissibleRun enters (state.apply E program turn) turns

theorem run_append (turns later : List (Turn I T)) :
    state.run E program (turns ++ later) = (state.run E program turns).run E program later :=
  List.foldl_append

theorem admissibleRun_append {enters : T → A → μ → τ → Prop} {turns later : List (Turn I T)} :
    AdmissibleRun E program part k enters state (turns ++ later) ↔
      AdmissibleRun E program part k enters state turns ∧
        AdmissibleRun E program part k enters (state.run E program turns) later := by
  induction turns generalizing state with
  | nil => exact (iff_of_eq (true_and _)).symm
  | cons turn turns ih =>
      rw [List.cons_append, AdmissibleRun, AdmissibleRun, ih, and_assoc]
      rfl

section Decide

variable (enters : T → A → μ → τ → Prop) [∀ task statement memory p, Decidable (enters task statement memory p)]

instance (turn : Turn I T) : Decidable (state.Admits E part k enters turn) :=
  inferInstanceAs (Decidable (∀ taken ∈ state.takes E k turn,
    enters taken.1.task taken.2 taken.1.memory (part state.store)))

instance decidableAdmissibleRun : (state : Sessions A R σ μ κ T α) → (turns : List (Turn I T)) →
    Decidable (AdmissibleRun E program part k enters state turns)
  | _, [] => .isTrue trivial
  | state, turn :: turns =>
      have : Decidable (AdmissibleRun E program part k enters (state.apply E program turn) turns) :=
        decidableAdmissibleRun (state.apply E program turn) turns
      inferInstanceAs (Decidable (_ ∧ _))

end Decide

/-- Every session keeps to the lock. -/
structure Disciplined (enters : T → A → μ → τ → Prop) (change : T → τ → τ → Prop) : Prop where
  inside : ∀ id session, state.sessions id = some session → state.holder k = some id →
    Inside E part (change session.task) (part state.store) session.code session.memory
  outside : ∀ id session, state.sessions id = some session → state.holder k ≠ some id →
    Outside E part k (enters session.task) (change session.task) session.code session.memory
  present : ∀ id, state.holder k = some id → state.sessions id ≠ none

theorem disciplined_initial (enters : T → A → μ → τ → Prop) (change : T → τ → τ → Prop) (store : σ) :
    (initial store : Sessions A R σ μ κ T α).Disciplined E part k enters change :=
  ⟨fun _ _ found => (nomatch found), fun _ _ found => (nomatch found),
    fun _ held => (nomatch held)⟩

variable {E program state part k} {enters : T → A → μ → τ → Prop} {change : T → τ → τ → Prop}

omit [DecidableEq κ] in
theorem holder_released {id other : Nat} {k : κ} :
    state.released id k = some other ↔ state.holder k = some other ∧ other ≠ id := by
  rw [released]
  split
  next mine =>
    constructor
    · intro none
      cases none
    · rintro ⟨held, different⟩
      rw [mine] at held
      exact absurd (Option.some.inj held).symm different
  next others =>
    constructor
    · intro held
      exact ⟨held, fun same => others (same ▸ held)⟩
    · exact And.left

theorem Disciplined.finish (disciplined : state.Disciplined E part k enters change) (id : Nat) :
    (state.finish id).Disciplined E part k enters change := by
  have others : ∀ other session, (state.finish id).sessions other = some session →
      other ≠ id ∧ state.sessions other = some session := by
    intro other session found
    simp only [Sessions.finish, Function.update_apply] at found
    split at found
    next => cases found
    next different => exact ⟨different, found⟩
  refine ⟨fun other session found held => ?_, fun other session found free => ?_,
    fun other held => ?_⟩
  · exact disciplined.inside other session (others other session found).2
      (holder_released.mp held).1
  · obtain ⟨different, found'⟩ := others other session found
    exact disciplined.outside other session found' fun held =>
      free (holder_released.mpr ⟨held, different⟩)
  · obtain ⟨held', different⟩ := holder_released.mp held
    simp only [Sessions.finish, Function.update_apply, if_neg different]
    exact disciplined.present other held'

theorem Disciplined.start (disciplined : state.Disciplined E part k enters change)
    (safe : ∀ task, Outside E part k (enters task) (change task) (program task) E.fresh)
    (id : Nat) (task : T) :
    (state.apply E program (.start id task)).Disciplined E part k enters change := by
  rw [apply]
  split
  next absent =>
    have free : state.holder k ≠ some id := fun held => disciplined.present id held absent
    refine ⟨fun other session found held => ?_, fun other session found free' => ?_,
      fun other held => ?_⟩
    · simp only [Function.update_apply] at found
      split at found
      next same => exact absurd (same ▸ held) free
      next => exact disciplined.inside other session found held
    · simp only [Function.update_apply] at found
      split at found
      next =>
        cases found
        exact safe task
      next => exact disciplined.outside other session found free'
    · simp only [Function.update_apply]
      split
      next => simp
      next => exact disciplined.present other held
  next => exact disciplined

/-- The other sessions, when a statement leaves the protected part alone and the
lock as it was for them. -/
theorem Disciplined.replace (disciplined : state.Disciplined E part k enters change) {id : Nat}
    {session : Session A R μ T α} {store : σ} {holder : κ → Option Nat}
    (same : ∀ other, other ≠ id → state.holder k = some other → part store = part state.store)
    (others : ∀ other, other ≠ id → (holder k = some other ↔ state.holder k = some other))
    (inside : holder k = some id →
      Inside E part (change session.task) (part store) session.code session.memory)
    (outside : holder k ≠ some id →
      Outside E part k (enters session.task) (change session.task) session.code session.memory) :
    (⟨store, Function.update state.sessions id (some session), holder⟩ :
      Sessions A R σ μ κ T α).Disciplined E part k enters change := by
  refine ⟨fun other running found held => ?_, fun other running found free => ?_,
    fun other held => ?_⟩
  · simp only [Function.update_apply] at found
    split at found
    next mine =>
      cases found
      exact inside (mine ▸ held)
    next different =>
      have held' := (others other different).mp held
      rw [same other different held']
      exact disciplined.inside other running found held'
  · simp only [Function.update_apply] at found
    split at found
    next mine =>
      cases found
      exact outside (mine ▸ free)
    next different =>
      exact disciplined.outside other running found fun held =>
        free ((others other different).mpr held)
  · simp only [Function.update_apply]
    split
    next => simp
    next different => exact disciplined.present other ((others other different).mp held)

/-- The statement of the session that has the lock afterwards or gives it back. -/
theorem Disciplined.proceed_inside (disciplined : state.Disciplined E part k enters change)
    {id : Nat} {session : Session A R μ T α} {statement : A} {next : R statement → Program A R α}
    {input : I}
    (inside : Inside E part (change session.task) (part state.store) (.act statement next)
      session.memory)
    (alone : ∀ other, other ≠ id → state.holder k ≠ some other)
    (gets : state.locked id (E.lock statement session.memory) k = some id) :
    (state.proceed E id session input statement next).Disciplined E part k enters change ∧
      (part (state.proceed E id session input statement next).store = part state.store ∨
        change session.task (part state.store)
          (part (state.proceed E id session input statement next).store)) := by
  have performed := inside state.store input rfl
  simp only [Sessions.proceed, Engine.commit]
  dsimp only at performed
  split at performed
  next published =>
    obtain ⟨changed, value, ends⟩ := performed
    simp only [published, if_true]
    refine ⟨disciplined.replace (fun other different held => absurd held (alone other different))
      (fun other different => ?_) (fun held => ?_) fun _ => ?_, .inr changed⟩
    · exact ⟨fun held => (holder_released.mp held).1,
        fun held => absurd held (alone other different)⟩
    · exact absurd rfl (holder_released.mp held).2
    · rw [ends]
      trivial
  next silent =>
    simp only [if_neg silent]
    refine ⟨disciplined.replace (fun _ _ _ => rfl) (fun other different => ?_)
      (fun _ => performed) (fun free => absurd gets free), .inl trivial⟩
    rw [gets]
    exact ⟨fun mine => absurd (Option.some.inj mine).symm different,
      fun held => absurd held (alone other different)⟩

/-- The statement of a session that neither has the lock nor takes it. -/
theorem Disciplined.proceed_outside (disciplined : state.Disciplined E part k enters change)
    {id : Nat} {session : Session A R μ T α} {statement : A} {next : R statement → Program A R α}
    {input : I} (free : state.holder k ≠ some id) (apart : E.lock statement session.memory ≠ some k)
    (outside : Outside E part k (enters session.task) (change session.task) (.act statement next)
      session.memory) :
    (state.proceed E id session input statement next).Disciplined E part k enters change ∧
      part (state.proceed E id session input statement next).store = part state.store := by
  rw [Outside, if_neg apart] at outside
  have performed := outside state.store input
  have unlocked : state.locked id (E.lock statement session.memory) k = state.holder k := by
    cases needed : E.lock statement session.memory with
    | none => rfl
    | some k' =>
        have different : k ≠ k' := fun same => apart (same ▸ needed)
        exact Function.update_of_ne different _ _
  simp only [Sessions.proceed, Engine.commit]
  dsimp only at performed
  split at performed
  next published =>
    obtain ⟨same, value, ends⟩ := performed
    simp only [published, if_true]
    refine ⟨disciplined.replace (fun _ _ _ => same) (fun other different => ?_)
      (fun held => ?_) fun _ => ?_, same⟩
    · exact ⟨fun held => (holder_released.mp held).1,
        fun held => holder_released.mpr ⟨held, different⟩⟩
    · exact absurd rfl (holder_released.mp held).2
    · rw [ends]
      trivial
  next silent =>
    simp only [if_neg silent]
    refine ⟨disciplined.replace (fun _ _ _ => rfl) (fun other _ => by rw [unlocked])
      (fun held => absurd (unlocked ▸ held) free) (fun _ => performed), trivial⟩

theorem locked_self {id : Nat} {needed : Option κ} (mine : state.holder k = some id) :
    state.locked id needed k = some id := by
  cases needed with
  | none => exact mine
  | some k' =>
      rw [locked, Function.update_apply]
      split
      next => rfl
      next => exact mine

/-- A statement that has the lock it needs. -/
theorem Disciplined.proceed (disciplined : state.Disciplined E part k enters change) {id : Nat}
    {session : Session A R μ T α} {statement : A} {next : R statement → Program A R α} {input : I}
    (found : state.sessions id = some session) (code : session.code = .act statement next)
    (free : E.lock statement session.memory = some k → state.Free id k)
    (admits : E.lock statement session.memory = some k → state.holder k = none →
      enters session.task statement session.memory (part state.store)) :
    (state.proceed E id session input statement next).Disciplined E part k enters change ∧
      (part (state.proceed E id session input statement next).store = part state.store ∨
        change session.task (part state.store)
          (part (state.proceed E id session input statement next).store)) := by
  by_cases mine : state.holder k = some id
  · have inside := disciplined.inside id session found mine
    rw [code] at inside
    refine disciplined.proceed_inside inside (fun other different held => ?_) (locked_self mine)
    rw [mine] at held
    exact different (Option.some.inj held).symm
  · have outside := disciplined.outside id session found mine
    rw [code] at outside
    by_cases needed : E.lock statement session.memory = some k
    · have open' : state.holder k = none := (free needed).resolve_right mine
      rw [Outside, if_pos needed] at outside
      refine disciplined.proceed_inside (outside _ (admits needed open'))
        (fun other _ held => by rw [open'] at held; cases held) ?_
      rw [needed, locked, Function.update_self]
    · obtain ⟨kept, same⟩ := disciplined.proceed_outside mine needed outside
      exact ⟨kept, .inl same⟩

/-- What a turn does to the protected part: nothing, or a change by the session whose
turn it is. -/
def Changes (change : T → τ → τ → Prop) (turn : Turn I T) (p p' : τ) : Prop :=
  p' = p ∨ ∃ id input session, turn = .step id input ∧ state.sessions id = some session ∧
    change session.task p p'

theorem Disciplined.apply (disciplined : state.Disciplined E part k enters change)
    (safe : ∀ task, Outside E part k (enters task) (change task) (program task) E.fresh)
    {turn : Turn I T} (admits : state.Admits E part k enters turn) :
    (state.apply E program turn).Disciplined E part k enters change ∧
      state.Changes change turn (part state.store) (part (state.apply E program turn).store) := by
  cases turn with
  | start id task =>
      refine ⟨disciplined.start safe id task, .inl ?_⟩
      rw [Sessions.apply]
      split
      next => rfl
      next => rfl
  | abort id => exact ⟨disciplined.finish id, .inl rfl⟩
  | step id input =>
      rw [Sessions.apply]
      split
      next => exact ⟨disciplined, .inl rfl⟩
      next session found =>
        rw [advance]
        split
        next => exact ⟨disciplined.finish id, .inl rfl⟩
        next statement next code =>
          have enter : E.lock statement session.memory = some k → state.holder k = none →
              enters session.task statement session.memory (part state.store) := by
            intro needed free
            refine admits (session, statement) ?_
            simp only [takes, found, code, needed, free, and_self, if_true]
          split
          next unneeded =>
            obtain ⟨kept, changed⟩ := disciplined.proceed found code
              (fun needed => by rw [unneeded] at needed; cases needed) enter
            exact ⟨kept, changed.imp_right fun made => ⟨id, input, session, rfl, found, made⟩⟩
          next k' needed =>
            split
            next free =>
              obtain ⟨kept, changed⟩ := disciplined.proceed found code
                (fun mine => by rw [needed] at mine; cases mine; exact free) enter
              exact ⟨kept, changed.imp_right fun made => ⟨id, input, session, rfl, found, made⟩⟩
            next => exact ⟨disciplined, .inl rfl⟩

/-- In every admissible run of programs that keep to the lock, what it protects
changes by whole changes only, and stays good. -/
theorem run_disciplined (good : τ → Prop)
    (safe : ∀ task, Outside E part k (fun statement memory p => good p ∧ enters task statement memory p) (change task)
      (program task) E.fresh)
    (kept : ∀ task p p', good p → change task p p' → good p')
    (disciplined : state.Disciplined E part k
      (fun task statement memory p => good p ∧ enters task statement memory p) change)
    (starts : good (part state.store)) {turns : List (Turn I T)}
    (admissible : AdmissibleRun E program part k enters state turns) :
    (state.run E program turns).Disciplined E part k
        (fun task statement memory p => good p ∧ enters task statement memory p) change ∧
      good (part (state.run E program turns).store) := by
  induction turns generalizing state with
  | nil => exact ⟨disciplined, starts⟩
  | cons turn turns ih =>
      obtain ⟨disciplined', changes⟩ := disciplined.apply safe
        (show state.Admits E part k _ turn from
          fun session taken => ⟨starts, admissible.1 session taken⟩)
      refine ih disciplined' ?_ admissible.2
      rcases changes with same | ⟨_, _, session, -, -, changed⟩
      · rw [same]
        exact starts
      · exact kept session.task _ _ starts changed

end Discipline

end Sessions

end Actl.Foundation
