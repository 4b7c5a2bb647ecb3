import Actl.Foundation.Program

/-!
# Interleaved runs

A system is a shared state, the actions on it, and the calls that can be made,
each with its program. A configuration holds the state and the calls made so
far. An event starts a call, lets one call take its next action on an input of
the environment's choosing, or crashes a call for good. Runs are arbitrary
lists of events, so every interleaving of any number of calls is a run.

`run_invariant` is the induction over runs: what holds initially and is kept by
every admissible event holds after every admissible run. `run_disciplined`
carries what the calls' programs obey (`Obeys`) to every configuration of a
run, and `run_invariant_of_discipline` combines the two.
-/

set_option autoImplicit false

namespace Actl.Foundation

/-- A shared state, the atomic actions on it and the calls that can be made. -/
structure System where
  Action : Type
  Reply : Action → Type
  Input : Type
  State : Type
  Call : Type
  Result : Type
  execute : (a : Action) → Input → State → Reply a × State
  code : Call → Program Action Reply Result

namespace System

variable (S : System)

/-- The steps a call has taken, the latest first. -/
abbrev History : Type := List (Step S.Action S.Input S.State)

/-- A call in a configuration: its history and what is left of its program,
nothing when it has crashed. -/
structure Running where
  call : S.Call
  history : S.History
  rest : Option (Program S.Action S.Reply S.Result)

structure Config where
  state : S.State
  calls : List S.Running

inductive Event where
  | start (call : S.Call)
  | step (index : Nat) (input : S.Input)
  | crash (index : Nat)

variable {S}

/-- The call an event starts. -/
def Event.started : S.Event → List S.Call
  | .start call => [call]
  | .step _ _ => []
  | .crash _ => []

/-- The configuration before any call. -/
def initial (s : S.State) : S.Config := ⟨s, []⟩

namespace Running

/-- The call after its next action. -/
def advance (r : S.Running) (action : S.Action) (next : S.Reply action →
    Program S.Action S.Reply S.Result) (input : S.Input) (state : S.State) : S.Running where
  call := r.call
  history := ⟨action, input, state⟩ :: r.history
  rest := some (next (S.execute action input state).1)

/-- The value a finished call returned. -/
def returned? (r : S.Running) : Option S.Result :=
  match r.rest with
  | some (.done value) => some value
  | _ => none

/-- The call has neither returned nor crashed. -/
def InProgress (r : S.Running) : Prop := ∃ action next, r.rest = some (.act action next)

end Running

namespace Config

def apply (c : S.Config) : S.Event → S.Config
  | .start call => ⟨c.state, c.calls ++ [⟨call, [], some (S.code call)⟩]⟩
  | .step index input =>
      match c.calls[index]? with
      | some r =>
          match r.rest with
          | some (.act action next) =>
              ⟨(S.execute action input c.state).2,
                c.calls.set index (r.advance action next input c.state)⟩
          | _ => c
      | none => c
  | .crash index =>
      match c.calls[index]? with
      | some r => ⟨c.state, c.calls.set index ⟨r.call, r.history, none⟩⟩
      | none => c

def run (c : S.Config) (events : List S.Event) : S.Config := events.foldl apply c

@[simp] theorem run_nil (c : S.Config) : c.run [] = c := rfl

@[simp] theorem run_cons (c : S.Config) (e : S.Event) (events : List S.Event) :
    c.run (e :: events) = (c.apply e).run events := rfl

theorem run_append (c : S.Config) (first second : List S.Event) :
    c.run (first ++ second) = (c.run first).run second := List.foldl_append

/-- The call at `index` is about to issue `action`. -/
def Issues (c : S.Config) (index : Nat) (r : S.Running) (action : S.Action)
    (next : S.Reply action → Program S.Action S.Reply S.Result) : Prop :=
  c.calls[index]? = some r ∧ r.rest = some (.act action next)

/-- What a step event does: nothing, or it performs the action the call
issues. -/
theorem apply_step_cases (c : S.Config) (index : Nat) (input : S.Input) :
    c.apply (.step index input) = c ∨
      ∃ r action next, c.Issues index r action next ∧
        c.apply (.step index input) =
          ⟨(S.execute action input c.state).2,
            c.calls.set index (r.advance action next input c.state)⟩ := by
  cases found : c.calls[index]? with
  | none => exact .inl (by simp [apply, found])
  | some r =>
      cases left : r.rest with
      | none => exact .inl (by simp [apply, found, left])
      | some program =>
          cases program with
          | done value => exact .inl (by simp [apply, found, left])
          | act action next =>
              exact .inr ⟨r, action, next, ⟨found, left⟩, by simp [apply, found, left]⟩

theorem apply_of_issues {c : S.Config} {index : Nat} {r : S.Running} {action : S.Action}
    {next : S.Reply action → Program S.Action S.Reply S.Result} (issues : c.Issues index r action next)
    (input : S.Input) :
    c.apply (.step index input) = ⟨(S.execute action input c.state).2,
      c.calls.set index (r.advance action next input c.state)⟩ := by
  simp only [apply, issues.1, issues.2]

theorem apply_crash_cases (c : S.Config) (index : Nat) :
    c.apply (.crash index) = c ∨
      ∃ r, c.calls[index]? = some r ∧
        c.apply (.crash index) = ⟨c.state, c.calls.set index ⟨r.call, r.history, none⟩⟩ := by
  cases found : c.calls[index]? with
  | none => exact .inl (by simp [apply, found])
  | some r => exact .inr ⟨r, rfl, by simp [apply, found]⟩

theorem Issues.mem {c : S.Config} {index : Nat} {r : S.Running} {action : S.Action}
    {next : S.Reply action → Program S.Action S.Reply S.Result}
    (issues : c.Issues index r action next) : r ∈ c.calls :=
  List.mem_of_getElem? issues.1

end Config

namespace Config

/-- The action the call at `index` is about to issue. -/
def next? (c : S.Config) (index : Nat) : Option S.Action :=
  match c.calls[index]? with
  | some r =>
      match r.rest with
      | some (.act action _) => some action
      | _ => none
  | none => none

/-- The value the call at `index` returns with its next step, when it does. -/
def returns? (c : S.Config) (index : Nat) (input : S.Input) : Option S.Result :=
  match c.calls[index]? with
  | some r =>
      match r.rest with
      | some (.act action next) =>
          match next (S.execute action input c.state).1 with
          | .done value => some value
          | _ => none
      | _ => none
  | none => none

theorem Issues.next? {c : S.Config} {index : Nat} {r : S.Running} {action : S.Action}
    {next : S.Reply action → Program S.Action S.Reply S.Result}
    (issues : c.Issues index r action next) : c.next? index = some action := by
  simp only [Config.next?, issues.1, issues.2]

theorem issues_of_next? {c : S.Config} {index : Nat} {action : S.Action}
    (issued : c.next? index = some action) : ∃ r next, c.Issues index r action next := by
  unfold Config.next? at issued
  split at issued
  · rename_i r found
    split at issued
    · rename_i action' next left
      cases issued
      exact ⟨r, next, found, left⟩
    · cases issued
  · cases issued

theorem issues_of_returns? {c : S.Config} {index : Nat} {input : S.Input} {value : S.Result}
    (returns : c.returns? index input = some value) :
    ∃ r action next, c.Issues index r action next ∧
      next (S.execute action input c.state).1 = .done value := by
  unfold returns? at returns
  split at returns
  · rename_i r found
    split at returns
    · rename_i action next left
      split at returns
      · rename_i done
        cases returns
        exact ⟨r, action, next, ⟨found, left⟩, done⟩
      · cases returns
    · cases returns
  · cases returns

theorem apply_calls (c : S.Config) (e : S.Event) :
    (c.apply e).calls.map Running.call = c.calls.map Running.call ++ e.started := by
  have kept : ∀ (index : Nat) (r r' : S.Running), c.calls[index]? = some r → r'.call = r.call →
      (c.calls.set index r').map Running.call = c.calls.map Running.call := by
    intro index r r' found same
    refine List.ext_getElem? fun i => ?_
    rw [List.map_set, List.getElem?_set]
    split
    · rename_i here
      subst here
      obtain ⟨inside, rfl⟩ := List.getElem?_eq_some_iff.mp found
      simp [inside, same]
    · rfl
  cases e with
  | start call => simp [apply, Event.started]
  | step index input =>
      rw [Event.started, List.append_nil]
      rcases c.apply_step_cases index input with same | ⟨r, action, next, issues, after⟩
      · rw [same]
      · rw [after]
        exact kept index r _ issues.1 rfl
  | crash index =>
      rw [Event.started, List.append_nil]
      rcases c.apply_crash_cases index with same | ⟨r, found, after⟩
      · rw [same]
      · rw [after]
        exact kept index r _ found rfl

/-- The calls of a configuration are the ones that were started, in order. -/
theorem run_calls (c : S.Config) (events : List S.Event) :
    (c.run events).calls.map Running.call
      = c.calls.map Running.call ++ events.flatMap Event.started := by
  induction events generalizing c with
  | nil => simp
  | cons e events ih =>
      rw [run_cons, ih, apply_calls, List.flatMap_cons, List.append_assoc]

end Config

/-! ## Admissible runs -/

/-- Every event of the run meets the condition in the configuration it happens
in. -/
def Admissible (ok : S.Config → S.Event → Prop) : S.Config → List S.Event → Prop
  | _, [] => True
  | c, e :: events => ok c e ∧ Admissible ok (c.apply e) events

theorem Admissible.mono {ok ok' : S.Config → S.Event → Prop}
    (weaker : ∀ c e, ok c e → ok' c e) {c : S.Config} {events : List S.Event}
    (admissible : Admissible ok c events) : Admissible ok' c events := by
  induction events generalizing c with
  | nil => trivial
  | cons e events ih => exact ⟨weaker c e admissible.1, ih admissible.2⟩

theorem admissible_of_forall {ok : S.Config → S.Event → Prop} (always : ∀ c e, ok c e)
    (c : S.Config) (events : List S.Event) : Admissible ok c events := by
  induction events generalizing c with
  | nil => trivial
  | cons e events ih => exact ⟨always c e, ih _⟩

/-- Checking a run event by event. -/
def checkRun (check : S.Config → S.Event → Bool) : S.Config → List S.Event → Bool
  | _, [] => true
  | c, e :: events => check c e && checkRun check (c.apply e) events

/-- A run that passes a sound check is admissible. -/
theorem admissible_of_checkRun {ok : S.Config → S.Event → Prop} {check : S.Config → S.Event → Bool}
    (sound : ∀ c e, check c e = true → ok c e) {c : S.Config} {events : List S.Event}
    (checked : checkRun check c events = true) : Admissible ok c events := by
  induction events generalizing c with
  | nil => trivial
  | cons e events ih =>
      rw [checkRun, Bool.and_eq_true] at checked
      exact ⟨sound c e checked.1, ih checked.2⟩

theorem admissible_append {ok : S.Config → S.Event → Prop} {c : S.Config}
    {first second : List S.Event} :
    Admissible ok c (first ++ second) ↔
      Admissible ok c first ∧ Admissible ok (c.run first) second := by
  induction first generalizing c with
  | nil => simp [Admissible]
  | cons e first ih => simp [Admissible, ih, and_assoc]

/-- A condition on the call that takes a step, the action it performs, the input
it gets and the configuration it happens in. Starting and crashing are always allowed. -/
def Guarded (guard : S.Config → Nat → S.Running → S.Action → S.Input → Prop) (c : S.Config) :
    S.Event → Prop
  | .step index input => ∀ r action next, c.Issues index r action next →
      guard c index r action input
  | _ => True

/-- What holds initially and is kept by every admissible event holds after
every admissible run. -/
theorem run_invariant {ok : S.Config → S.Event → Prop} (inv : S.Config → Prop)
    (kept : ∀ c e, inv c → ok c e → inv (c.apply e)) {c : S.Config} {events : List S.Event}
    (holds : inv c) (admissible : Admissible ok c events) : inv (c.run events) := by
  induction events generalizing c with
  | nil => exact holds
  | cons e events ih => exact ih (kept c e holds admissible.1) admissible.2

/-- What every event of a run relates, the run relates. -/
theorem run_related {ok : S.Config → S.Event → Prop} (inv : S.Config → Prop)
    (related : S.Config → S.Config → Prop) (refl : ∀ c, related c c)
    (trans : ∀ {c c' c''}, related c c' → related c' c'' → related c c'')
    (kept : ∀ c e, inv c → ok c e → inv (c.apply e))
    (moved : ∀ c e, inv c → ok c e → related c (c.apply e)) {c : S.Config}
    {events : List S.Event} (holds : inv c) (admissible : Admissible ok c events) :
    related c (c.run events) := by
  induction events generalizing c with
  | nil => exact refl c
  | cons e events ih =>
      exact trans (moved c e holds admissible.1) (ih (kept c e holds admissible.1) admissible.2)

/-! ## Ascending histories -/

section Ascending

variable (below : S.State → S.State → Prop)

/-- Each step of a history ended below the state the next one found, and the latest
below the given state. -/
def Ascending : S.State → S.History → Prop
  | _, [] => True
  | state, s :: past =>
      below (S.execute s.action s.input s.before).2 state ∧ Ascending s.before past

variable {below}

theorem Ascending.of_suffix {s : Step S.Action S.Input S.State} {past history : S.History}
    {state : S.State} (ascending : Ascending below state history)
    (inside : (s :: past) <:+ history) : Ascending below s.before past := by
  induction history generalizing state with
  | nil => exact absurd (List.suffix_nil.mp inside) nofun
  | cons s' history ih =>
      rcases List.suffix_cons_iff.mp inside with same | earlier
      · cases same
        exact ascending.2
      · exact ih ascending.2 earlier

variable (refl : ∀ state, below state state)
variable (trans : ∀ one two three, below one two → below two three → below one three)
variable (grows : ∀ action input state, below state (S.execute action input state).2)

include trans in
theorem Ascending.mono {state state' : S.State} {history : S.History}
    (ascending : Ascending below state history) (more : below state state') :
    Ascending below state' history := by
  cases history with
  | nil => trivial
  | cons s past => exact ⟨trans _ _ _ ascending.1 more, ascending.2⟩

include trans grows in
/-- Every step of an ascending history ended below the state. -/
theorem Ascending.ended {state : S.State} {history : S.History}
    (ascending : Ascending below state history) {s : Step S.Action S.Input S.State}
    (member : s ∈ history) : below (S.execute s.action s.input s.before).2 state := by
  induction history generalizing state with
  | nil => cases member
  | cons s' past ih =>
      rcases List.mem_cons.mp member with rfl | earlier
      · exact ascending.1
      · exact trans _ _ _ (ih ascending.2 earlier) (trans _ _ _ (grows _ _ _) ascending.1)

include refl trans grows in
/-- Where actions only move the state up, the histories of all calls keep ascending. -/
theorem Config.ascending_apply {c : S.Config}
    (keeps : ∀ r ∈ c.calls, Ascending below c.state r.history) (e : S.Event) :
    ∀ r ∈ (c.apply e).calls, Ascending below (c.apply e).state r.history := by
  cases e with
  | start call =>
      intro r member
      rcases List.mem_append.mp member with old | new
      · exact keeps r old
      · cases List.mem_singleton.mp new
        trivial
  | step index input =>
      rcases c.apply_step_cases index input with same | ⟨r, action, next, issues, after⟩
      · rw [same]
        exact keeps
      · rw [after]
        intro r' member
        rcases List.mem_or_eq_of_mem_set member with old | rfl
        · exact (keeps r' old).mono trans (grows action input c.state)
        · exact ⟨refl _, keeps r issues.mem⟩
  | crash index =>
      rcases c.apply_crash_cases index with same | ⟨r, found, after⟩
      · rw [same]
        exact keeps
      · rw [after]
        intro r' member
        rcases List.mem_or_eq_of_mem_set member with old | rfl
        · exact keeps r' old
        · exact keeps r (List.mem_of_getElem? found)

end Ascending

/-! ## Discipline -/

section Discipline

variable (may : S.Call → S.History → S.Action → Prop)
variable (ends : S.Call → S.Result → S.History → Prop)

/-- Every step of a history was permitted by the steps before it. -/
def Lawful (call : S.Call) : S.History → Prop
  | [] => True
  | s :: history => may call history s.action ∧ Lawful call history

/-- A running call has obeyed its program so far and will go on to. -/
structure Running.Disciplined (r : S.Running) : Prop where
  lawful : Lawful may r.call r.history
  obeys : ∀ program, r.rest = some program →
    Obeys S.execute (may r.call) (ends r.call) r.history program

def Config.Disciplined (c : S.Config) : Prop :=
  ∀ r ∈ c.calls, r.Disciplined may ends

variable {may ends}

theorem Lawful.permitted {call : S.Call} {history : S.History} (lawful : Lawful may call history)
    {s : Step S.Action S.Input S.State} (member : s ∈ history) :
    ∃ earlier, may call earlier s.action := by
  induction history with
  | nil => cases member
  | cons s' history ih =>
      rcases List.mem_cons.mp member with rfl | earlier
      · exact ⟨history, lawful.1⟩
      · exact ih lawful.2 earlier

theorem initial_disciplined (s : S.State) : (initial s : S.Config).Disciplined may ends := by
  intro r member
  simp [initial] at member

/-- The action a disciplined call issues is permitted by its history. -/
theorem Config.Disciplined.permits {c : S.Config} (disciplined : c.Disciplined may ends)
    {index : Nat} {r : S.Running} {action : S.Action}
    {next : S.Reply action → Program S.Action S.Reply S.Result}
    (issues : c.Issues index r action next) : may r.call r.history action :=
  ((disciplined r issues.mem).obeys _ issues.2).1

/-- A disciplined call that has returned ended as its history permits. -/
theorem Running.Disciplined.ended {r : S.Running} (disciplined : r.Disciplined may ends)
    {value : S.Result} (returned : r.returned? = some value) : ends r.call value r.history := by
  unfold Running.returned? at returned
  split at returned
  · rename_i finished
    cases returned
    exact disciplined.obeys _ finished
  · cases returned

theorem Config.Disciplined.apply {c : S.Config} (disciplined : c.Disciplined may ends)
    (starts : ∀ call, Obeys S.execute (may call) (ends call) [] (S.code call)) (e : S.Event) :
    (c.apply e).Disciplined may ends := by
  cases e with
  | start call =>
      intro r member
      simp only [Config.apply, List.mem_append, List.mem_singleton] at member
      rcases member with member | rfl
      · exact disciplined r member
      · exact ⟨trivial, fun program left => by cases left; exact starts call⟩
  | step index input =>
      rcases c.apply_step_cases index input with same | ⟨r, action, next, issues, after⟩
      · rw [same]
        exact disciplined
      · rw [after]
        have old := disciplined r issues.mem
        have obeyed := old.obeys _ issues.2
        intro r' member
        rcases List.mem_or_eq_of_mem_set member with member | rfl
        · exact disciplined r' member
        · refine ⟨⟨obeyed.1, old.lawful⟩, fun program left => ?_⟩
          cases left
          exact obeyed.2 input c.state
  | crash index =>
      rcases c.apply_crash_cases index with same | ⟨r, found, after⟩
      · rw [same]
        exact disciplined
      · rw [after]
        intro r' member
        rcases List.mem_or_eq_of_mem_set member with member | rfl
        · exact disciplined r' member
        · exact ⟨(disciplined r (List.mem_of_getElem? found)).lawful, fun _ left => by cases left⟩

theorem run_disciplined
    (starts : ∀ call, Obeys S.execute (may call) (ends call) [] (S.code call))
    (s : S.State) (events : List S.Event) :
    ((initial s : S.Config).run events).Disciplined may ends := by
  exact run_invariant (Config.Disciplined may ends) (fun c e keeps _ => keeps.apply starts e)
    (initial_disciplined s) (admissible_of_forall (fun _ _ => trivial) _ events)

/-- An invariant whose preservation may use what the programs obey. -/
theorem run_invariant_of_discipline
    (starts : ∀ call, Obeys S.execute (may call) (ends call) [] (S.code call))
    {ok : S.Config → S.Event → Prop} (inv : S.Config → Prop)
    (kept : ∀ c e, c.Disciplined may ends → inv c → ok c e → inv (c.apply e))
    {s : S.State} {events : List S.Event} (holds : inv (initial s))
    (admissible : Admissible ok (initial s) events) : inv ((initial s : S.Config).run events) := by
  have both := run_invariant (fun c => c.Disciplined may ends ∧ inv c)
    (fun c e keeps allowed => ⟨keeps.1.apply starts e, kept c e keeps.1 keeps.2 allowed⟩)
    ⟨initial_disciplined s, holds⟩ admissible
  exact both.2

/-- An invariant of configurations: a call that starts, a call that crashes and a
step that its history permits have to keep it. -/
theorem run_config_invariant
    (starts : ∀ call, Obeys S.execute (may call) (ends call) [] (S.code call))
    (guard : S.Config → Nat → S.Running → S.Action → S.Input → Prop) (inv : S.Config → Prop)
    (started : ∀ c call, inv c → inv ⟨c.state, c.calls ++ [⟨call, [], some (S.code call)⟩]⟩)
    (crashed : ∀ (c : S.Config) (index : Nat) r, inv c → c.calls[index]? = some r →
      inv ⟨c.state, c.calls.set index ⟨r.call, r.history, none⟩⟩)
    (stepped : ∀ (c : S.Config) index r action next input, c.Disciplined may ends → inv c →
      c.Issues index r action next → may r.call r.history action → guard c index r action input →
      inv ⟨(S.execute action input c.state).2,
        c.calls.set index (r.advance action next input c.state)⟩)
    {s : S.State} {events : List S.Event} (holds : inv (initial s))
    (admissible : Admissible (Guarded guard) (initial s) events) :
    inv ((initial s : S.Config).run events) := by
  refine run_invariant_of_discipline starts inv (fun c e disciplined keeps allowed => ?_) holds
    admissible
  cases e with
  | start call => exact started c call keeps
  | step index input =>
      rcases c.apply_step_cases index input with same | ⟨r, action, next, issues, after⟩
      · rw [same]
        exact keeps
      · rw [after]
        exact stepped c index r action next input disciplined keeps issues
          (disciplined.permits issues) (allowed r action next issues)
  | crash index =>
      rcases c.apply_crash_cases index with same | ⟨r, found, after⟩
      · rw [same]
        exact keeps
      · rw [after]
        exact crashed c index r keeps found

/-! ### Journals -/

/-- The calls made so far, each with what it has done. -/
def Config.journal (c : S.Config) : List (S.Call × S.History) :=
  c.calls.map fun r => (r.call, r.history)

theorem Config.mem_journal {c : S.Config} {call : S.Call} {history : S.History} :
    (call, history) ∈ c.journal ↔ ∃ r ∈ c.calls, r.call = call ∧ r.history = history := by
  simp [Config.journal]

theorem Config.getElem?_journal {c : S.Config} {index : Nat} {r : S.Running}
    (found : c.calls[index]? = some r) : c.journal[index]? = some (r.call, r.history) := by
  simp [Config.journal, found]

theorem Config.journal_start (c : S.Config) (call : S.Call) :
    (c.apply (.start call)).journal = c.journal ++ [(call, [])] := by
  simp [Config.journal, Config.apply]

theorem Config.journal_crash (c : S.Config) (index : Nat) :
    (c.apply (.crash index)).state = c.state ∧ (c.apply (.crash index)).journal = c.journal := by
  rcases c.apply_crash_cases index with same | ⟨r, found, after⟩
  · rw [same]
    exact ⟨rfl, rfl⟩
  · rw [after]
    refine ⟨rfl, ?_⟩
    simp only [Config.journal, List.map_set]
    refine List.ext_getElem? fun i => ?_
    rw [List.getElem?_set]
    split
    · rename_i here
      subst here
      split <;> simp_all
    · rfl

/-- An entry of a journal after one call has taken a step. -/
theorem getElem?_set_cases {α : Type} {journal : List α} {index i : Nat} {entry entry' : α}
    (found : (journal.set index entry)[i]? = some entry') :
    (i = index ∧ entry' = entry) ∨ (i ≠ index ∧ journal[i]? = some entry') := by
  by_cases here : i = index
  · subst here
    rw [List.getElem?_set_self'] at found
    cases old : journal[i]? with
    | none => simp [old] at found
    | some _ =>
        refine .inl ⟨rfl, ?_⟩
        simpa [old] using found.symm
  · rw [List.getElem?_set_ne (Ne.symm here)] at found
    exact .inr ⟨here, found⟩

/-- An entry of a journal after one call has started. -/
theorem getElem?_append_cases {α : Type} {journal : List α} {i : Nat} {entry entry' : α}
    (found : (journal ++ [entry])[i]? = some entry') :
    journal[i]? = some entry' ∨ entry' = entry := by
  by_cases inside : i < journal.length
  · rw [List.getElem?_append_left inside] at found
    exact .inl found
  · rw [List.getElem?_append_right (Nat.le_of_not_lt inside)] at found
    exact .inr (List.mem_singleton.mp (List.mem_of_getElem? found))

/-- A call in the journal has taken only steps it was permitted to. -/
theorem Config.Disciplined.lawful {c : S.Config} (disciplined : c.Disciplined may ends)
    {call : S.Call} {history : S.History} (member : (call, history) ∈ c.journal) :
    Lawful may call history := by
  obtain ⟨r, present, rfl, rfl⟩ := Config.mem_journal.mp member
  exact (disciplined r present).lawful

/-- What one event does to the state and the journal. -/
theorem Config.Disciplined.journal_cases {c : S.Config} (disciplined : c.Disciplined may ends)
    {guard : S.Config → Nat → S.Running → S.Action → S.Input → Prop} {e : S.Event}
    (allowed : Guarded guard c e) :
    ((c.apply e).state = c.state ∧ (c.apply e).journal = c.journal) ∨
      (∃ call, (c.apply e).state = c.state ∧ (c.apply e).journal = c.journal ++ [(call, [])]) ∨
      ∃ index r action input, c.journal[index]? = some (r.call, r.history) ∧
        may r.call r.history action ∧ guard c index r action input ∧
        (c.apply e).state = (S.execute action input c.state).2 ∧
        (c.apply e).journal
          = c.journal.set index (r.call, ⟨action, input, c.state⟩ :: r.history) := by
  cases e with
  | start call => exact .inr (.inl ⟨call, rfl, c.journal_start call⟩)
  | crash index => exact .inl (c.journal_crash index)
  | step index input =>
      rcases c.apply_step_cases index input with same | ⟨r, action, next, issues, after⟩
      · rw [same]
        exact .inl ⟨rfl, rfl⟩
      · refine .inr (.inr ⟨index, r, action, input, Config.getElem?_journal issues.1,
          disciplined.permits issues, allowed r action next issues, by rw [after], ?_⟩)
        rw [after]
        simp [Config.journal, Running.advance, List.map_set]

/-- An invariant of the state and the journal: a call that starts and a step
that its history permits have to keep it. -/
theorem run_journal_invariant
    (starts : ∀ call, Obeys S.execute (may call) (ends call) [] (S.code call))
    (guard : S.Config → Nat → S.Running → S.Action → S.Input → Prop)
    (inv : S.State → List (S.Call × S.History) → Prop)
    (started : ∀ state journal call, inv state journal → inv state (journal ++ [(call, [])]))
    (stepped : ∀ (c : S.Config) index r action input, c.Disciplined may ends →
      inv c.state c.journal → c.journal[index]? = some (r.call, r.history) →
      may r.call r.history action → guard c index r action input →
      inv (S.execute action input c.state).2
        (c.journal.set index (r.call, ⟨action, input, c.state⟩ :: r.history)))
    {s : S.State} {events : List S.Event} (holds : inv s [])
    (admissible : Admissible (Guarded guard) (initial s) events) :
    inv ((initial s : S.Config).run events).state ((initial s : S.Config).run events).journal := by
  refine run_invariant_of_discipline starts (fun c => inv c.state c.journal)
    (fun c e disciplined keeps allowed => ?_) holds admissible
  rcases disciplined.journal_cases allowed with ⟨state, journal⟩ | ⟨call, state, journal⟩ |
    ⟨index, r, action, input, found, permitted, guarded, state, journal⟩
  · rw [state, journal]
    exact keeps
  · rw [state, journal]
    exact started _ _ call keeps
  · rw [state, journal]
    exact stepped c index r action input disciplined keeps found permitted guarded

end Discipline

end System

end Actl.Foundation
