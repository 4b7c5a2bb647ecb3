import Mathlib.Algebra.Order.BigOperators.Group.List
import Actl.Audit.Separation
import Actl.Audit.Verification
import Actl.Fixture
import Actl.Foundation.Journal
import Actl.Llm.Client

/-!
# Runs of the clients

Any number of completions, of any clients in any processes, run at once. What a
completion returns was given by the model for the very same prompt (`answers_are_given`):
in this completion, or in one whose answer was cached since and is not older than the time
to live. The requests of all the clients together stay within what the bucket grants
(`requests_within_limit`).
-/

set_option autoImplicit false

namespace Actl.Llm

open Audit (LoadedValue jcs CommonKeys members_of_jcs_eq hex_injective)
open Foundation (Code CodeText Continues Obeys Step System continues_started continues_stepped count
  count_started count_stepped granted)
open Foundation.Code (ObeysCode obeys_bind)
open RateLimit (TokenBucketLimiter)
open Foundation.System (Config Lawful initial run_journal_invariant run_disciplined
  admissible_of_forall)

/-- What a completion has done, the latest step first. -/
abbrev Past : Type := List (Step Action Input World)

/-! ## The discipline -/

section Discipline

variable (G : Service)

/-- The text whose digest is the key. -/
def Call.keyText (call : Call) : Bytes := jcs (canonicalPayload call.client.model call.prompt)

/-- The key a completion's answer is cached under. -/
def Call.key (call : Call) : String := canonicalPromptKey G.platform call.client.model call.prompt

/-- The request a completion sends. -/
def Call.body (call : Call) : ChatRequest :=
  chatRequest call.client.model call.prompt call.maxTokens

/-- The step performed the action, with this reply. -/
def Answered (s : Step Action Input World) (action : Action) (reply : Reply action) : Prop :=
  s.action = action ∧ (G.execute action s.input s.before).1 = reply

/-- The step found the answer in the cache. -/
def Hits (call : Call) (s : Step Action Input World) (value : LoadedValue) : Prop :=
  Answered G s (.cacheGet (call.key G)) (.ok (some value))

/-- The step asked the model, which gave the answer. -/
def Gives (call : Call) (s : Step Action Input World) (value : LoadedValue) : Prop :=
  s.action = .request call.body ∧ readAnswer G call.prompt.mode s.input.answer = .ok value

/-- The step could not use what the cache or the model answered. -/
def Breaks (call : Call) (s : Step Action Input World) (failure : Failure) : Prop :=
  (∃ message, failure = .other message ∧ Answered G s (.cacheGet (call.key G)) (.error message)) ∨
    s.action = .request call.body ∧ readAnswer G call.prompt.mode s.input.answer = .error failure

/-- What a completion may do, given what it has done. -/
def May (call : Call) (past : Past) : Action → Prop
  | .cacheGet key => key = call.key G ∧ past = []
  | .request body => body = call.body ∧ (∃ s ∈ past, Answered G s .tryAcquire (.ok true)) ∧
      ∀ s ∈ past, ∀ body, s.action ≠ .request body
  | .cacheSet key value => key = call.key G ∧ ∃ s ∈ past, Gives G call s value
  | _ => True

/-- The value is from the cache, where nothing else was done, or from the model. -/
def Finds (call : Call) (value : LoadedValue) (past : Past) : Prop :=
  (∃ s, past = [s] ∧ Hits G call s value) ∨ ∃ s ∈ past, Gives G call s value

/-- The model is unavailable, or something is wrong with what was answered. -/
def Fails (call : Call) (failure : Failure) (past : Past) : Prop :=
  (∃ message, failure = .llmUnavailable message) ∨ ∃ s ∈ past, Breaks G call s failure

/-- How a completion may end. -/
def Ends (call : Call) (result : Except Failure LoadedValue) (past : Past) : Prop :=
  match result with
  | .ok value => call.prompt.mode.Shapes value ∧ Finds G call value past
  | .error failure => Fails G call failure past

variable {G}

/-- An action, and what is done with its reply. -/
theorem obeys_act {β : Type} {may : Past → Action → Prop} {returns : β → Past → Prop}
    {raises : Failure → Past → Prop} {history : Past} {action : Action}
    {rest : Reply action → Prog β} (permitted : may history action)
    (next : ∀ input before, ObeysCode G.execute may returns raises
      (⟨action, input, before⟩ :: history) (rest (G.execute action input before).1)) :
    ObeysCode G.execute may returns raises history (issue action >>= rest) :=
  ⟨permitted, fun input before => next input before⟩

/-- The end of a completion that has asked the model. -/
theorem result_obeys (call : Call) {past : Past} {s : Step Action Input World} (taken : s ∈ past)
    (asked : s.action = .request call.body) (called : Except Failure LoadedValue) :
    readAnswer G call.prompt.mode s.input.answer = called →
      ObeysCode G.execute (May G call) (Finds G call) (Fails G call) past
        (match called with
          | .error failure => throw failure
          | .ok result => do
              issue (.cacheSet (call.key G) result)
              return result) := by
  intro read
  cases called with
  | error failure => exact .inr ⟨s, taken, .inr ⟨asked, read⟩⟩
  | ok result =>
      refine obeys_act ⟨rfl, s, taken, asked, read⟩ fun input before => ?_
      exact .inr ⟨s, List.mem_cons_of_mem _ taken, asked, read⟩

theorem complete_obeys (call : Call) :
    ObeysCode G.execute (May G call) (Finds G call) (Fails G call) []
      (complete G call.client call.prompt call.maxTokens) := by
  unfold complete
  refine obeys_act ⟨rfl, rfl⟩ fun input before => ?_
  cases looked : (G.execute
      (.cacheGet (canonicalPromptKey G.platform call.client.model call.prompt)) input before).1 with
  | error message => exact .inr ⟨_, List.mem_cons_self, .inl ⟨message, rfl, rfl, looked⟩⟩
  | ok found =>
      cases found with
      | some cached => exact .inl ⟨_, rfl, rfl, looked⟩
      | none =>
          refine obeys_act trivial fun input before => ?_
          cases tried : (G.execute .tryAcquire input before).1 with
          | error message => exact .inl ⟨_, rfl⟩
          | ok allowed =>
              cases allowed with
              | false => exact .inl ⟨_, rfl⟩
              | true =>
                  refine obeys_act trivial fun input before => ?_
                  cases entered : (G.execute (.enter call.client.process) input before).1 with
                  | error message => exact .inl ⟨_, rfl⟩
                  | ok _ =>
                      refine obeys_act ⟨rfl, ?_, ?_⟩ fun input before => ?_
                      · exact ⟨_, List.mem_cons_of_mem _ List.mem_cons_self, rfl, tried⟩
                      · simp
                      · refine obeys_act trivial fun input' before' => ?_
                        exact result_obeys (s := ⟨.request call.body, input, before⟩) call
                          (List.mem_cons_of_mem _ List.mem_cons_self) rfl _ rfl

/-- Every completion obeys the discipline. -/
theorem code_obeys (G : Service) (call : Call) :
    Obeys G.execute (May G call) (Ends G call) [] ((clients G).code call) := by
  have body : ObeysCode G.execute (May G call) (fun value past => Ends G call (.ok value) past)
      (fun failure past => Ends G call (.error failure) past) []
      (completeIn G call.client call.prompt call.maxTokens) := by
    unfold completeIn
    refine obeys_bind (Finds G call) (complete_obeys call) fun value past _ found => ?_
    by_cases shaped : call.prompt.mode.Shapes value
    · rw [if_pos shaped]
      exact ⟨shaped, found⟩
    · rw [if_neg shaped]
      exact .inl ⟨_, rfl⟩
  refine Obeys.mono body fun result past ends => ?_
  cases result with
  | ok value => exact ends
  | error failure => exact ends

end Discipline

/-! ## What is cached -/

/-- The completions made so far, each with what it has done. -/
abbrev Journal : Type := List (Call × Past)

section Cached

variable (G : Service)

/-- A completion with the key was given the value by the model, and has stored it; at the
time it was kept for the time to live. -/
def Stored (journal : Journal) (key : String) (value : LoadedValue) (expires : Time) : Prop :=
  ∃ call past, (call, past) ∈ journal ∧ call.key G = key ∧ (∃ s ∈ past, Gives G call s value) ∧
    ∃ s ∈ past, s.action = .cacheSet key value ∧ expires = s.input.redisNow + seconds G.ttlS

variable {G}

theorem Stored.mono {journal journal' : Journal} {key : String} {value : LoadedValue}
    {expires : Time} (stored : Stored G journal key value expires)
    (continues : Continues journal journal') : Stored G journal' key value expires := by
  obtain ⟨call, past, member, keyed, ⟨s, taken, gives⟩, s', taken', set, kept⟩ := stored
  obtain ⟨past', member', more⟩ := continues call past member
  exact ⟨call, past', member', keyed, ⟨s, more.subset taken, gives⟩, s', more.subset taken', set,
    kept⟩

/-- What the model gave is read again from what is stored. -/
theorem Gives.loads {call : Call} {s : Step Action Input World} {value : LoadedValue}
    (gives : Gives G call s value) : G.loads (G.dumps value) = .value value := by
  have read := gives.2
  unfold readAnswer at read
  split at read
  next content =>
    split at read
    next =>
      cases read
      exact G.loads_dumps_str _
    next =>
      split at read
      next value' parsed =>
        cases read
        exact G.loads_dumps _ _ parsed
      next => cases read
      next => cases read
  next => cases read
  next => cases read
  next => cases read

/-- What a lookup finds is there. -/
theorem mem_of_lookup {α : Type} {pairs : List (String × α)} {key : String} {value : α}
    (found : pairs.lookup key = some value) : (key, value) ∈ pairs := by
  obtain ⟨before, after, split, -⟩ := List.lookup_eq_some_iff.mp found
  rw [split]
  exact List.mem_append_right _ List.mem_cons_self

theorem cacheKey_injective {key key' : String}
    (same : Service.cacheKey key = Service.cacheKey key') : key = key' := by
  have texts := congrArg String.toList same
  simp only [Service.cacheKey, String.toList_append, List.append_cancel_left_eq] at texts
  exact String.toList_inj.mp texts

/-- Everything in the cache was given and stored, and so was everything that was found
there. -/
structure Sound (G : Service) (w : World) (journal : Journal) : Prop where
  cached : ∀ key entry, (key, entry) ∈ w.cache → ∃ key' value, key = Service.cacheKey key' ∧
    entry.raw = G.dumps value ∧ Stored G journal key' value entry.expires
  hits : ∀ call past, (call, past) ∈ journal → ∀ s ∈ past, ∀ value, Hits G call s value →
    ∃ expires, s.input.redisNow < expires ∧ Stored G journal (call.key G) value expires
  readable : ∀ call past, (call, past) ∈ journal → ∀ s ∈ past, ∀ message,
    ¬ Answered G s (.cacheGet (call.key G)) (.error message)

namespace Sound

variable {w : World} {journal : Journal} {index : Nat} {call : Call} {past : Past}
variable {action : Action} {input : Input}

theorem initial (G : Service) : Sound G .fresh [] where
  cached key entry member := by cases member
  hits call past member := by cases member
  readable call past member := by cases member

/-- What is held under a key is read as a value that was given and stored. -/
theorem held (sound : Sound G w journal) {key : String} {now : Time} {raw : CodeText}
    (held : Service.held w key now = some raw) :
    ∃ value expires, G.loads raw = .value value ∧ now < expires ∧
      Stored G journal key value expires := by
  unfold Service.held at held
  split at held
  next entry found =>
    split at held
    next early =>
      cases held
      obtain ⟨key', value, keyed, raw, stored⟩ := sound.cached _ entry (mem_of_lookup found)
      cases cacheKey_injective keyed
      have stored' := stored
      obtain ⟨call, past, -, -, ⟨s, -, gives⟩, -⟩ := stored'
      exact ⟨value, entry.expires, raw ▸ gives.loads, early, stored⟩
    next => cases held
  next => cases held

theorem started (sound : Sound G w journal) (call : Call) :
    Sound G w (journal ++ [(call, [])]) := by
  have continues := continues_started journal call
  have old : ∀ call' past, (call', past) ∈ journal ++ [(call, [])] → (call', past) ∈ journal ∨
      past = [] := by
    intro call' past member
    rcases List.mem_append.mp member with before | new
    · exact .inl before
    · cases List.mem_singleton.mp new
      exact .inr rfl
  refine ⟨fun key entry member => ?_, fun call' past member s taken value hits => ?_,
    fun call' past member s taken => ?_⟩
  · obtain ⟨key', value, keyed, raw, stored⟩ := sound.cached key entry member
    exact ⟨key', value, keyed, raw, stored.mono continues⟩
  · rcases old call' past member with before | rfl
    · obtain ⟨expires, early, stored⟩ := sound.hits call' past before s taken value hits
      exact ⟨expires, early, stored.mono continues⟩
    · cases taken
  · rcases old call' past member with before | rfl
    · exact sound.readable call' past before s taken
    · cases taken

/-- What a look into the cache answers. -/
theorem cacheGet_cases (sound : Sound G w journal) (key : String) (input : Input) :
    G.cacheGet w key input = .ok none ∨ ∃ value expires, G.cacheGet w key input = .ok (some value) ∧
      input.redisNow < expires ∧ Stored G journal key value expires := by
  unfold Service.cacheGet
  split
  next => exact .inl rfl
  next =>
    split
    next => exact .inl rfl
    next raw held =>
      obtain ⟨value, expires, parsed, early, stored⟩ := sound.held held
      rw [parsed]
      split
      next => exact .inl rfl
      next value' _ same =>
        cases same
        exact .inr ⟨value, expires, rfl, early, stored⟩
      next same => cases same
      next same => cases same

theorem cacheSet_cases (G : Service) (w : World) (key : String) (value : LoadedValue)
    (input : Input) : G.cacheSet w key value input = w ∨ G.cacheSet w key value input =
      { w with cache := (Service.cacheKey key,
        ⟨G.dumps value, input.redisNow + seconds G.ttlS⟩) :: w.cache } := by
  unfold Service.cacheSet
  split
  next => exact .inr rfl
  next => exact .inl rfl

/-- Only storing an answer changes what is cached. -/
theorem cache_execute (G : Service) (action : Action) (input : Input) (w : World) :
    (G.execute action input w).2.cache = w.cache ∨ ∃ key value, action = .cacheSet key value ∧
      (G.execute action input w).2.cache = (Service.cacheKey key,
        ⟨G.dumps value, input.redisNow + seconds G.ttlS⟩) :: w.cache := by
  cases action with
  | cacheGet key => exact .inl rfl
  | tryAcquire =>
      refine .inl ?_
      simp only [Service.execute, Service.tryAcquire]
      split
      next => rfl
      next => split <;> rfl
  | enter process =>
      refine .inl ?_
      simp only [Service.execute]
      split <;> rfl
  | request body => exact .inl rfl
  | leave process outcome => exact .inl rfl
  | cacheSet key value =>
      simp only [Service.execute]
      rcases cacheSet_cases G w key value input with same | added
      · exact .inl (congrArg World.cache same)
      · exact .inr ⟨key, value, rfl, congrArg World.cache added⟩

theorem stepped (sound : Sound G w journal) (found : journal[index]? = some (call, past))
    (permitted : May G call past action) :
    Sound G (G.execute action input w).2
      (journal.set index (call, ⟨action, input, w⟩ :: past)) := by
  have continues := continues_stepped found ⟨action, input, w⟩
  have inside := (List.getElem?_eq_some_iff.mp found).1
  have mine : (call, ⟨action, input, w⟩ :: past) ∈
      journal.set index (call, ⟨action, input, w⟩ :: past) := List.mem_set inside _
  have entries : ∀ call' past',
      (call', past') ∈ journal.set index (call, ⟨action, input, w⟩ :: past) →
        (∃ past'', (call', past'') ∈ journal ∧ past' = past'') ∨
        call' = call ∧ past' = ⟨action, input, w⟩ :: past := by
    intro call' past' member
    rcases List.mem_or_eq_of_mem_set member with old | new
    · exact .inl ⟨past', old, rfl⟩
    · cases new
      exact .inr ⟨rfl, rfl⟩
  refine ⟨fun key entry member => ?_, fun call' past' member s taken value hits => ?_,
    fun call' past' member s taken message broken => ?_⟩
  · rcases cache_execute G action input w with same | ⟨key', value, rfl, added⟩
    · rw [same] at member
      obtain ⟨key', value, keyed, raw, stored⟩ := sound.cached key entry member
      exact ⟨key', value, keyed, raw, stored.mono continues⟩
    · rw [added] at member
      rcases List.mem_cons.mp member with new | old
      · cases new
        obtain ⟨rfl, s, taken, gives⟩ := permitted
        refine ⟨call.key G, value, rfl, rfl, call, _, mine, rfl, ⟨s, ?_, gives⟩, _,
          List.mem_cons_self, rfl, rfl⟩
        exact List.mem_cons_of_mem _ taken
      · obtain ⟨key', value, keyed, raw, stored⟩ := sound.cached key entry old
        exact ⟨key', value, keyed, raw, stored.mono continues⟩
  · have earlier : ∀ past'', (call', past'') ∈ journal → s ∈ past'' → ∃ expires,
        s.input.redisNow < expires ∧ Stored G (journal.set index (call, ⟨action, input, w⟩ :: past))
          (call'.key G) value expires := by
      intro past'' old taken'
      obtain ⟨expires, early, stored⟩ := sound.hits call' past'' old s taken' value hits
      exact ⟨expires, early, stored.mono continues⟩
    rcases entries call' past' member with ⟨past'', old, rfl⟩ | ⟨rfl, rfl⟩
    · exact earlier _ old taken
    · rcases List.mem_cons.mp taken with rfl | before
      · obtain ⟨rfl, looked⟩ := hits
        have looked : G.cacheGet w (call'.key G) input = .ok (some value) := looked
        rcases sound.cacheGet_cases (call'.key G) input with
          none | ⟨value', expires, some, early, stored⟩
        · rw [none] at looked
          cases looked
        · rw [some] at looked
          cases looked
          exact ⟨expires, early, stored.mono continues⟩
      · exact earlier past (List.mem_of_getElem? found) before
  · rcases entries call' past' member with ⟨past'', old, rfl⟩ | ⟨rfl, rfl⟩
    · exact sound.readable call' _ old s taken message broken
    · rcases List.mem_cons.mp taken with rfl | before
      · obtain ⟨rfl, looked⟩ := broken
        have looked : G.cacheGet w (call'.key G) input = .error message := looked
        rcases sound.cacheGet_cases (call'.key G) input with none | ⟨value', expires, some, -⟩
        · rw [none] at looked
          cases looked
        · rw [some] at looked
          cases looked
      · exact sound.readable call' past (List.mem_of_getElem? found) s before message broken

end Sound

/-- What the runs keep of the cache. -/
theorem run_sound (G : Service) (events : List (clients G).Event) :
    Sound G (reached G events).state (reached G events).journal :=
  run_journal_invariant (S := clients G) (code_obeys G) (fun _ _ _ _ _ => True) (Sound G)
    (fun _ _ call sound => sound.started call)
    (fun _ _ _ _ _ _ sound found permitted _ => sound.stepped found permitted)
    (Sound.initial G)
    (admissible_of_forall (fun c e => by cases e <;> simp [Foundation.System.Guarded]) _ events)

end Cached

/-! ## Prompts -/

/-- The members of two payloads. -/
def bothPayloads (model model' : String) (prompt prompt' : Prompt) : CommonKeys := [
  ("mode", .str prompt.mode.value, .str prompt'.mode.value),
  ("model", .str model, .str model'),
  ("system", .str prompt.system, .str prompt'.system),
  ("user", .str prompt.user, .str prompt'.user),
  ("temperature", .int 0, .int 0)]

theorem Mode.value_injective {mode mode' : Mode} (same : mode.value = mode'.value) :
    mode = mode' := by
  cases mode <;> cases mode' <;> first | rfl | exact absurd same (by decide)

/-- The text of a key determines the model and the prompt. -/
theorem keyText_separates {call call' : Call} (same : call.keyText = call'.keyText) :
    call.client.model = call'.client.model ∧ call.prompt = call'.prompt := by
  have equal := members_of_jcs_eq
    (bothPayloads call.client.model call'.client.model call.prompt call'.prompt)
    (fun m member => by
      simp only [bothPayloads, List.mem_cons, List.not_mem_nil, or_false] at member
      rcases member with rfl | rfl | rfl | rfl | rfl <;> constructor) same
  simp only [bothPayloads, List.forall_mem_cons, JSONValue.str.injEq, List.not_mem_nil,
    false_implies, implies_true, and_true] at equal
  obtain ⟨mode, model, system, user⟩ := equal
  exact ⟨model, Prompt.ext (Mode.value_injective mode) system user⟩

/-- Where the digests of the completions' prompts do not collide, equal keys are keys of
one model and one prompt. -/
theorem key_separates {G : Service} {texts : Set Bytes}
    (collisionFree : Set.InjOn G.platform.sha256 texts) {call call' : Call}
    (hashed : call.keyText ∈ texts) (hashed' : call'.keyText ∈ texts)
    (same : call.key G = call'.key G) :
    call.client.model = call'.client.model ∧ call.prompt = call'.prompt :=
  keyText_separates (collisionFree hashed hashed' (Subtype.ext (hex_injective same)))

/-- In every run of any number of completions, of any clients in any processes, where the
digests of the prompts do not collide: a completion that returns a value has a value of
the shape it promises, and was given it by the model, or found it in the cache as its only
step. In the cache it is because a completion of the same model and the same prompt was
given it by the model, and stored it less than the time to live ago. A completion that
raises raises `LLMUnavailable`, unless it is the model's answer that raises. -/
theorem answers_are_given (G : Service) (events : List (clients G).Event)
    (collisionFree : Set.InjOn G.platform.sha256
      {text | ∃ r ∈ (reached G events).calls, text = r.call.keyText})
    (r : (clients G).Running) (made : r ∈ (reached G events).calls) :
    (∀ value, r.returned? = some (.ok value) → r.call.prompt.mode.Shapes value ∧
      ((∃ s ∈ r.history, Gives G r.call s value) ∨
        ∃ hit, r.history = [hit] ∧ Hits G r.call hit value ∧
          ∃ r' ∈ (reached G events).calls,
            r'.call.client.model = r.call.client.model ∧ r'.call.prompt = r.call.prompt ∧
            (∃ s ∈ r'.history, Gives G r'.call s value) ∧
            ∃ set ∈ r'.history, set.action = .cacheSet (r.call.key G) value ∧
              hit.input.redisNow < set.input.redisNow + seconds G.ttlS)) ∧
    ∀ failure, r.returned? = some (.error failure) → (∃ message, failure = .llmUnavailable message) ∨
      ∃ s ∈ r.history, s.action = .request r.call.body ∧
        readAnswer G r.call.prompt.mode s.input.answer = .error failure := by
  have sound := run_sound G events
  have mine := Config.mem_journal.mpr ⟨r, made, rfl, rfl⟩
  have disciplined : (reached G events).Disciplined (May G) (Ends G) :=
    run_disciplined (code_obeys G) World.fresh events
  refine ⟨fun value returned => ?_, fun failure returned => ?_⟩
  · obtain ⟨shaped, found⟩ := (disciplined r made).ended returned
    refine ⟨shaped, ?_⟩
    rcases found with ⟨hit, only, hits⟩ | given
    · obtain ⟨expires, early, call, past, member, keyed, gives, set, stored, sets, rfl⟩ :=
        sound.hits r.call r.history mine hit (by rw [only]; exact List.mem_singleton_self hit) value
          hits
      obtain ⟨r', made', rfl, rfl⟩ := Config.mem_journal.mp member
      obtain ⟨model, prompt⟩ := key_separates collisionFree ⟨r', made', rfl⟩ ⟨r, made, rfl⟩ keyed
      exact .inr ⟨hit, only, hits, r', made', model, prompt, gives, set, stored, sets, early⟩
    · exact .inl given
  · rcases (disciplined r made).ended returned with
      unavailable | ⟨s, taken, ⟨message, -, broken⟩ | asked⟩
    · exact .inl unavailable
    · exact absurd broken (sound.readable r.call r.history mine s taken message)
    · exact .inr ⟨s, taken, asked⟩

/-! ## Requests -/

section Requests

variable (G : Service)

/-- The step asked the model. -/
def asks (s : Step Action Input World) : Bool :=
  match s.action with
  | .request _ => true
  | _ => false

/-- The step was granted a token. -/
def grants (s : Step Action Input World) : Bool :=
  match s.action with
  | .tryAcquire => (G.tryAcquire s.before s.input).1.toOption = some true
  | _ => false

/-- What the scripts have granted together. -/
def spent (w : World) : ℚ := ((G.limiter.draws none w.scripts).map Foundation.Draw.amount).sum

variable {G}

theorem grants_of_answered {s : Step Action Input World}
    (answered : Answered G s .tryAcquire (.ok true)) : grants G s = true := by
  obtain ⟨acquired, granted⟩ := answered
  have granted : (G.tryAcquire s.before s.input).1 = .ok true := granted
  simp [grants, acquired, granted, Except.toOption]

/-- A completion asks the model at most as often as it was granted a token. -/
theorem countP_asks_le {call : Call} {past : Past}
    (lawful : Lawful (S := clients G) (May G) call past) :
    past.countP asks ≤ past.countP (grants G) := by
  induction past with
  | nil => rfl
  | cons s past ih =>
      obtain ⟨permitted, lawful⟩ := lawful
      by_cases asked : asks s = true
      · have request : ∃ body, s.action = .request body := by
          unfold asks at asked
          split at asked
          next body same => exact ⟨body, same⟩
          next => cases asked
        obtain ⟨body, request⟩ := request
        rw [request] at permitted
        obtain ⟨-, ⟨s', taken, answered⟩, never⟩ := permitted
        have none : past.countP asks = 0 := by
          rw [List.countP_eq_zero]
          intro s'' taken'' asked''
          unfold asks at asked''
          split at asked''
          next body same => exact never s'' taken'' body same
          next => cases asked''
        have some : 0 < past.countP (grants G) :=
          List.countP_pos_iff.mpr ⟨s', taken, grants_of_answered answered⟩
        rw [List.countP_cons_of_pos asked, none]
        exact Nat.le_trans some (List.sublist_cons_self s past).countP_le
      · rw [List.countP_cons_of_neg asked]
        exact (ih lawful).trans (List.sublist_cons_self s past).countP_le

/-- What one more script on the bucket grants. -/
theorem spent_ran (G : Service) (w : World) (input : Input) :
    spent G (w.ran input.oneToken) = spent G w +
      if (G.limiter.tryAcquire (G.bucket w) input.oneToken).1 then 1 else 0 := by
  have one : input.oneToken.tokens = 1 := rfl
  simp only [spent, World.ran, TokenBucketLimiter.draws_append, List.map_append, List.sum_append,
    TokenBucketLimiter.draws, List.map_cons, List.map_nil, List.sum_cons, List.sum_nil, add_zero,
    Service.bucket, one, Int.cast_one]
  congr

/-- What one step adds to what the scripts have granted. -/
theorem spent_execute (G : Service) (action : Action) (input : Input) (w : World) :
    spent G w + (if grants G ⟨action, input, w⟩ then 1 else 0)
      ≤ spent G (G.execute action input w).2 := by
  cases action with
  | tryAcquire =>
      simp only [grants, Service.execute, Service.tryAcquire]
      cases redis : input.redis with
      | answered =>
          refine le_of_eq ((spent_ran G w input).trans ?_).symm
          cases (G.limiter.tryAcquire (G.bucket w) input.oneToken).1 <;> simp [Except.toOption]
      | failed applied message =>
          have more := spent_ran G w input
          have grew : spent G w ≤ spent G (w.ran input.oneToken) := by
            rw [more]
            cases (G.limiter.tryAcquire (G.bucket w) input.oneToken).1 <;> simp
          cases applied with
          | false => simp [Except.toOption]
          | true => simpa [Except.toOption] using grew
  | enter process =>
      simp only [grants, Service.execute]
      cases G.breaker.enter (w.circuits process) input.now with
      | error message => simp
      | ok circuit => simp [spent]
  | cacheSet key value =>
      simp only [grants, Service.execute]
      rcases Sound.cacheSet_cases G w key value input with same | added
      · simp [same]
      · simp [added, spent]
  | cacheGet key => simp [grants, Service.execute]
  | request body => simp [grants, Service.execute]
  | leave process outcome => simp [grants, Service.execute, spent]

/-- The completions were granted no more than the scripts have granted. -/
def Metered (G : Service) (w : World) (journal : Journal) : Prop :=
  (count (grants G) journal : ℚ) ≤ spent G w

theorem Metered.initial (G : Service) : Metered G .fresh [] := by
  have nothing : spent G World.fresh = 0 := rfl
  have none : count (grants G) ([] : Journal) = 0 := rfl
  rw [Metered, nothing, none, Nat.cast_zero]

theorem Metered.started {w : World} {journal : Journal} (metered : Metered G w journal)
    (call : Call) : Metered G w (journal ++ [(call, [])]) := by
  rw [Metered, count_started]
  exact metered

theorem Metered.stepped {w : World} {journal : Journal} (metered : Metered G w journal)
    {index : Nat}
    {call : Call} {past : Past} (found : journal[index]? = some (call, past)) (action : Action)
    (input : Input) :
    Metered G (G.execute action input w).2
      (journal.set index (call, ⟨action, input, w⟩ :: past)) := by
  rw [Metered, count_stepped found]
  push_cast
  exact (add_le_add_left metered _).trans (spent_execute G action input w)

theorem run_metered (G : Service) (events : List (clients G).Event) :
    Metered G (reached G events).state (reached G events).journal :=
  run_journal_invariant (S := clients G) (code_obeys G) (fun _ _ _ _ _ => True) (Metered G)
    (fun _ _ call metered => metered.started call)
    (fun _ _ _ action input _ metered found _ _ => metered.stepped found action input)
    (Metered.initial G)
    (admissible_of_forall (fun c e => by cases e <;> simp [Foundation.System.Guarded]) _ events)

/-- All draws whose readings lie in the window are granted in it. -/
theorem granted_draws {limiter : TokenBucketLimiter} {first final : ℚ}
    {scripts : List RateLimit.Call}
    (inside : ∀ call ∈ scripts, first ≤ call.reading ∧ call.reading ≤ final)
    (bucket : Option RateLimit.Bucket) : granted first final (limiter.draws bucket scripts)
      = ((limiter.draws bucket scripts).map Foundation.Draw.amount).sum := by
  induction scripts generalizing bucket with
  | nil => rfl
  | cons call scripts ih =>
      have here := inside call List.mem_cons_self
      have rest := ih fun call member => inside call (List.mem_cons_of_mem _ member)
      simp only [TokenBucketLimiter.draws, Foundation.granted_cons, if_pos here, rest,
        List.map_cons, List.sum_cons]

/-- In every run of any number of completions, of any clients in any processes, crashes and
failures of Redis included, as long as no script on the bucket brings a reading that goes
back, nor finds it dropped before it would be full: the requests that the completions have
sent to the model are at most the capacity of the bucket, what refills between the first
and the last reading, and the epsilon. What is found in the cache costs no request. -/
theorem requests_within_limit (G : Service) (room : 0 ≤ G.limiter.limitPerMin)
    (events : List (clients G).Event) {first final : ℚ} (window : first ≤ final)
    (steady : G.limiter.Steady none (reached G events).state.scripts)
    (inside : ∀ call ∈ (reached G events).state.scripts,
      first ≤ call.reading ∧ call.reading ≤ final) :
    (count asks (reached G events).journal : ℚ) ≤
      G.limiter.capacity + G.limiter.refillPerSecond * (final - first) + RateLimit.epsilon := by
  have disciplined : (reached G events).Disciplined (May G) (Ends G) :=
    run_disciplined (code_obeys G) World.fresh events
  have asked : count asks (reached G events).journal ≤
      count (grants G) (reached G events).journal := by
    refine Foundation.count_le fun entry member => ?_
    exact countP_asks_le (disciplined.lawful member)
  calc (count asks (reached G events).journal : ℚ)
      ≤ count (grants G) (reached G events).journal := by exact_mod_cast asked
    _ ≤ spent G (reached G events).state := run_metered G events
    _ = granted first final (G.limiter.draws none (reached G events).state.scripts) :=
        (granted_draws inside none).symm
    _ ≤ _ := TokenBucketLimiter.rateBound_of_steady room steady first final window

end Requests

namespace Fixture

/-- A codec of texts and of the empty object. -/
def loads : CodeText → Parsed
  | .char '"' :: text => .value (.str text)
  | [.char '{', .char '}'] => .value (.obj [])
  | _ => .valueError "Expecting value"

def dumps : LoadedValue → CodeText
  | .str text => .char '"' :: text
  | _ => [.char '{', .char '}']

theorem loads_dumps (text : CodeText) (value : LoadedValue) (read : loads text = .value value) :
    loads (dumps value) = .value value := by
  unfold loads at read
  split at read
  next =>
    cases read
    rfl
  next =>
    cases read
    rfl
  next => cases read

def service : Service where
  platform := Actl.Fixture.platform
  loads := loads
  dumps := dumps
  loads_dumps := loads_dumps
  loads_dumps_str _ := rfl
  breaker := ⟨"groq", 5, seconds 30⟩
  limiter := ⟨20⟩

theorem unexpired : false = true → (RateLimit.ttlS : ℚ) ≤ 0 := by
  intro expired
  cases expired

/-- The model answers with an empty object. -/
def input : Input where
  redis := .answered
  redisNow := 0
  acquire := { reading := 0, late := unexpired }
  now := 0
  answer := .content (some [.char '{', .char '}'])

def question : Call := completeJson ⟨0, "llama"⟩ "Rank." "a, b" 400

/-- The same question of another process, with room for a longer answer. -/
def repeated : Call := completeJson ⟨1, "llama"⟩ "Rank." "a, b" 800

/-- The question is asked and answered, and then it is asked again. -/
def twice : List (clients service).Event :=
  .start question :: List.replicate 6 (.step 0 input) ++ [.start repeated, .step 1 input]

theorem twice_calls : ((reached service twice).calls.map fun r => r.call) = [question, repeated] :=
  Config.run_calls _ twice

theorem twice_collisionFree : Set.InjOn service.platform.sha256
    {text | ∃ r ∈ (reached service twice).calls, text = r.call.keyText} := by
  have same : ∀ r ∈ (reached service twice).calls, r.call.keyText = question.keyText := by
    intro r member
    have listed : r.call ∈ (reached service twice).calls.map fun r => r.call :=
      List.mem_map_of_mem member
    rw [twice_calls] at listed
    rcases List.mem_pair.mp listed with first | second
    · rw [first]
    · rw [second]
      rfl
  rintro _ ⟨r, member, rfl⟩ _ ⟨r', member', rfl⟩ -
  rw [same r member, same r' member']

/-- The repeated completion has returned an empty object. -/
def returnsEmpty (r : (clients service).Running) : Bool :=
  let call : Call := r.call
  match r.returned? with
  | some (.ok (.obj [])) => call = repeated
  | _ => false

/-- The second completion was given its answer by the model all the same. -/
theorem repeated_is_given : ∃ r ∈ (reached service twice).calls, r.call = repeated ∧
    ∃ value, r.returned? = some (.ok value) ∧ r.call.prompt.mode.Shapes value ∧
      ∃ r' ∈ (reached service twice).calls, ∃ s ∈ r'.history, Gives service r'.call s value := by
  have ran : (reached service twice).calls.any returnsEmpty = true := by decide +kernel
  obtain ⟨r, made, empty⟩ := List.any_eq_true.mp ran
  have same : ∀ call : Call, decide (call = repeated) = true → call = repeated :=
    fun _ => of_decide_eq_true
  have fits : r.returned? = some (.ok (.obj [])) ∧ r.call = repeated := by
    unfold returnsEmpty at empty
    split at empty
    next final => exact ⟨final, same r.call empty⟩
    next => cases empty
  obtain ⟨returned, call⟩ := fits
  obtain ⟨shaped, given⟩ :=
    (answers_are_given service twice twice_collisionFree r made).1 _ returned
  refine ⟨r, made, call, _, returned, shaped, ?_⟩
  rcases given with ⟨s, taken, gives⟩ | ⟨-, -, -, r', made', -, -, ⟨s, taken, gives⟩, -⟩
  · exact ⟨r, made, s, taken, gives⟩
  · exact ⟨r', made', s, taken, gives⟩

/-- One request is sent, within the limit of twenty. -/
theorem twice_within_limit : (count asks (reached service twice).journal : ℚ) ≤
    service.limiter.capacity + service.limiter.refillPerSecond * (0 - 0) + RateLimit.epsilon := by
  have ran : (reached service twice).state.scripts.map RateLimit.Call.reading = [0] := by
    decide +kernel
  cases scripts : (reached service twice).state.scripts with
  | nil =>
      rw [scripts] at ran
      cases ran
  | cons call more =>
      rw [scripts] at ran
      obtain ⟨reading, rest⟩ := List.cons.inj ran
      obtain rfl := List.map_eq_nil_iff.mp rest
      refine requests_within_limit service (by decide) twice le_rfl ?_ ?_
      · rw [scripts]
        exact ⟨trivial, trivial⟩
      · rw [scripts]
        intro call' member
        rw [List.mem_singleton.mp member, reading]
        exact ⟨le_rfl, le_rfl⟩

end Fixture

end Actl.Llm
