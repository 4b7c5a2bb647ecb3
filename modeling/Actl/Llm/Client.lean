import Actl.Audit.Loaded
import Actl.Cache.RateLimit
import Actl.Foundation.Run
import Actl.Platform.Breaker

/-!
# The client of the language model

`GroqClient` of `infrastructure/llm/groq_client.py`, with the cache, the rate limiter and
the circuit breaker that a completion passes before the model is asked. An action is one
command of Redis, one end of a call through the breaker, or the request itself; the input
of a step is what the environment decides about it. Redis may fail, and may have done
what it was told all the same.

The cache and the bucket are shared by all processes. Each process has its own breaker
and its own `LLMHealth`. What `json` does with texts is a parameter: of it this is used,
that a value which was read is read again from the text it is dumped to.
-/

set_option autoImplicit false

namespace Actl.Llm

open Audit (LoadedValue jcs)
open Breaker (Circuit CircuitBreaker)
open Foundation (Code CodeText Program System)
open RateLimit (TokenBucketLimiter Bucket)

/-! ## Prompts -/

inductive Mode where
  | json
  | text
  deriving DecidableEq, Repr

/-- The value of `mode`. -/
def Mode.value : Mode → String
  | .json => "json"
  | .text => "text"

/-- What a cached answer is an answer to, besides the model. -/
@[ext]
structure Prompt where
  mode : Mode
  system : String
  user : String
  deriving DecidableEq

/-- The payload of `canonical_prompt_key`. -/
def canonicalPayload (model : String) (prompt : Prompt) : JSONValue :=
  .obj [("mode", .str prompt.mode.value), ("model", .str model), ("system", .str prompt.system),
    ("user", .str prompt.user), ("temperature", .int 0)]

/-- `canonical_prompt_key`. -/
def canonicalPromptKey (P : Platform) (model : String) (prompt : Prompt) : String :=
  P.hexdigest (jcs (canonicalPayload model prompt))

/-- What a request to the model says. -/
structure ChatRequest where
  model : String
  temperature : Int
  maxTokens : Nat
  /-- Roles and contents. -/
  messages : List (String × String)
  jsonObject : Bool
  deriving DecidableEq

/-- The `kwargs` of a request. -/
def chatRequest (model : String) (prompt : Prompt) (maxTokens : Nat) : ChatRequest where
  model := model
  temperature := 0
  maxTokens := maxTokens
  messages := [("system", prompt.system), ("user", prompt.user)]
  jsonObject := prompt.mode = .json

/-! ## The service -/

/-- What `json.loads` makes of a text. -/
inductive Parsed where
  | value (value : LoadedValue)
  | valueError (message : String)
  /-- What is no `ValueError`, such as a text that is nested too deeply. -/
  | raised (message : String)

/-- What the clients share. -/
structure Service where
  platform : Platform
  loads : CodeText → Parsed
  dumps : LoadedValue → CodeText
  loads_dumps : ∀ text value, loads text = .value value → loads (dumps value) = .value value
  loads_dumps_str : ∀ text, loads (dumps (.str text)) = .value (.str text)
  breaker : CircuitBreaker
  limiter : TokenBucketLimiter
  /-- `_ttl_s` of the cache. -/
  ttlS : Int := 86400

/-- An answer in Redis, with the time it is kept until. -/
structure Entry where
  raw : CodeText
  expires : Time
  deriving DecidableEq

/-- Redis and the processes: what is cached, the last first; the scripts that have run on
the bucket; each process's circuit, and whether its client has ever succeeded. -/
structure World where
  cache : List (String × Entry)
  scripts : List RateLimit.Call
  circuits : Nat → Circuit
  succeeded : Nat → Bool

def World.fresh : World := ⟨[], [], fun _ => {}, fun _ => false⟩

/-- Why a completion fails. -/
inductive Failure where
  | llmUnavailable (message : String)
  | other (message : String)
  | cancelled
  deriving DecidableEq, Repr

/-- How a request ends. -/
inductive Answer where
  /-- `choices[0].message.content`. -/
  | content (content : Option CodeText)
  /-- An `APIError` with its status and the body of the response. -/
  | apiError (status : Option Int) (body : JSONValue)
  | raised (message : String)
  | cancelled

/-- How a command of Redis ends. -/
inductive Redis where
  | answered
  | failed (applied : Bool) (message : String)
  deriving DecidableEq

/-- The command took effect. -/
def Redis.applied : Redis → Bool
  | .answered => true
  | .failed applied _ => applied

/-- What the environment decides about one step: Redis and its clock, the call of the
limiter with the reading of its process's clock, the clock of the breaker, and what the
model answers. -/
structure Input where
  redis : Redis
  redisNow : Time
  acquire : RateLimit.Call
  now : Time
  answer : Answer

/-- The limiter is asked for one token at a time. -/
def Input.oneToken (input : Input) : RateLimit.Call := { input.acquire with tokens := 1 }

/-- One more script has run on the bucket. -/
def World.ran (w : World) (call : RateLimit.Call) : World :=
  { w with scripts := w.scripts ++ [call] }

inductive Action where
  | cacheGet (key : String)
  | tryAcquire
  | enter (process : Nat)
  | request (body : ChatRequest)
  | leave (process : Nat) (outcome : Breaker.Outcome)
  | cacheSet (key : String) (value : LoadedValue)

@[reducible] def Reply : Action → Type
  | .cacheGet _ => Except String (Option LoadedValue)
  | .tryAcquire => Except String Bool
  | .enter _ => Except String Unit
  | .request _ => Answer
  | _ => Unit

namespace Service

variable (G : Service)

/-- `_key` of the cache. -/
def cacheKey (key : String) : String := "actl:llm:cache:" ++ key

/-- What Redis keeps under a key. -/
def held (w : World) (key : String) (now : Time) : Option CodeText :=
  match w.cache.lookup (cacheKey key) with
  | some entry => if now < entry.expires then some entry.raw else none
  | none => none

/-- `SemanticCache.get`. What is no JSON is no answer, and neither is `null`. -/
def cacheGet (w : World) (key : String) (input : Input) : Except String (Option LoadedValue) :=
  match input.redis with
  | .failed _ _ => .ok none
  | .answered =>
      match held w key input.redisNow with
      | none => .ok none
      | some raw =>
          match G.loads raw with
          | .value .null => .ok none
          | .value value => .ok (some value)
          | .valueError _ => .ok none
          | .raised message => .error message

/-- `SemanticCache.set`. Redis takes no time to live that is not positive. -/
def cacheSet (w : World) (key : String) (value : LoadedValue) (input : Input) : World :=
  if input.redis.applied ∧ 0 < G.ttlS then
    { w with
      cache := (cacheKey key, ⟨G.dumps value, input.redisNow + seconds G.ttlS⟩) :: w.cache }
  else w

/-- The hash of the bucket. -/
def bucket (w : World) : Option Bucket := G.limiter.after none w.scripts

/-- `try_acquire` for one token. -/
def tryAcquire (w : World) (input : Input) : Except String Bool × World :=
  match input.redis with
  | .answered => (.ok (G.limiter.tryAcquire (G.bucket w) input.oneToken).1, w.ran input.oneToken)
  | .failed applied message => (.error message, if applied then w.ran input.oneToken else w)

/-- Performing an action. -/
def execute : (action : Action) → Input → World → Reply action × World
  | .cacheGet key, input, w => (G.cacheGet w key input, w)
  | .tryAcquire, input, w => G.tryAcquire w input
  | .enter process, input, w =>
      match G.breaker.enter (w.circuits process) input.now with
      | .error message => (.error message, w)
      | .ok circuit =>
          (.ok (), { w with circuits := Function.update w.circuits process circuit })
  | .request _, input, w => (input.answer, w)
  | .leave process outcome, input, w =>
      -- `mark_success` follows without an await in between.
      ((), { w with
        circuits := Function.update w.circuits process
          (G.breaker.leave (w.circuits process) outcome input.now)
        succeeded := if outcome = .success then Function.update w.succeeded process true
          else w.succeeded })
  | .cacheSet key value, input, w => ((), G.cacheSet w key value input)

end Service

/-! ## Completions -/

abbrev Prog (α : Type) : Type := Code Action Reply Failure α

/-- Issuing one action. -/
def issue (action : Action) : Prog (Reply action) := Code.perform action .ok

/-- `_sanitized_error_type`. -/
def sanitizedErrorType (body : JSONValue) : Option String :=
  match (body.get? "error").bind (·.get? "type") with
  | some (.str errorType) => some errorType
  | _ => none

/-- `str` of what may be `None`. -/
def orNone {α : Type} [ToString α] : Option α → String
  | some value => toString value
  | none => "None"

/-- A client, in the process it belongs to. -/
structure GroqClient where
  process : Nat
  model : String
  deriving DecidableEq

section Complete

variable (G : Service)

/-- `_call` from the answer on, and how the exceptions that come out of it are raised
again. -/
def readAnswer (mode : Mode) : Answer → Except Failure LoadedValue
  | .content content =>
      match mode with
      | .text => .ok (.str (content.getD []))
      | .json =>
          match G.loads (content.getD []) with
          | .value value => .ok value
          | .valueError message => .error (.llmUnavailable message)
          | .raised message => .error (.other message)
  | .apiError status body => .error (.llmUnavailable
      ("Groq API error (status=" ++ orNone status ++ ", type=" ++ orNone (sanitizedErrorType body)
        ++ ")"))
  | .raised message => .error (.other message)
  | .cancelled => .error .cancelled

/-- How the breaker sees the call end. -/
def outcomeOf : Except Failure LoadedValue → Breaker.Outcome
  | .ok _ => .success
  | .error .cancelled => .cancelled
  | .error _ => .failure

/-- `_complete`. -/
def complete (client : GroqClient) (prompt : Prompt) (maxTokens : Nat) : Prog LoadedValue := do
  let key := canonicalPromptKey G.platform client.model prompt
  match ← issue (.cacheGet key) with
  | .error message => throw (.other message)
  | .ok (some cached) => return cached
  | .ok none =>
      match ← issue .tryAcquire with
      | .error message => throw (.llmUnavailable ("rate limiter unavailable: " ++ message))
      | .ok false => throw (.llmUnavailable "LLM rate limit exceeded")
      | .ok true =>
          match ← issue (.enter client.process) with
          | .error message => throw (.llmUnavailable message)
          | .ok () =>
              let answer ← issue (.request (chatRequest client.model prompt maxTokens))
              let called := readAnswer G prompt.mode answer
              issue (.leave client.process (outcomeOf called))
              match called with
              | .error failure => throw failure
              | .ok result =>
                  issue (.cacheSet key result)
                  return result

/-- The value has the shape the mode promises. -/
def Mode.Shapes : Mode → LoadedValue → Prop
  | .json, .obj _ => True
  | .text, .str _ => True
  | _, _ => False

instance (mode : Mode) (value : LoadedValue) : Decidable (mode.Shapes value) := by
  cases mode <;> cases value <;> first | exact .isTrue trivial | exact .isFalse id

/-- The message for a value of another shape. -/
def Mode.mismatch : Mode → String
  | .json => "Groq response was not a JSON object"
  | .text => "Groq response was not text"

/-- `complete_json` and `complete_text`. -/
def completeIn (client : GroqClient) (prompt : Prompt) (maxTokens : Nat) : Prog LoadedValue := do
  let result ← complete G client prompt maxTokens
  if prompt.mode.Shapes result then return result
  else throw (.llmUnavailable prompt.mode.mismatch)

end Complete

/-- A completion: of which client, of which prompt, and of how many tokens at most. -/
structure Call where
  client : GroqClient
  prompt : Prompt
  maxTokens : Nat
  deriving DecidableEq

/-- `complete_json`. -/
def completeJson (client : GroqClient) (system user : String) (maxTokens : Nat) : Call :=
  ⟨client, ⟨.json, system, user⟩, maxTokens⟩

/-- `complete_text`. -/
def completeText (client : GroqClient) (system user : String) (maxTokens : Nat) : Call :=
  ⟨client, ⟨.text, system, user⟩, maxTokens⟩

/-- Any number of completions of any clients. -/
def clients (G : Service) : System where
  Action := Action
  Reply := Reply
  Input := Input
  State := World
  Call := Call
  Result := Except Failure LoadedValue
  execute := G.execute
  code call := completeIn G call.client call.prompt call.maxTokens

/-- What a run from the start reaches. -/
def reached (G : Service) (events : List (clients G).Event) : (clients G).Config :=
  (System.initial World.fresh : (clients G).Config).run events

end Actl.Llm
