import Mathlib.Algebra.Order.Archimedean.Basic
import Mathlib.Data.Rat.Floor
import Actl.Foundation.Refill

/-!
# The token bucket

`TokenBucketLimiter` of `infrastructure/cache/rate_limit.py` and its script, over exact
rationals. The script is one step on the hash of a bucket; each call brings the reading of
its own process's clock. Redis drops the hash by its own clock when there has been no call
for a while.

A bucket is read lazily: what has refilled since the last call is worked out from the
reading that call has left. As long as no reading is before that one, and a hash that was
dropped would have been full, the calls are draws from what refills, and every window is
granted at most the capacity and what refills in it (`rate_bound`). A reading that goes
back is stored all the same, and what refills between the two is then given out again,
without end.
-/

set_option autoImplicit false

namespace Actl.RateLimit

open Foundation (Draw Drawn granted granted_nil granted_cons granted_append)

/-! ## The script -/

/-- `_TTL_S`. -/
def ttlS : Int := 120

/-- `epsilon`, as the script writes it. -/
def epsilon : ℚ := 1 / 10000000

/-- The hash of a bucket. -/
@[ext]
structure Bucket where
  tokens : ℚ
  ts : ℚ
  deriving DecidableEq

/-- `_TOKEN_BUCKET_LUA`, on the hash under its key. -/
def tokenBucket (capacity refillPerSecond now requested : ℚ) (raw : Option Bucket) : Bool × Bucket :=
  let (tokens, lastTs) := match raw with
    | none => (capacity, now)
    | some bucket => (bucket.tokens, bucket.ts)
  let elapsed := if now - lastTs < 0 then 0 else now - lastTs
  let tokens := min capacity (tokens + elapsed * refillPerSecond)
  if requested ≤ tokens + epsilon then (true, ⟨tokens - requested, now⟩)
  else (false, ⟨tokens, now⟩)

structure TokenBucketLimiter where
  limitPerMin : Int

/-- A call of `try_acquire`: the clock's reading, how many tokens it is for, how long ago
by Redis's clock the call before was, and whether Redis has dropped the hash since. -/
structure Call where
  reading : ℚ
  tokens : Int := 1
  idle : ℚ := 0
  expired : Bool := false
  late : expired = true → (ttlS : ℚ) ≤ idle := by nofun

namespace TokenBucketLimiter

variable (limiter : TokenBucketLimiter)

/-- `_capacity`. -/
def capacity : ℚ := limiter.limitPerMin

/-- `_refill_per_second`. -/
def refillPerSecond : ℚ := limiter.limitPerMin / 60

/-- `try_acquire`, with the hash it leaves. -/
def tryAcquire (bucket : Option Bucket) (call : Call) : Bool × Bucket :=
  tokenBucket limiter.capacity limiter.refillPerSecond call.reading call.tokens
    (if call.expired then none else bucket)

/-- Calls one after the other: the hash they leave. -/
def after : Option Bucket → List Call → Option Bucket
  | bucket, [] => bucket
  | bucket, call :: calls => after (some (limiter.tryAcquire bucket call).2) calls

/-- What the calls are granted. -/
def draws : Option Bucket → List Call → List (Draw ℚ)
  | _, [] => []
  | bucket, call :: calls =>
      let tried := limiter.tryAcquire bucket call
      ⟨call.reading, if tried.1 then call.tokens else 0⟩ :: draws (some tried.2) calls

/-- The calls whose readings lie in a window are granted at most the capacity, what refills
in the window, and the epsilon. -/
def RateBound (calls : List Call) : Prop :=
  ∀ first final, first ≤ final → granted first final (limiter.draws none calls) ≤
    limiter.capacity + limiter.refillPerSecond * (final - first) + epsilon

/-- The reading is not before the stored one, and if the hash was dropped it would have
been full. -/
def Advances : Option Bucket → Call → Prop
  | none, _ => True
  | some bucket, call => bucket.ts ≤ call.reading ∧
      (call.expired = true → limiter.capacity ≤
        bucket.tokens + limiter.refillPerSecond * (call.reading - bucket.ts))

/-- Every call of the run advances the clock of the bucket. -/
def Steady : Option Bucket → List Call → Prop
  | _, [] => True
  | bucket, call :: calls =>
      limiter.Advances bucket call ∧ Steady (some (limiter.tryAcquire bucket call).2) calls

variable {limiter}

theorem after_append (bucket : Option Bucket) (calls calls' : List Call) :
    limiter.after bucket (calls ++ calls') = limiter.after (limiter.after bucket calls) calls' := by
  induction calls generalizing bucket with
  | nil => rfl
  | cons call calls ih => exact ih _

theorem draws_append (bucket : Option Bucket) (calls calls' : List Call) :
    limiter.draws bucket (calls ++ calls')
      = limiter.draws bucket calls ++ limiter.draws (limiter.after bucket calls) calls' := by
  induction calls generalizing bucket with
  | nil => rfl
  | cons call calls ih =>
      rw [List.cons_append, draws, draws, ih, List.cons_append, after]

/-! ## One call -/

/-- The level a call finds, once the bucket is refilled. -/
def refilled (capacity refillPerSecond now : ℚ) : Option Bucket → ℚ
  | none => capacity
  | some bucket => min capacity
      (bucket.tokens + (if now - bucket.ts < 0 then 0 else now - bucket.ts) * refillPerSecond)

theorem refilled_of_le (capacity refillPerSecond : ℚ) {now : ℚ} {bucket : Bucket}
    (later : bucket.ts ≤ now) : refilled capacity refillPerSecond now (some bucket)
      = min capacity (bucket.tokens + refillPerSecond * (now - bucket.ts)) := by
  rw [refilled, if_neg (not_lt.mpr (sub_nonneg.mpr later)), mul_comm]

theorem refilled_of_lt (capacity refillPerSecond : ℚ) {now : ℚ} {bucket : Bucket}
    (back : now < bucket.ts) :
    refilled capacity refillPerSecond now (some bucket) = min capacity bucket.tokens := by
  rw [refilled, if_pos (sub_neg.mpr back), zero_mul, add_zero]

theorem refilled_le (capacity refillPerSecond now : ℚ) (raw : Option Bucket) :
    refilled capacity refillPerSecond now raw ≤ capacity := by
  cases raw with
  | none => exact le_rfl
  | some bucket => exact min_le_left _ _

/-- A call is granted what it asks for if the level it finds is enough. -/
theorem tokenBucket_cases (capacity refillPerSecond now requested : ℚ) (raw : Option Bucket) :
    requested ≤ refilled capacity refillPerSecond now raw + epsilon ∧
        tokenBucket capacity refillPerSecond now requested raw
          = (true, ⟨refilled capacity refillPerSecond now raw - requested, now⟩) ∨
      refilled capacity refillPerSecond now raw + epsilon < requested ∧
        tokenBucket capacity refillPerSecond now requested raw
          = (false, ⟨refilled capacity refillPerSecond now raw, now⟩) := by
  have found : tokenBucket capacity refillPerSecond now requested raw
      = if requested ≤ refilled capacity refillPerSecond now raw + epsilon
        then (true, ⟨refilled capacity refillPerSecond now raw - requested, now⟩)
        else (false, ⟨refilled capacity refillPerSecond now raw, now⟩) := by
    cases raw with
    | none =>
        have still : (if now - now < 0 then 0 else now - now) * refillPerSecond = 0 := by
          rw [sub_self, if_neg (lt_irrefl _), zero_mul]
        simp only [tokenBucket, still, add_zero, min_self]
        rfl
    | some bucket => rfl
  by_cases enough : requested ≤ refilled capacity refillPerSecond now raw + epsilon
  · exact .inl ⟨enough, by rw [found, if_pos enough]⟩
  · exact .inr ⟨not_le.mp enough, by rw [found, if_neg enough]⟩

theorem epsilon_pos : 0 < epsilon := by norm_num [epsilon]

theorem capacity_nonneg (room : 0 ≤ limiter.limitPerMin) : 0 ≤ limiter.capacity := by
  rw [capacity]
  exact_mod_cast room

theorem refillPerSecond_nonneg (room : 0 ≤ limiter.limitPerMin) : 0 ≤ limiter.refillPerSecond :=
  div_nonneg (capacity_nonneg room) (by norm_num)

/-- Whatever a bucket holds, a call leaves it at most emptied to the epsilon. -/
theorem floor_refilled (room : 0 ≤ limiter.limitPerMin) (raw : Option Bucket) (now : ℚ)
    (above : ∀ bucket, raw = some bucket → -epsilon ≤ bucket.tokens) :
    -epsilon ≤ refilled limiter.capacity limiter.refillPerSecond now raw := by
  have capacity := capacity_nonneg room
  have small := epsilon_pos
  cases raw with
  | none =>
      rw [refilled]
      linarith
  | some bucket =>
      have gained : 0 ≤ (if now - bucket.ts < 0 then 0 else now - bucket.ts)
          * limiter.refillPerSecond := by
        refine mul_nonneg ?_ (refillPerSecond_nonneg room)
        split
        next => exact le_rfl
        next later => exact not_lt.mp later
      have level := above bucket rfl
      exact le_min (by linarith) (by linarith)

/-- A call that advances is a draw from what has refilled. -/
theorem advances_drawn (room : 0 ≤ limiter.limitPerMin) (bucket : Option Bucket) (call : Call)
    (advances : limiter.Advances bucket call) {level reading : ℚ}
    (start : match bucket with
      | none => level = limiter.capacity ∧ reading = call.reading
      | some bucket => level = bucket.tokens ∧ reading = bucket.ts ∧ -epsilon ≤ bucket.tokens)
    {draws : List (Draw ℚ)}
    (rest : Drawn limiter.capacity limiter.refillPerSecond (-epsilon)
      (limiter.tryAcquire bucket call).2.tokens call.reading draws) :
    -epsilon ≤ (limiter.tryAcquire bucket call).2.tokens ∧
      (limiter.tryAcquire bucket call).2.ts = call.reading ∧
      Drawn limiter.capacity limiter.refillPerSecond (-epsilon) level reading
        (⟨call.reading, if (limiter.tryAcquire bucket call).1 then call.tokens else 0⟩ :: draws) := by
  -- The level the call finds is covered by what was there and has refilled.
  obtain ⟨found, covered, above, tried⟩ : ∃ found : ℚ,
      found ≤ min limiter.capacity (level + limiter.refillPerSecond * (call.reading - reading)) ∧
      -epsilon ≤ found ∧
      (call.tokens ≤ found + epsilon ∧
          limiter.tryAcquire bucket call = (true, ⟨found - call.tokens, call.reading⟩) ∨
        found + epsilon < call.tokens ∧
          limiter.tryAcquire bucket call = (false, ⟨found, call.reading⟩)) := by
    refine ⟨_, ?_, ?_, tokenBucket_cases limiter.capacity limiter.refillPerSecond call.reading
      call.tokens (if call.expired then none else bucket)⟩
    · cases bucket with
      | none =>
          obtain ⟨rfl, rfl⟩ := start
          rw [ite_self, refilled, sub_self, mul_zero, add_zero, min_self]
      | some bucket =>
          obtain ⟨rfl, rfl, -⟩ := start
          obtain ⟨later, full⟩ := advances
          cases dropped : call.expired with
          | true => exact le_min le_rfl (full dropped)
          | false =>
              rw [if_neg Bool.false_ne_true, refilled_of_le _ _ later]
    · refine floor_refilled room _ _ fun bucket' kept => ?_
      cases bucket with
      | none =>
          rw [ite_self] at kept
          cases kept
      | some bucket =>
          split at kept
          next => cases kept
          next =>
            cases kept
            exact start.2.2
  have later : reading ≤ call.reading := by
    cases bucket with
    | none => exact start.2.le
    | some bucket => exact start.2.1 ▸ advances.1
  rcases tried with ⟨enough, tried⟩ | ⟨few, tried⟩
  · rw [tried] at rest ⊢
    have kept : -epsilon ≤ found - call.tokens := by linarith
    refine ⟨kept, rfl, .cons later ?_ kept rest⟩
    rw [if_pos rfl, sub_add_cancel]
    exact covered
  · rw [tried] at rest ⊢
    refine ⟨above, rfl, .cons later ?_ above rest⟩
    rw [if_neg Bool.false_ne_true, add_zero]
    exact covered

/-- The calls of a steady run are draws from what refills. -/
theorem steady_drawn (room : 0 ≤ limiter.limitPerMin) {calls : List Call} {bucket : Bucket}
    (above : -epsilon ≤ bucket.tokens) (steady : limiter.Steady (some bucket) calls) :
    Drawn limiter.capacity limiter.refillPerSecond (-epsilon) bucket.tokens bucket.ts
      (limiter.draws (some bucket) calls) := by
  induction calls generalizing bucket with
  | nil => exact .nil _ _
  | cons call calls ih =>
      have first := advances_drawn room (some bucket) call steady.1 ⟨rfl, rfl, above⟩ (.nil _ _)
      have rest := ih first.1 steady.2
      rw [first.2.1] at rest
      exact (advances_drawn room (some bucket) call steady.1 ⟨rfl, rfl, above⟩ rest).2.2

/-- A steady run keeps the bound. -/
theorem rateBound_of_steady (room : 0 ≤ limiter.limitPerMin) {calls : List Call}
    (steady : limiter.Steady none calls) : limiter.RateBound calls := by
  intro first final window
  have capacity := capacity_nonneg room
  have refills := refillPerSecond_nonneg room
  have small := epsilon_pos
  have floor : -epsilon ≤ limiter.capacity := by linarith
  rw [← sub_neg_eq_add]
  cases calls with
  | nil => exact (Drawn.nil limiter.capacity first).granted_le refills floor window
  | cons call calls =>
      have begun := advances_drawn room none call trivial ⟨rfl, rfl⟩ (.nil _ _)
      have rest := steady_drawn room begun.1 steady.2
      rw [begun.2.1] at rest
      exact (advances_drawn room none call trivial ⟨rfl, rfl⟩ rest).2.2.granted_le refills
        floor window

/-! ## Readings that go back -/

/-- Whatever the readings, a bucket is emptied at most to the epsilon. -/
theorem floor_after (room : 0 ≤ limiter.limitPerMin) {calls : List Call} {bucket bucket' : Bucket}
    (above : -epsilon ≤ bucket.tokens) (left : limiter.after (some bucket) calls = some bucket') :
    -epsilon ≤ bucket'.tokens := by
  induction calls generalizing bucket with
  | nil =>
      cases left
      exact above
  | cons call calls ih =>
      refine ih ?_ left
      have floor := floor_refilled room (if call.expired then none else some bucket)
        call.reading fun bucket' kept => by
          split at kept
          next => cases kept
          next =>
            cases kept
            exact above
      rw [tryAcquire]
      rcases tokenBucket_cases limiter.capacity limiter.refillPerSecond call.reading call.tokens
        (if call.expired then none else some bucket) with ⟨enough, tried⟩ | ⟨-, tried⟩
      · rw [tried]
        dsimp only
        linarith
      · rw [tried]
        exact floor

/-- Two calls of a caller whose clock is ahead and of one whose clock is behind. -/
def swing (behind ahead : ℚ) : List Call := [{ reading := ahead }, { reading := behind }]

/-- Each swing gives out what refills between the two clocks. -/
theorem swing_granted (room : 1 ≤ limiter.limitPerMin) {behind ahead : ℚ} (apart : behind < ahead)
    (level : ℚ) (above : -epsilon ≤ level) :
    ∃ level' : ℚ, limiter.after (some ⟨level, behind⟩) (swing behind ahead) = some ⟨level', behind⟩ ∧
      -epsilon ≤ level' ∧ level' ≤ limiter.capacity - epsilon ∧
      granted behind ahead (limiter.draws (some ⟨level, behind⟩) (swing behind ahead)) + level'
        = min limiter.capacity (level + (ahead - behind) * limiter.refillPerSecond) := by
  have capacity : 1 ≤ limiter.capacity := by
    rw [TokenBucketLimiter.capacity]
    exact_mod_cast room
  have refills : 0 ≤ limiter.refillPerSecond := refillPerSecond_nonneg (by omega)
  have small : epsilon ≤ 1 / 2 := by norm_num [epsilon]
  have positive := epsilon_pos
  have refilled := mul_nonneg (sub_nonneg.mpr apart.le) refills
  have first := tokenBucket_cases limiter.capacity limiter.refillPerSecond ahead 1
    (some ⟨level, behind⟩)
  rw [refilled_of_le _ _ apart.le, mul_comm] at first
  generalize found : min limiter.capacity
    (level + (ahead - behind) * limiter.refillPerSecond) = full at first ⊢
  have most : full ≤ limiter.capacity := found ▸ min_le_left _ _
  have least : -epsilon ≤ full := found ▸ le_min (by linarith) (by linarith)
  have back : ∀ left : ℚ, left ≤ limiter.capacity →
      1 ≤ left + epsilon ∧ tokenBucket limiter.capacity limiter.refillPerSecond behind 1
          (some ⟨left, ahead⟩) = (true, ⟨left - 1, behind⟩) ∨
        left + epsilon < 1 ∧ tokenBucket limiter.capacity limiter.refillPerSecond behind 1
          (some ⟨left, ahead⟩) = (false, ⟨left, behind⟩) := by
    intro left bounded
    have second := tokenBucket_cases limiter.capacity limiter.refillPerSecond behind 1
      (some ⟨left, ahead⟩)
    rw [refilled_of_lt _ _ apart, min_eq_right bounded] at second
    exact second
  have inside : (behind ≤ ahead ∧ ahead ≤ ahead) := ⟨apart.le, le_rfl⟩
  have inside' : (behind ≤ behind ∧ behind ≤ ahead) := ⟨le_rfl, apart.le⟩
  have one : ((1 : Int) : ℚ) = 1 := Int.cast_one
  rcases first with ⟨enough, first⟩ | ⟨few, first⟩
  · rcases back (full - 1) (by linarith) with ⟨enough', second⟩ | ⟨few', second⟩
    · refine ⟨full - 1 - 1, ?_, by linarith, by linarith, ?_⟩
      · simp only [swing, after, tryAcquire, Bool.false_eq_true, if_false, one, first, second]
      · simp only [swing, draws, tryAcquire, Bool.false_eq_true, if_false, one, first, second,
          granted_cons, granted_nil, if_pos inside, if_pos inside', if_true]
        ring
    · refine ⟨full - 1, ?_, by linarith, by linarith, ?_⟩
      · simp only [swing, after, tryAcquire, Bool.false_eq_true, if_false, one, first, second]
      · simp only [swing, draws, tryAcquire, Bool.false_eq_true, if_false, one, first, second,
          granted_cons, granted_nil, if_pos inside, if_pos inside', if_true]
        ring
  · rcases back full most with ⟨enough', second⟩ | ⟨few', second⟩
    · exact absurd enough' (not_le.mpr few)
    · refine ⟨full, ?_, least, by linarith, ?_⟩
      · simp only [swing, after, tryAcquire, Bool.false_eq_true, if_false, one, first, second]
      · simp only [swing, draws, tryAcquire, Bool.false_eq_true, if_false, one, first, second,
          granted_cons, granted_nil, if_pos inside, if_pos inside']
        ring

/-- Swings one after the other. -/
def swings (behind ahead : ℚ) : Nat → List Call
  | 0 => []
  | n + 1 => swing behind ahead ++ swings behind ahead n

/-- Enough swings are granted any amount. -/
theorem swings_granted (room : 1 ≤ limiter.limitPerMin) {behind ahead : ℚ} (apart : behind < ahead)
    (n : Nat) (level : ℚ) (above : -epsilon ≤ level) (below : level ≤ limiter.capacity - epsilon) :
    level + n * min epsilon ((ahead - behind) * limiter.refillPerSecond) ≤
      granted behind ahead (limiter.draws (some ⟨level, behind⟩) (swings behind ahead n))
        + limiter.capacity := by
  induction n generalizing level with
  | zero =>
      have positive := epsilon_pos
      simp only [swings, draws, granted_nil, Nat.cast_zero, zero_mul]
      linarith
  | succ n ih =>
      obtain ⟨level', left, above', below', sum⟩ := swing_granted room apart level above
      have rest := ih level' above' below'
      rw [swings, draws_append, granted_append, left]
      have gained : level + min epsilon ((ahead - behind) * limiter.refillPerSecond) ≤
          min limiter.capacity (level + (ahead - behind) * limiter.refillPerSecond) := by
        refine le_min ?_ ?_
        · have := min_le_left epsilon ((ahead - behind) * limiter.refillPerSecond)
          linarith
        · have := min_le_right epsilon ((ahead - behind) * limiter.refillPerSecond)
          linarith
      rw [Nat.cast_succ, add_mul, one_mul]
      linarith

/-- After a reading that goes back, calls can follow that exceed the bound. -/
theorem exceeds_of_back (room : 1 ≤ limiter.limitPerMin) {calls : List Call} {bucket : Bucket}
    (left : limiter.after none calls = some bucket) {call : Call} (back : call.reading < bucket.ts) :
    ∃ more, ¬ limiter.RateBound (calls ++ call :: more) := by
  have refills : 0 < limiter.refillPerSecond :=
    div_pos (Int.cast_pos.mpr (by omega)) (by norm_num)
  have gain : 0 < min epsilon ((bucket.ts - call.reading) * limiter.refillPerSecond) :=
    lt_min epsilon_pos (mul_pos (sub_pos.mpr back) refills)
  -- The call stores its own reading, and the first swing brings the level below the capacity.
  obtain ⟨level, stored, above⟩ : ∃ level : ℚ,
      limiter.after none (calls ++ [call]) = some ⟨level, call.reading⟩ ∧ -epsilon ≤ level := by
    have reads : (limiter.tryAcquire (some bucket) call).2.ts = call.reading := by
      rw [tryAcquire]
      rcases tokenBucket_cases limiter.capacity limiter.refillPerSecond call.reading call.tokens
        (if call.expired then none else some bucket) with ⟨-, tried⟩ | ⟨-, tried⟩
      · rw [tried]
      · rw [tried]
    have stored : limiter.after none (calls ++ [call])
        = some (limiter.tryAcquire (some bucket) call).2 := by
      rw [after_append, left]
      rfl
    refine ⟨_, stored.trans (congrArg some (Bucket.ext rfl reads)), ?_⟩
    have first : ∀ rest, limiter.after none rest ≠ none → ∀ b, limiter.after none rest = some b →
        -epsilon ≤ b.tokens := by
      intro rest some' b ended
      cases rest with
      | nil => cases ended
      | cons call' rest =>
          refine floor_after (by omega) ?_ ended
          exact (advances_drawn (by omega) none call' trivial ⟨rfl, rfl⟩
            (.nil _ _)).1
    exact first _ (by rw [stored]; nofun) _ stored
  obtain ⟨level', swung, above', below', -⟩ := swing_granted (by omega) back level above
  obtain ⟨n, many⟩ := exists_nat_gt ((limiter.capacity + limiter.refillPerSecond *
    (bucket.ts - call.reading) + epsilon + limiter.capacity - level'
    - granted call.reading bucket.ts (limiter.draws none (calls ++ [call]))
    - granted call.reading bucket.ts (limiter.draws (some ⟨level, call.reading⟩)
      (swing call.reading bucket.ts)))
    / min epsilon ((bucket.ts - call.reading) * limiter.refillPerSecond))
  refine ⟨swing call.reading bucket.ts ++ swings call.reading bucket.ts n, fun bound => ?_⟩
  have window := bound call.reading bucket.ts back.le
  have cut : calls ++ call :: (swing call.reading bucket.ts ++ swings call.reading bucket.ts n)
      = (calls ++ [call]) ++ (swing call.reading bucket.ts ++ swings call.reading bucket.ts n) := by
    rw [List.append_assoc]
    rfl
  rw [cut, draws_append none (calls ++ [call]), stored, draws_append (some ⟨level, call.reading⟩),
    swung, granted_append, granted_append] at window
  have swings' := swings_granted room back n level' above' below'
  rw [div_lt_iff₀ gain] at many
  linarith

/-- In every run whose calls advance the clock of the bucket, the calls of a window are
granted at most the capacity, what refills in it, and the epsilon. A call that goes back
can be followed by calls that are granted more. -/
theorem rate_bound (limiter : TokenBucketLimiter) :
    (∀ calls, 0 ≤ limiter.limitPerMin → limiter.Steady none calls → limiter.RateBound calls) ∧
    ∀ calls bucket call, 1 ≤ limiter.limitPerMin → limiter.after none calls = some bucket →
      call.reading < bucket.ts → ∃ more, ¬ limiter.RateBound (calls ++ call :: more) :=
  ⟨fun _ room steady => rateBound_of_steady room steady,
    fun _ _ _ room left back => exceeds_of_back room left back⟩

end TokenBucketLimiter

namespace Fixture

/-- One token a minute. -/
def slow : TokenBucketLimiter where
  limitPerMin := 1

/-- Two calls a minute apart keep the bound. -/
theorem minute_apart : slow.RateBound [{ reading := 0 }, { reading := 60 }] := by
  refine (TokenBucketLimiter.rate_bound slow).1 _ (by decide) ?_
  refine ⟨trivial, ⟨?_, nofun⟩, trivial⟩
  decide +kernel

/-- Between two calls at a minute, one at nought lets the minute count again. -/
theorem minute_counts_again :
    ¬ slow.RateBound [{ reading := 60 }, { reading := 0 }, { reading := 60 }] := by
  intro bound
  have window := bound 60 60 le_rfl
  revert window
  decide +kernel

end Fixture

end Actl.RateLimit
