import UnsMetadataSync.Canary.Payload
import Mathlib.Algebra.Order.Ring.Rat
import Mathlib.Data.List.Infix
import Mathlib.Tactic.Linarith

/-!
# The Canary writer

`canary/client.py` queues diffs and ships them in batches from one dispatcher.  The dispatcher
loop `_acquire_batch` waits for work, for the circuit breaker and for the token bucket, then
pops a batch; `_dispatch` calls the request sender until it succeeds, the error is not
retriable, or the attempts run out, and records every failure with the breaker.

The client is a state machine with one dispatcher: calls of `drain_once` and iterations of the
worker loop do not overlap.  Each lock section of `_acquire_batch` and each call into a
collaborator is a step of its own, so that enqueues, clock readings and a stop can come between
any two of them, as other threads can in the code.  The clock is an injected callable that
nothing checks: the `tick` action sets the reading `now` to any value.  A sleep is logged and
changes nothing else.  The request sender is the environment, and the `respond` step carries its
outcome; the calls of the dead-letter and back-pressure handlers are logged.  Besides the client's
own fields the state keeps a history of the accepted diffs and the popped batches, over which
`Canary.ClientRuns` states the writer's invariants.

The constructor builds the payload mapper, the bucket, the retry policy and the breaker, each of
which raises `ValueError` on settings out of its range; the writer's settings are those that pass
all four (`CanaryClientSettings.toConfig`, `toConfig_isOk_iff`), and the defaults do.
-/

namespace UnsMetadataSync.Canary.Client

open Payload

/-! ## Token bucket -/

/-- `TokenBucket`; the constructor rejects a non-positive rate or capacity. -/
structure TokenBucket where
  rate : ℚ
  capacity : ℚ
  tokens : ℚ
  updatedAt : ℚ
  rate_pos : 0 < rate
  capacity_pos : 0 < capacity

namespace TokenBucket

/-- A new bucket is full. -/
def create (rate capacity now : ℚ) (rate_pos : 0 < rate) (capacity_pos : 0 < capacity) :
    TokenBucket :=
  ⟨rate, capacity, capacity, now, rate_pos, capacity_pos⟩

/-- `_refill` at clock reading `now`. -/
def refill (b : TokenBucket) (now : ℚ) : TokenBucket :=
  if now - b.updatedAt ≤ 0 then b
  else { b with tokens := min b.capacity (b.tokens + (now - b.updatedAt) * b.rate), updatedAt := now }

/-- `consume()`: take one token if there is one. -/
def consume (b : TokenBucket) (now : ℚ) : Bool × TokenBucket :=
  let b := b.refill now
  if 1 ≤ b.tokens then (true, { b with tokens := b.tokens - 1 }) else (false, b)

/-- `time_until_ready()`: seconds until one token is there. -/
def timeUntilReady (b : TokenBucket) (now : ℚ) : ℚ × TokenBucket :=
  let b := b.refill now
  if 1 ≤ b.tokens then (0, b) else ((1 - b.tokens) / b.rate, b)

/-- The bucket holds between none and `capacity` tokens. -/
structure Valid (b : TokenBucket) : Prop where
  tokens_nonneg : 0 ≤ b.tokens
  tokens_le : b.tokens ≤ b.capacity

theorem valid_create (rate capacity now : ℚ) (rate_pos : 0 < rate) (capacity_pos : 0 < capacity) :
    (create rate capacity now rate_pos capacity_pos).Valid :=
  ⟨capacity_pos.le, le_rfl⟩

@[simp] theorem refill_rate (b : TokenBucket) (now : ℚ) : (b.refill now).rate = b.rate := by
  unfold refill; split <;> rfl

@[simp] theorem refill_capacity (b : TokenBucket) (now : ℚ) :
    (b.refill now).capacity = b.capacity := by
  unfold refill; split <;> rfl

/-- A refill at a reading no earlier than the last one moves the bucket to that reading. -/
theorem refill_updatedAt {b : TokenBucket} {now : ℚ} (h : b.updatedAt ≤ now) :
    (b.refill now).updatedAt = now := by
  unfold refill
  split
  · next he => linarith
  · rfl

theorem Valid.refill {b : TokenBucket} (h : b.Valid) (now : ℚ) : (b.refill now).Valid := by
  unfold TokenBucket.refill
  split
  · exact h
  · next he =>
    have := mul_pos (show 0 < now - b.updatedAt by linarith) b.rate_pos
    exact ⟨le_min b.capacity_pos.le (by linarith [h.tokens_nonneg]), min_le_left _ _⟩

/-- A `consume()` that grants a token takes it from the refilled bucket. -/
theorem consume_snd_of_success {b : TokenBucket} {now : ℚ} (h : (b.consume now).1 = true) :
    1 ≤ (b.refill now).tokens ∧
      (b.consume now).2 = { b.refill now with tokens := (b.refill now).tokens - 1 } := by
  unfold consume at h ⊢
  dsimp only at h ⊢
  split at h
  · next hone => exact ⟨hone, by rw [if_pos hone]⟩
  · cases h

/-- A `consume()` that grants nothing only refills. -/
theorem consume_snd_of_failure {b : TokenBucket} {now : ℚ} (h : (b.consume now).1 = false) :
    (b.consume now).2 = b.refill now := by
  unfold consume at h ⊢
  dsimp only at h ⊢
  split at h
  · cases h
  · next hone => rw [if_neg hone]

@[simp] theorem consume_rate (b : TokenBucket) (now : ℚ) : (b.consume now).2.rate = b.rate := by
  unfold consume; dsimp only; split <;> simp

@[simp] theorem consume_capacity (b : TokenBucket) (now : ℚ) :
    (b.consume now).2.capacity = b.capacity := by
  unfold consume; dsimp only; split <;> simp

theorem consume_updatedAt {b : TokenBucket} {now : ℚ} (h : b.updatedAt ≤ now) :
    (b.consume now).2.updatedAt = now := by
  unfold consume; dsimp only; split <;> exact refill_updatedAt h

theorem Valid.consume {b : TokenBucket} (h : b.Valid) (now : ℚ) : (b.consume now).2.Valid := by
  have h' := h.refill now
  unfold TokenBucket.consume
  dsimp only
  split
  · next hone =>
    exact ⟨show 0 ≤ (b.refill now).tokens - 1 by linarith,
      show (b.refill now).tokens - 1 ≤ (b.refill now).capacity by linarith [h'.tokens_le]⟩
  · exact h'

@[simp] theorem timeUntilReady_snd (b : TokenBucket) (now : ℚ) :
    (b.timeUntilReady now).2 = b.refill now := by
  unfold timeUntilReady; dsimp only; split <;> rfl

end TokenBucket

/-! ## Retry policy -/

/-- `RetryPolicy._limits`: the capped, doubling upper bounds of the retry delays. -/
def retryLimits (maxDelay : ℚ) : Nat → ℚ → List ℚ
  | 0, _ => []
  | n + 1, delay => min delay maxDelay :: retryLimits maxDelay n (min (delay * 2) maxDelay)

/-- `RetryPolicy`; the constructor rejects negative attempts and non-positive delays.  `jitter` is
the map the settings' jitter function computes (`uniform(0, limit)` by default). -/
structure RetryPolicy where
  retries : Nat
  baseDelay : ℚ
  maxDelay : ℚ
  jitter : ℚ → ℚ
  baseDelay_pos : 0 < baseDelay
  maxDelay_pos : 0 < maxDelay

namespace RetryPolicy

def limits (p : RetryPolicy) : List ℚ := retryLimits p.maxDelay p.retries p.baseDelay

/-- `max_attempts`: the first try and the retries. -/
def maxAttempts (p : RetryPolicy) : Nat := p.retries + 1

/-- `next_delay(attempt)`. -/
def nextDelay (p : RetryPolicy) (attempt : Nat) : ℚ :=
  if attempt ≤ 1 then 0
  else match p.limits.getLast? with
    | none => 0
    | some last => max 0 (p.jitter ((p.limits.get? (attempt - 2)).getD last))

end RetryPolicy

/-! ## Circuit breaker -/

/-- The breaker's states `"closed"`, `"open"` and `"half_open"`. -/
inductive BreakerState where
  | closed
  | opened
  | halfOpen
  deriving DecidableEq, Repr

/-- `CircuitBreaker`; the constructor rejects a non-positive threshold or timeout. -/
structure CircuitBreaker where
  threshold : Nat
  resetTimeout : ℚ
  state : BreakerState
  failures : Nat
  openedAt : ℚ
  threshold_pos : 0 < threshold
  resetTimeout_pos : 0 < resetTimeout

namespace CircuitBreaker

/-- A new breaker is closed. -/
def create (threshold : Nat) (resetTimeout : ℚ) (threshold_pos : 0 < threshold)
    (resetTimeout_pos : 0 < resetTimeout) : CircuitBreaker :=
  ⟨threshold, resetTimeout, .closed, 0, 0, threshold_pos, resetTimeout_pos⟩

/-- `time_until_allow()`. -/
def timeUntilAllow (c : CircuitBreaker) (now : ℚ) : ℚ :=
  if c.state ≠ .opened then 0 else max 0 (c.resetTimeout - (now - c.openedAt))

/-- `allow()`: an open breaker whose timeout has run out moves to half-open and lets one call
through. -/
def allow (c : CircuitBreaker) (now : ℚ) : Bool × CircuitBreaker :=
  if c.state = .opened then
    if 0 < c.timeUntilAllow now then (false, c)
    else (true, { c with state := .halfOpen, failures := 0 })
  else (true, c)

def recordSuccess (c : CircuitBreaker) : CircuitBreaker :=
  { c with state := .closed, failures := 0, openedAt := 0 }

def recordFailure (c : CircuitBreaker) (now : ℚ) : CircuitBreaker :=
  let c := { c with failures := c.failures + 1 }
  if c.state = .halfOpen ∨ c.state = .opened ∨ c.threshold ≤ c.failures then
    { c with state := .opened, openedAt := now }
  else c

/-- The breaker is holding traffic back at `now`. -/
def Blocking (c : CircuitBreaker) (now : ℚ) : Prop :=
  c.state = .opened ∧ now - c.openedAt < c.resetTimeout

instance (c : CircuitBreaker) (now : ℚ) : Decidable (c.Blocking now) :=
  inferInstanceAs (Decidable (_ ∧ _))

/-- A call `allow()` lets through leaves the breaker closed or half-open. -/
theorem allow_state_ne_opened {c : CircuitBreaker} {now : ℚ} (h : (c.allow now).1 = true) :
    (c.allow now).2.state ≠ .opened := by
  unfold allow at h ⊢
  by_cases hopen : c.state = .opened
  · by_cases hwait : 0 < c.timeUntilAllow now
    · simp [hopen, hwait] at h
    · simp [hopen, hwait]
  · simp [hopen]

end CircuitBreaker

/-! ## The client -/

/-- The exceptions a request sender can raise, as `_handle_session_error` and `_is_retriable`
tell them apart.  `message` is the text `_handle_session_error` derives from the response body. -/
inductive SendError where
  | httpStatus (status : Nat) (message : String)
  | request
  | payloadTooLarge
  | other

/-- `_is_retriable`. -/
def isRetriable : SendError → Bool
  | .payloadTooLarge => false
  | .httpStatus status _ => 500 ≤ status || status == 429
  | .request => true
  | .other => true

/-- `_handle_session_error` with a session manager: whether the token was invalidated. -/
def sessionInvalidated : SendError → Bool
  | .httpStatus status message =>
    status == 401 || status == 403 || decide ("BadSessionToken".toList <:+: message.toList) ||
      decide ("sessionToken".toList <:+: message.toList)
  | _ => false

/-- `CanaryClientSettings` as far as the writer uses them, with the collaborators' presence.
The bucket's and the breaker's settings are those their constructors accept; `queueCapacity`
and `maxBatchTags` are Python ints that nothing validates. -/
structure ClientConfig where
  rateLimitRps : ℚ
  burstSize : ℚ
  queueCapacity : Int
  maxBatchTags : Int
  retryPolicy : RetryPolicy
  circuitConsecutiveFailures : Nat
  circuitResetSeconds : ℚ
  hasSessionManager : Bool
  hasDeadLetterHandler : Bool
  hasBackpressureHandler : Bool
  rateLimitRps_pos : 0 < rateLimitRps
  burstSize_pos : 0 < burstSize
  circuitConsecutiveFailures_pos : 0 < circuitConsecutiveFailures
  circuitResetSeconds_pos : 0 < circuitResetSeconds

/-- `CanaryClientMetrics`. -/
structure ClientMetrics where
  throttledTotal : Nat
  queueDepth : Nat
  queueDroppedTotal : Nat
  requestsTotal : Nat
  successTotal : Nat
  retryTotal : Nat
  failureTotal : Nat
  circuitOpenTotal : Nat
  circuitState : BreakerState
  deadLetterTotal : Nat

def ClientMetrics.initial : ClientMetrics := ⟨0, 0, 0, 0, 0, 0, 0, 0, .closed, 0⟩

/-- Where the dispatcher is.  `block` is `_process_next_batch`'s argument: false for
`drain_once`, true for the worker loop. -/
inductive Phase where
  | idle
  /-- The top of the `_acquire_batch` loop: the stop flag and the queue. -/
  | awaitQueue (block : Bool)
  | checkCircuit (block : Bool)
  | takeToken (block : Bool)
  /-- After a failed `consume`: `time_until_ready` and the wait. -/
  | refillWait (block : Bool)
  | popBatch (block : Bool)
  /-- `_dispatch` is about to call the sender for the `attempt`-th time. -/
  | send (batch : List CanaryDiff) (attempt : Nat)
  /-- The sender returned (`none`) or raised. -/
  | settle (batch : List CanaryDiff) (attempt : Nat) (error : Option SendError)

/-- What has passed through the queue: every diff accepted by `enqueue`, and every batch popped
from it, in order. -/
structure History where
  accepted : List CanaryDiff
  batches : List (List CanaryDiff)

/-- The writer's state. -/
structure ClientState where
  queue : List CanaryDiff
  phase : Phase
  bucket : TokenBucket
  circuit : CircuitBreaker
  metrics : ClientMetrics
  now : ℚ
  stopped : Bool
  sessionInvalidations : Nat
  /-- `_sleep` calls, latest first. -/
  sleeps : List ℚ
  /-- Sender calls, latest first: clock reading, dispatch number (`requests_total`), batch. -/
  sent : List (ℚ × Nat × List CanaryDiff)
  /-- Dead-letter handler calls, latest first. -/
  deadLetters : List (CanaryDiff × SendError)
  /-- Back-pressure handler calls, latest first. -/
  backpressured : List CanaryDiff
  history : History

/-- `CanaryQueueFull`. -/
inductive EnqueueError where
  | queueFull (message : String)

variable (cfg : ClientConfig)

/-- The client just constructed, with the clock reading `now`. -/
def ClientState.initial (now : ℚ) : ClientState where
  queue := []
  phase := .idle
  bucket := .create cfg.rateLimitRps cfg.burstSize now cfg.rateLimitRps_pos cfg.burstSize_pos
  circuit := .create cfg.circuitConsecutiveFailures cfg.circuitResetSeconds
    cfg.circuitConsecutiveFailures_pos cfg.circuitResetSeconds_pos
  metrics := .initial
  now := now
  stopped := false
  sessionInvalidations := 0
  sleeps := []
  sent := []
  deadLetters := []
  backpressured := []
  history := ⟨[], []⟩

/-- `_wait`: sleep only for a positive duration. -/
def ClientState.wait (s : ClientState) (duration : ℚ) : ClientState :=
  { s with sleeps := if duration ≤ 0 then s.sleeps else duration :: s.sleeps }

/-- `enqueue` of a `CanaryDiff`. -/
def enqueue (s : ClientState) (diff : CanaryDiff) : Except EnqueueError Unit × ClientState :=
  if cfg.queueCapacity ≤ s.queue.length then
    (.error (.queueFull ("canary queue at capacity (" ++ toString cfg.queueCapacity ++ ")")),
      { s with metrics := { s.metrics with queueDroppedTotal := s.metrics.queueDroppedTotal + 1 }
               backpressured := if cfg.hasBackpressureHandler then diff :: s.backpressured
                 else s.backpressured })
  else
    (.ok (), { s with queue := s.queue ++ [diff]
                      metrics := { s.metrics with queueDepth := s.queue.length + 1 }
                      history := { s.history with accepted := s.history.accepted ++ [diff] } })

/-- `enqueue` appends the diff, or raises `CanaryQueueFull` and leaves the queue as it is. -/
theorem enqueue_appends_or_refuses (s : ClientState) (diff : CanaryDiff) :
    ((enqueue cfg s diff).1 = .ok () ∧ (enqueue cfg s diff).2.queue = s.queue ++ [diff]) ∨
      ((enqueue cfg s diff).1 = .error (.queueFull ("canary queue at capacity (" ++
          toString cfg.queueCapacity ++ ")")) ∧ (enqueue cfg s diff).2.queue = s.queue) := by
  unfold enqueue
  split <;> simp

@[simp] theorem enqueue_phase (s : ClientState) (diff : CanaryDiff) :
    (enqueue cfg s diff).2.phase = s.phase := by
  unfold enqueue
  split <;> rfl

@[simp] theorem enqueue_circuit (s : ClientState) (diff : CanaryDiff) :
    (enqueue cfg s diff).2.circuit = s.circuit := by
  unfold enqueue
  split <;> rfl

/-- `_emit_dead_letter`. -/
def emitDeadLetter (s : ClientState) (batch : List CanaryDiff) (error : SendError) : ClientState :=
  { s with metrics := { s.metrics with deadLetterTotal := s.metrics.deadLetterTotal + batch.length }
           deadLetters := if cfg.hasDeadLetterHandler
             then (batch.map (·, error)).reverse ++ s.deadLetters else s.deadLetters }

/-- One step of the dispatcher from the phases it moves through by itself. -/
def advance (s : ClientState) : Option ClientState :=
  match s.phase with
  | .idle => none
  | .send _ _ => none
  | .awaitQueue block =>
    if s.stopped then some { s with phase := .idle }
    else if s.queue.isEmpty then
      if block then some s else some { s with phase := .idle }
    else some { s with phase := .checkCircuit block }
  | .checkCircuit block =>
    match s.circuit.allow s.now with
    | (true, circuit) => some { s with circuit, phase := .takeToken block }
    | (false, circuit) =>
      some (({ s with circuit, phase := .awaitQueue block,
                      metrics := { s.metrics with circuitOpenTotal := s.metrics.circuitOpenTotal + 1
                                                  circuitState := circuit.state } }).wait
        (circuit.timeUntilAllow s.now))
  | .takeToken block =>
    match s.bucket.consume s.now with
    | (true, bucket) => some { s with bucket, phase := .popBatch block }
    | (false, bucket) =>
      some { s with bucket, phase := .refillWait block,
                    metrics := { s.metrics with throttledTotal := s.metrics.throttledTotal + 1 } }
  | .refillWait block =>
    let ready := s.bucket.timeUntilReady s.now
    let waitTime := ready.1
    some (({ s with bucket := ready.2, phase := .awaitQueue block }).wait
      (if 0 < waitTime then waitTime else 0.01))
  | .popBatch block =>
    if s.queue.isEmpty then some { s with phase := .awaitQueue block }
    else
      let batch := s.queue.take cfg.maxBatchTags.toNat
      let rest := s.queue.drop cfg.maxBatchTags.toNat
      let s := { s with queue := rest, metrics := { s.metrics with queueDepth := rest.length },
                        history := { s.history with batches := s.history.batches ++ [batch] } }
      if batch.isEmpty then some { s with phase := .idle }
      else some { s with phase := .send batch 1,
                         metrics := { s.metrics with requestsTotal := s.metrics.requestsTotal + 1 } }
  | .settle batch _ none =>
    let circuit := s.circuit.recordSuccess
    some { s with circuit, phase := .idle,
                  metrics := { s.metrics with successTotal := s.metrics.successTotal + batch.length
                                              circuitState := circuit.state } }
  | .settle batch attempt (some error) =>
    let invalidated := cfg.hasSessionManager && sessionInvalidated error
    let s := { s with sessionInvalidations := s.sessionInvalidations + invalidated.toNat }
    let circuit := s.circuit.recordFailure s.now
    if cfg.retryPolicy.maxAttempts ≤ attempt || !(isRetriable error || invalidated) then
      let s := { s with circuit, phase := .idle,
                        metrics := { s.metrics with failureTotal := s.metrics.failureTotal + 1
                                                    circuitState := circuit.state } }
      some (emitDeadLetter cfg s batch error)
    else
      let s := { s with circuit, phase := .send batch (attempt + 1),
                        metrics := { s.metrics with retryTotal := s.metrics.retryTotal + 1
                                                    circuitState := circuit.state } }
      some (s.wait (cfg.retryPolicy.nextDelay (attempt + 1)))

/-- The actions of a run: the clock, the other threads, and the dispatcher. -/
inductive Action where
  | tick (t : ℚ)
  | enqueue (diff : CanaryDiff)
  | stop
  | start
  /-- `_process_next_batch` begins: `drain_once` or an iteration of the worker loop. -/
  | begin (block : Bool)
  | advance
  /-- The sender is called with the batch and returns (`none`) or raises. -/
  | respond (outcome : Option SendError)

/-- One step; `none` when the action cannot happen in this state. -/
def step (s : ClientState) : Action → Option ClientState
  | .tick t => some { s with now := t }
  | .enqueue diff => some (enqueue cfg s diff).2
  | .stop => some { s with stopped := true }
  | .start => some { s with stopped := false }
  | .begin block => match s.phase with
    | .idle => some { s with phase := .awaitQueue block }
    | _ => none
  | .advance => advance cfg s
  | .respond outcome => match s.phase with
    | .send batch attempt =>
      some { s with phase := .settle batch attempt outcome,
                    sent := (s.now, s.metrics.requestsTotal, batch) :: s.sent }
    | _ => none

/-- The states a run of a client with settings `cfg` can reach. -/
inductive Reachable : ClientState → Prop where
  | init (now : ℚ) : Reachable (ClientState.initial cfg now)
  | step {s s' : ClientState} (a : Action) : Reachable s → step cfg s a = some s' → Reachable s'

/-! ## Construction -/

/-- `CanaryClientSettings` with its defaults, as far as `CanaryClient.__init__` reads them for the
writer; the endpoint, the request timeout and the static session token serve the HTTP sender,
which the environment stands for. -/
structure CanaryClientSettings where
  rateLimitRps : Int := 500
  burstSize : Int := 500
  queueCapacity : Int := 1000
  maxBatchTags : Int := 100
  maxPayloadBytes : Int := 1000000
  retryAttempts : Int := 6
  retryBaseDelaySeconds : ℚ := 1 / 5
  retryMaxDelaySeconds : ℚ := 32 / 5
  circuitConsecutiveFailures : Int := 20
  circuitResetSeconds : ℚ := 60

/-- `CanaryClient.__init__`: the `ValueError` of the first collaborator whose constructor rejects
its settings, in the order it builds them (the payload mapper, the token bucket, the retry policy,
the circuit breaker), else the writer's settings.  `jitter` is the map the retry policy's jitter
draws compute. -/
def CanaryClientSettings.toConfig (settings : CanaryClientSettings) (jitter : ℚ → ℚ)
    (hasSessionManager hasDeadLetterHandler hasBackpressureHandler : Bool) : Except String ClientConfig :=
  if settings.maxPayloadBytes ≤ 0 then .error "max_payload_bytes must be positive"
  else if hr : (settings.rateLimitRps : ℚ) ≤ 0 then .error "rate_per_second must be positive"
  else if hb : (settings.burstSize : ℚ) ≤ 0 then .error "capacity must be positive"
  else if settings.retryAttempts < 0 then .error "attempts must be >= 0"
  else if hd : settings.retryBaseDelaySeconds ≤ 0 ∨ settings.retryMaxDelaySeconds ≤ 0 then
    .error "delays must be positive"
  else if hf : settings.circuitConsecutiveFailures ≤ 0 then .error "failure_threshold must be positive"
  else if ht : settings.circuitResetSeconds ≤ 0 then .error "reset_timeout must be positive"
  else .ok
    { rateLimitRps := settings.rateLimitRps
      burstSize := settings.burstSize
      queueCapacity := settings.queueCapacity
      maxBatchTags := settings.maxBatchTags
      retryPolicy := ⟨settings.retryAttempts.toNat, settings.retryBaseDelaySeconds,
        settings.retryMaxDelaySeconds, jitter, lt_of_not_le (not_or.1 hd).1, lt_of_not_le (not_or.1 hd).2⟩
      circuitConsecutiveFailures := settings.circuitConsecutiveFailures.toNat
      circuitResetSeconds := settings.circuitResetSeconds
      hasSessionManager
      hasDeadLetterHandler
      hasBackpressureHandler
      rateLimitRps_pos := lt_of_not_le hr
      burstSize_pos := lt_of_not_le hb
      circuitConsecutiveFailures_pos := by omega
      circuitResetSeconds_pos := lt_of_not_le ht }

section Construction

variable (settings : CanaryClientSettings) (jitter : ℚ → ℚ) (hasSessionManager hasDeadLetterHandler hasBackpressureHandler : Bool)

/-- The writer is built exactly when every collaborator accepts its settings. -/
theorem toConfig_isOk_iff :
    (settings.toConfig jitter hasSessionManager hasDeadLetterHandler hasBackpressureHandler).isOk ↔
      0 < settings.maxPayloadBytes ∧ 0 < settings.rateLimitRps ∧ 0 < settings.burstSize ∧
        0 ≤ settings.retryAttempts ∧ 0 < settings.retryBaseDelaySeconds ∧ 0 < settings.retryMaxDelaySeconds ∧
        0 < settings.circuitConsecutiveFailures ∧ 0 < settings.circuitResetSeconds := by
  have hq : ∀ n : Int, (n : ℚ) ≤ 0 ↔ n ≤ 0 := fun _ ↦ Int.cast_nonpos
  have herr : ∀ e, ¬(Except.error e : Except String ClientConfig).isOk := fun _ h ↦ nomatch h
  unfold CanaryClientSettings.toConfig
  by_cases h1 : settings.maxPayloadBytes ≤ 0
  · rw [if_pos h1]
    exact iff_of_false (herr _) fun h ↦ h1.not_lt h.1
  rw [if_neg h1]
  by_cases hr : (settings.rateLimitRps : ℚ) ≤ 0
  · rw [dif_pos hr]
    exact iff_of_false (herr _) fun h ↦ ((hq _).1 hr).not_lt h.2.1
  rw [dif_neg hr]
  by_cases hb : (settings.burstSize : ℚ) ≤ 0
  · rw [dif_pos hb]
    exact iff_of_false (herr _) fun h ↦ ((hq _).1 hb).not_lt h.2.2.1
  rw [dif_neg hb]
  by_cases h4 : settings.retryAttempts < 0
  · rw [if_pos h4]
    exact iff_of_false (herr _) fun h ↦ h4.not_le h.2.2.2.1
  rw [if_neg h4]
  by_cases hd : settings.retryBaseDelaySeconds ≤ 0 ∨ settings.retryMaxDelaySeconds ≤ 0
  · rw [dif_pos hd]
    exact iff_of_false (herr _) fun h ↦ hd.elim h.2.2.2.2.1.not_le h.2.2.2.2.2.1.not_le
  rw [dif_neg hd]
  by_cases hf : settings.circuitConsecutiveFailures ≤ 0
  · rw [dif_pos hf]
    exact iff_of_false (herr _) fun h ↦ hf.not_lt h.2.2.2.2.2.2.1
  rw [dif_neg hf]
  by_cases ht : settings.circuitResetSeconds ≤ 0
  · rw [dif_pos ht]
    exact iff_of_false (herr _) fun h ↦ ht.not_lt h.2.2.2.2.2.2.2
  rw [dif_neg ht]
  rw [hq] at hr hb
  exact iff_of_true rfl ⟨by omega, by omega, by omega, by omega, not_le.1 (not_or.1 hd).1,
    not_le.1 (not_or.1 hd).2, by omega, not_le.1 ht⟩

/-- The defaults of `CanaryClientSettings` pass every check. -/
theorem toConfig_default :
    (({} : CanaryClientSettings).toConfig jitter hasSessionManager hasDeadLetterHandler
      hasBackpressureHandler).isOk :=
  (toConfig_isOk_iff _ _ _ _ _).2 (by norm_num)

end Construction

end UnsMetadataSync.Canary.Client
