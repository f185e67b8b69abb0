import UnsMetadataSync.Canary.ClientRuns
import Mathlib.Tactic.Ring

/-!
# The writer's rate limit

The token bucket holds between none and `burst_size` tokens whatever the order and the readings
of its calls.  A batch is popped after the `consume()` that granted its token, and that call
is the last clock reading before the pop: the reading that admitted the batch.  Over every run
of the writer whose clock does not go back, the batches admitted by readings inside a window
`[lo, hi]` are at most `burst_size + rate_limit_rps · (hi - lo)`, so with `burst_size = 1`
consecutive admissions are at least `1 / rate_limit_rps` apart.

The proof keeps a budget for one window: nothing granted while the bucket was last refilled
before the window, and the admissions granted inside it plus the tokens left no more than
`burst_size` plus the refill since `lo`.  The clock can move between the `consume()` and the
pop, and between the pop and the first call of the sender, so timed by the clock at the pop or
at the call two batches can fall on one reading (`batches_sent_at_one_reading`).
-/

namespace UnsMetadataSync.Canary.RateLimit

open Payload Client TokenBucket ClientRuns

variable {lo hi : ℚ}

/-! ## The budget of a window -/

/-- What the bucket can still grant inside the window `[lo, hi]` once `k` admissions fell in it:
nothing while its last refill is before the window, `capacity` and the rate's refill since `lo`
while the last refill is inside it, and the window's allowance after it. -/
structure Budget (lo hi : ℚ) (b : TokenBucket) (k : ℕ) : Prop where
  before : b.updatedAt < lo → k = 0
  inside : lo ≤ b.updatedAt → b.updatedAt ≤ hi →
    k + b.tokens ≤ b.capacity + b.rate * (b.updatedAt - lo)
  after : hi < b.updatedAt → (k : ℚ) ≤ b.capacity + b.rate * (hi - lo)

theorem Budget.bound {b : TokenBucket} {k : ℕ} (h : Budget lo hi b k) (hv : b.Valid) (hlh : lo ≤ hi) :
    (k : ℚ) ≤ b.capacity + b.rate * (hi - lo) := by
  have hwin : 0 ≤ b.rate * (hi - lo) := mul_nonneg b.rate_pos.le (by linarith)
  rcases lt_or_le b.updatedAt lo with hu | hu
  · rw [h.before hu, Nat.cast_zero]
    linarith [b.capacity_pos]
  rcases le_or_lt b.updatedAt hi with hu' | hu'
  · have := mul_le_mul_of_nonneg_left (show b.updatedAt - lo ≤ hi - lo by linarith) b.rate_pos.le
    linarith [h.inside hu hu', hv.tokens_nonneg]
  · exact h.after hu'

theorem Budget.mono {b : TokenBucket} {k k' : ℕ} (h : Budget lo hi b k) (hk : k' ≤ k) :
    Budget lo hi b k' where
  before hu := by have := h.before hu; omega
  inside hu hu' := by linarith [h.inside hu hu', (Nat.cast_le (α := ℚ)).2 hk]
  after hu := by linarith [h.after hu, (Nat.cast_le (α := ℚ)).2 hk]

theorem Budget.refill {b : TokenBucket} {k : ℕ} {now : ℚ} (h : Budget lo hi b k) (hv : b.Valid)
    (hlh : lo ≤ hi) : Budget lo hi (b.refill now) k := by
  unfold TokenBucket.refill
  split
  · exact h
  · next he =>
    have hle : min b.capacity (b.tokens + (now - b.updatedAt) * b.rate) ≤
        b.tokens + (now - b.updatedAt) * b.rate := min_le_right _ _
    have hcap : min b.capacity (b.tokens + (now - b.updatedAt) * b.rate) ≤ b.capacity :=
      min_le_left _ _
    refine ⟨fun hn ↦ h.before (by dsimp only at hn; linarith), fun hn hn' ↦ ?_, fun hn ↦ ?_⟩
    · dsimp only at hn hn' ⊢
      rcases lt_or_le b.updatedAt lo with hu | hu
      · rw [h.before hu, Nat.cast_zero]
        linarith [mul_nonneg b.rate_pos.le (sub_nonneg.2 hn)]
      · have := h.inside hu (by linarith)
        have : b.rate * (now - lo) = b.rate * (b.updatedAt - lo) + (now - b.updatedAt) * b.rate := by
          ring
        linarith
    · exact h.bound hv hlh

/-- Spending a token counts one admission at the last refill's reading, if it is inside the
window. -/
theorem Budget.spend {b : TokenBucket} {k : ℕ} {t : ℚ} (h : Budget lo hi b k) (ht : b.updatedAt = t) :
    Budget lo hi { b with tokens := b.tokens - 1 } (k + if lo ≤ t ∧ t ≤ hi then 1 else 0) := by
  subst ht
  refine ⟨fun hu ↦ ?_, fun hu hu' ↦ ?_, fun hu ↦ ?_⟩
  · rw [if_neg fun hw ↦ absurd hw.1 (not_le.2 hu), h.before hu]
  · rw [if_pos ⟨hu, hu'⟩, Nat.cast_add, Nat.cast_one]
    show (k : ℚ) + 1 + (b.tokens - 1) ≤ b.capacity + b.rate * (b.updatedAt - lo)
    linarith [h.inside hu hu']
  · rw [if_neg fun hw ↦ absurd hw.2 (not_le.2 hu), Nat.add_zero]
    exact h.after hu

/-- A `consume()` at a reading no earlier than the last refill spends one token, and counts one
admission if the reading is inside the window. -/
theorem Budget.consume {b : TokenBucket} {k : ℕ} {now : ℚ} (h : Budget lo hi b k) (hv : b.Valid)
    (hlh : lo ≤ hi) (hnow : b.updatedAt ≤ now) (hc : (b.consume now).1 = true) :
    Budget lo hi (b.consume now).2 (k + if lo ≤ now ∧ now ≤ hi then 1 else 0) := by
  obtain ⟨-, heq⟩ := consume_snd_of_success hc
  rw [heq]
  exact (h.refill hv hlh).spend (refill_updatedAt hnow)


/-- A bucket no fuller than its capacity can grant its capacity plus the window's refill. -/
theorem Budget.full {b : TokenBucket} (hv : b.Valid) (hlh : lo ≤ hi) : Budget lo hi b 0 where
  before _ := rfl
  inside hu _ := by
    have := mul_nonneg b.rate_pos.le (show 0 ≤ b.updatedAt - lo by linarith)
    rw [Nat.cast_zero]
    linarith [hv.tokens_le]
  after _ := by
    have := mul_nonneg b.rate_pos.le (show 0 ≤ hi - lo by linarith)
    rw [Nat.cast_zero]
    linarith [b.capacity_pos]

/-- A sequence of `consume()` (`true`) and `time_until_ready()` (`false`) calls, each at its
clock reading. -/
def bucketCalls (b : TokenBucket) : List (Bool × ℚ) → TokenBucket
  | [] => b
  | (consume, now) :: rest =>
    bucketCalls (if consume then (b.consume now).2 else (b.timeUntilReady now).2) rest

theorem valid_bucketCalls {b : TokenBucket} (h : b.Valid) (calls : List (Bool × ℚ)) :
    (bucketCalls b calls).Valid := by
  induction calls generalizing b with
  | nil => exact h
  | cons call rest ih =>
    obtain ⟨consume, now⟩ := call
    exact ih (by cases consume <;> simp [h.consume, h.refill])

@[simp] theorem bucketCalls_capacity (b : TokenBucket) (calls : List (Bool × ℚ)) :
    (bucketCalls b calls).capacity = b.capacity := by
  induction calls generalizing b with
  | nil => rfl
  | cons call rest ih =>
    obtain ⟨consume, now⟩ := call
    cases consume <;> simp [bucketCalls, ih]

/-! ## Runs of the writer -/

section Runs

variable (cfg : ClientConfig)

/-- Whether the action is the dispatcher's `consume()` and it grants a token. -/
def admits (s : ClientState) : Action → Bool
  | .advance => match s.phase with
    | .takeToken _ => (s.bucket.consume s.now).1
    | _ => false
  | _ => false

/-- Whether the action is the dispatcher popping a batch off the queue. -/
def pops (s : ClientState) : Action → Bool
  | .advance => match s.phase with
    | .popBatch _ => !s.queue.isEmpty
    | _ => false
  | _ => false

/-- Along the actions from `s`, for each batch popped, the clock reading of the `consume()` that
admitted it: the last one that granted a token.  `admitted` is that reading so far.  The run
ends at the first action that cannot happen. -/
def popReadings (admitted : ℚ) (s : ClientState) : List Action → List ℚ
  | [] => []
  | a :: rest => match step cfg s a with
    | none => []
    | some s' => (if pops s a then [admitted] else []) ++
        popReadings (if admits s a then s.now else admitted) s' rest

/-- No clock reading of the run goes back. -/
def clockMonotone (s : ClientState) : List Action → Bool
  | [] => true
  | a :: rest => match step cfg s a with
    | none => true
    | some s' => (match a with
      | .tick t => decide (s.now ≤ t)
      | _ => true) && clockMonotone s' rest


/-- What a run keeps of the bucket: its bounds and settings, a last refill no later than the
clock, and the last admitting reading no later than the clock. -/
structure BucketInv (s : ClientState) (admitted : ℚ) : Prop where
  valid : s.bucket.Valid
  rate : s.bucket.rate = cfg.rateLimitRps
  capacity : s.bucket.capacity = cfg.burstSize
  refilled : s.bucket.updatedAt ≤ s.now
  admitted_le : admitted ≤ s.now

/-- An admission inside the window whose batch is not popped yet. -/
def pending (lo hi : ℚ) (s : ClientState) (admitted : ℚ) : ℕ :=
  match s.phase with
  | .popBatch _ => if lo ≤ admitted ∧ admitted ≤ hi then 1 else 0
  | _ => 0

variable {cfg}

theorem clockMonotone_cons {s s' : ClientState} {a : Action} {rest : List Action}
    (h : clockMonotone cfg s (a :: rest) = true) (hstep : step cfg s a = some s') :
    (∀ t, a = .tick t → s.now ≤ t) ∧ clockMonotone cfg s' rest = true := by
  simp only [clockMonotone, hstep, Bool.and_eq_true] at h
  refine ⟨fun t ht ↦ ?_, h.2⟩
  subst ht
  simpa using h.1

/-- One step of a run whose clock does not go back keeps the bucket's invariant, and keeps every
window's budget, an admission counted once its batch is popped. -/
theorem step_bucket {s s' : ClientState} {a : Action} {p : ℚ} (hs : BucketInv cfg s p)
    (hstep : step cfg s a = some s') (hclock : ∀ t, a = .tick t → s.now ≤ t) :
    BucketInv cfg s' (if admits s a then s.now else p) ∧
      ∀ {lo hi : ℚ} {c : ℕ}, lo ≤ hi → Budget lo hi s.bucket (c + pending lo hi s p) →
        Budget lo hi s'.bucket ((c + if pops s a ∧ lo ≤ p ∧ p ≤ hi then 1 else 0) +
          pending lo hi s' (if admits s a then s.now else p)) := by
  obtain ⟨queue, phase, bucket, circuit, metrics, now, stopped, invalidations, sleeps, sent,
    deadLetters, backpressured, history⟩ := s
  cases a with
  | tick t =>
    cases hstep
    have ht := hclock t rfl
    exact ⟨{ hs with refilled := le_trans hs.refilled ht, admitted_le := le_trans hs.admitted_le ht },
      fun _ hb ↦ hb⟩
  | enqueue diff =>
    cases hstep
    unfold Client.enqueue
    split <;> exact ⟨{ hs with }, fun _ hb ↦ hb⟩
  | stop => cases hstep; exact ⟨{ hs with }, fun _ hb ↦ hb⟩
  | start => cases hstep; exact ⟨{ hs with }, fun _ hb ↦ hb⟩
  | begin block =>
    cases phase <;> cases hstep
    exact ⟨{ hs with }, fun _ hb ↦ hb⟩
  | respond outcome =>
    cases phase <;> cases hstep
    exact ⟨{ hs with }, fun _ hb ↦ hb⟩
  | advance =>
    cases phase with
    | idle => cases hstep
    | send batch attempt => cases hstep
    | awaitQueue block =>
      simp only [step, Client.advance] at hstep
      split_ifs at hstep <;> cases hstep <;> exact ⟨{ hs with }, fun _ hb ↦ hb⟩
    | checkCircuit block =>
      simp only [step, Client.advance] at hstep
      split at hstep <;> cases hstep <;> exact ⟨{ hs with }, fun _ hb ↦ hb⟩
    | takeToken block =>
      simp only [step, Client.advance] at hstep
      have hv := hs.valid.consume now
      have hrate := TokenBucket.consume_rate bucket now
      have hcap := TokenBucket.consume_capacity bucket now
      have hup := TokenBucket.consume_updatedAt hs.refilled
      cases hc : bucket.consume now with
      | mk ok bucket' =>
        rw [hc] at hstep hv hrate hcap hup
        cases ok <;> cases hstep
        · have hrefill := @consume_snd_of_failure bucket now (by rw [hc])
          rw [hc] at hrefill
          subst hrefill
          simp only [admits, hc]
          exact ⟨⟨hv, hrate.trans hs.rate, hcap.trans hs.capacity, hup.le, hs.admitted_le⟩,
            fun hlh hb ↦ hb.refill hs.valid hlh⟩
        · simp only [admits, hc]
          refine ⟨⟨hv, hrate.trans hs.rate, hcap.trans hs.capacity, hup.le, le_rfl⟩, fun hlh hb ↦ ?_⟩
          have hspent := hb.consume hs.valid hlh hs.refilled (by rw [hc])
          rwa [hc] at hspent
    | refillWait block =>
      cases hstep
      simp only [ClientState.wait, TokenBucket.timeUntilReady_snd]
      exact ⟨⟨hs.valid.refill now, (TokenBucket.refill_rate _ _).trans hs.rate,
        (TokenBucket.refill_capacity _ _).trans hs.capacity,
        (TokenBucket.refill_updatedAt hs.refilled).le, hs.admitted_le⟩,
        fun hlh hb ↦ hb.refill hs.valid hlh⟩
    | popBatch block =>
      simp only [step, Client.advance] at hstep
      split_ifs at hstep with hempty <;> cases hstep <;>
        exact ⟨{ hs with }, fun _ hb ↦ hb.mono (by simp [pops, hempty, pending])⟩
    | settle batch attempt error =>
      cases error with
      | none => cases hstep; exact ⟨{ hs with }, fun _ hb ↦ hb⟩
      | some error =>
        simp only [step, Client.advance] at hstep
        split_ifs at hstep <;> cases hstep <;> exact ⟨{ hs with }, fun _ hb ↦ hb⟩

/-- Over a run whose clock never goes back, the admissions inside the window, counted once the
batch they admitted is popped, stay within the window's allowance. -/
theorem popReadings_budget (hlh : lo ≤ hi) (actions : List Action) {s : ClientState} {p : ℚ} {c : ℕ}
    (hs : BucketInv cfg s p) (hb : Budget lo hi s.bucket (c + pending lo hi s p))
    (hclock : clockMonotone cfg s actions = true) :
    ((c + ((popReadings cfg p s actions).filter fun t ↦ lo ≤ t ∧ t ≤ hi).length : ℕ) : ℚ) ≤
      cfg.burstSize + cfg.rateLimitRps * (hi - lo) := by
  induction actions generalizing s p c with
  | nil =>
    have := (hb.mono (Nat.le_add_right c _)).bound hs.valid hlh
    rwa [hs.rate, hs.capacity] at this
  | cons a rest ih =>
    rw [popReadings]
    cases hstep : step cfg s a with
    | none =>
      have := (hb.mono (Nat.le_add_right c _)).bound hs.valid hlh
      rwa [hs.rate, hs.capacity] at this
    | some s' =>
      obtain ⟨htick, hrest⟩ := clockMonotone_cons hclock hstep
      obtain ⟨hs', hb'⟩ := step_bucket hs hstep htick
      have := ih hs' (hb' hlh hb) hrest
      dsimp only
      rw [List.filter_append, List.length_append, ← Nat.add_assoc]
      convert this using 4
      split
      · by_cases hw : lo ≤ p ∧ p ≤ hi <;> simp [*, List.filter_cons]
      · simp [*]

/-- The readings of a run whose clock does not go back are in order, none before the last
admitting reading. -/
theorem popReadings_sorted (actions : List Action) {s : ClientState} {p : ℚ}
    (hs : BucketInv cfg s p) (hclock : clockMonotone cfg s actions = true) :
    (popReadings cfg p s actions).Pairwise (· ≤ ·) ∧ ∀ t ∈ popReadings cfg p s actions, p ≤ t := by
  induction actions generalizing s p with
  | nil => exact ⟨List.Pairwise.nil, fun _ h ↦ absurd h (List.not_mem_nil _)⟩
  | cons a rest ih =>
    rw [popReadings]
    cases hstep : step cfg s a with
    | none => exact ⟨List.Pairwise.nil, fun _ h ↦ absurd h (List.not_mem_nil _)⟩
    | some s' =>
      obtain ⟨htick, hrest⟩ := clockMonotone_cons hclock hstep
      obtain ⟨hsorted, hge⟩ := ih (step_bucket hs hstep htick).1 hrest
      have hp : p ≤ if admits s a then s.now else p := by split <;> simp [hs.admitted_le]
      refine ⟨?_, fun t ht ↦ ?_⟩
      · refine List.pairwise_append.2 ⟨?_, hsorted, fun x hx y hy ↦ ?_⟩
        · split <;> simp
        · split at hx <;> simp at hx
          exact hx ▸ hp.trans (hge y hy)
      · rcases List.mem_append.1 ht with ht | ht
        · split at ht <;> simp at ht
          exact ht.ge
        · exact hp.trans (hge t ht)

theorem bucketInv_initial (t0 : ℚ) : BucketInv cfg (ClientState.initial cfg t0) t0 :=
  ⟨TokenBucket.valid_create _ _ _ _ _, rfl, rfl, le_rfl, le_rfl⟩

variable (cfg)

/-- The bucket's bounds over every sequence of its calls, and the writer's rate over every run
from a new client whose clock does not go back: inside every window `[lo, hi]`, at most
`burst_size + rate_limit_rps · (hi - lo)` of the batches popped were admitted by a `consume()`
reading the clock in the window; with `burst_size = 1`, the admitting readings of consecutive
batches are at least `1 / rate_limit_rps` apart. -/
theorem admitted_batches_within_rate :
    (∀ (t0 : ℚ) (calls : List (Bool × ℚ)),
      0 ≤ (bucketCalls (ClientState.initial cfg t0).bucket calls).tokens ∧
        (bucketCalls (ClientState.initial cfg t0).bucket calls).tokens ≤ cfg.burstSize) ∧
    ∀ (t0 : ℚ) (actions : List Action), clockMonotone cfg (ClientState.initial cfg t0) actions →
      (∀ lo hi : ℚ, lo ≤ hi →
        ((((popReadings cfg t0 (ClientState.initial cfg t0) actions).filter
          fun t ↦ lo ≤ t ∧ t ≤ hi).length : ℕ) : ℚ) ≤ cfg.burstSize + cfg.rateLimitRps * (hi - lo)) ∧
      (cfg.burstSize = 1 → ∀ l₁ x y l₂, popReadings cfg t0 (ClientState.initial cfg t0) actions =
        l₁ ++ x :: y :: l₂ → x + 1 / cfg.rateLimitRps ≤ y) := by
  refine ⟨fun t0 calls ↦ ?_, fun t0 actions hclock ↦ ?_⟩
  · have hv := valid_bucketCalls (TokenBucket.valid_create _ _ t0 cfg.rateLimitRps_pos
      cfg.burstSize_pos) calls
    exact ⟨hv.tokens_nonneg, by simpa using hv.tokens_le⟩
  have hwindow : ∀ lo hi : ℚ, lo ≤ hi →
      ((((popReadings cfg t0 (ClientState.initial cfg t0) actions).filter
        fun t ↦ lo ≤ t ∧ t ≤ hi).length : ℕ) : ℚ) ≤ cfg.burstSize + cfg.rateLimitRps * (hi - lo) :=
    fun lo hi hlh ↦ by
      simpa using popReadings_budget hlh actions (bucketInv_initial t0)
        (Budget.full (TokenBucket.valid_create _ _ _ _ _) hlh) hclock
  refine ⟨hwindow, fun hburst l₁ x y l₂ hsplit ↦ ?_⟩
  have hsorted := (popReadings_sorted actions (bucketInv_initial t0) hclock).1
  rw [hsplit] at hsorted
  have hxy : x ≤ y := List.rel_of_pairwise_cons (List.pairwise_append.1 hsorted).2.1 (List.mem_cons_self _ _)
  have htwo : 2 ≤ ((popReadings cfg t0 (ClientState.initial cfg t0) actions).filter
      fun t ↦ x ≤ t ∧ t ≤ y).length := by
    rw [hsplit, List.filter_append, List.length_append]
    simp [List.filter_cons, hxy]
    omega
  have hbound := hwindow x y hxy
  rw [hburst] at hbound
  have htwo' : (2 : ℚ) ≤ _ := Nat.cast_le.2 htwo
  have hrate : 1 ≤ (y - x) * cfg.rateLimitRps := by
    linarith [mul_comm (y - x) cfg.rateLimitRps, Nat.cast_ofNat (R := ℚ) (n := 2)]
  linarith [(div_le_iff₀ cfg.rateLimitRps_pos).2 hrate]

end Runs

/-! ## Two batches at one reading -/

/-- The settings of the integration test `test_cdc_diff_flow_feeds_rate_limited_canary_client`:
four requests a second, a burst of one, batches of two. -/
def rateTestConfig : ClientConfig where
  rateLimitRps := 4
  burstSize := 1
  queueCapacity := 3
  maxBatchTags := 2
  retryPolicy := ⟨2, 0.2, 0.8, fun limit ↦ limit, by with_unfolding_all decide,
    by with_unfolding_all decide⟩
  circuitConsecutiveFailures := 5
  circuitResetSeconds := 5
  hasSessionManager := false
  hasDeadLetterHandler := true
  hasBackpressureHandler := true
  rateLimitRps_pos := by with_unfolding_all decide
  burstSize_pos := by with_unfolding_all decide
  circuitConsecutiveFailures_pos := by decide
  circuitResetSeconds_pos := by with_unfolding_all decide

/-- Three diffs are queued and drained: the first `consume()` reads 0, the clock reads `1/4`
before the pop, and both batches are popped and sent at that reading. -/
def burstTrace : List Action :=
  [.enqueue kilnDiff, .enqueue kilnDiff, .enqueue kilnDiff, .begin false, .advance, .advance,
    .advance, .tick (1 / 4), .advance, .respond none, .advance, .begin false, .advance, .advance,
    .advance, .advance, .respond none]

/-- The theorem at `burstTrace`: the admitting readings 0 and `1/4` are `1/4` apart. -/
theorem burstTrace_within_rate :
    clockMonotone rateTestConfig (ClientState.initial rateTestConfig 0) burstTrace = true ∧
      (∀ lo hi : ℚ, lo ≤ hi →
        ((((popReadings rateTestConfig 0 (ClientState.initial rateTestConfig 0) burstTrace).filter
          fun t ↦ lo ≤ t ∧ t ≤ hi).length : ℕ) : ℚ) ≤
          rateTestConfig.burstSize + rateTestConfig.rateLimitRps * (hi - lo)) ∧
      (rateTestConfig.burstSize = 1 → ∀ l₁ x y l₂,
        popReadings rateTestConfig 0 (ClientState.initial rateTestConfig 0) burstTrace =
          l₁ ++ x :: y :: l₂ → x + 1 / rateTestConfig.rateLimitRps ≤ y) :=
  have hclock : clockMonotone rateTestConfig (ClientState.initial rateTestConfig 0) burstTrace =
      true := by with_unfolding_all rfl
  ⟨hclock, (admitted_batches_within_rate rateTestConfig).2 0 burstTrace hclock⟩

/-- Under the integration test's settings the clock reads `1/4` before the first pop and still
after the second, and the sender's first calls of both batches are at `1/4`: two batches are
popped and sent at one reading, more than `burst_size + rate_limit_rps · 0` and less than
`1 / rate_limit_rps` apart, while their admitting readings are 0 and `1/4`. -/
theorem batches_sent_at_one_reading :
    clockMonotone rateTestConfig (ClientState.initial rateTestConfig 0) burstTrace = true ∧
      (run rateTestConfig (ClientState.initial rateTestConfig 0) (burstTrace.take 8)).map
        (fun s ↦ (s.now, s.history.batches.length)) = some (1 / 4, 0) ∧
      (run rateTestConfig (ClientState.initial rateTestConfig 0) burstTrace).map
        (fun s ↦ (s.now, s.history.batches.length, s.sent.map fun call ↦ (call.1, call.2.1))) =
          some (1 / 4, 2, [(1 / 4, 2), (1 / 4, 1)]) ∧
      popReadings rateTestConfig 0 (ClientState.initial rateTestConfig 0) burstTrace = [0, 1 / 4] := by
  refine ⟨?_, ?_, ?_, ?_⟩ <;> with_unfolding_all rfl

end UnsMetadataSync.Canary.RateLimit
