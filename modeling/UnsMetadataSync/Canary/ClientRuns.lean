import UnsMetadataSync.Canary.Client

/-!
# Runs of the Canary writer

What holds in every state a run of the writer reaches, whatever the enqueues, the clock
readings, the stops and the sender's outcomes.  `Accounting` is the writer's bookkeeping: the
queue stays within its capacity, batches leave it in FIFO order and within `max_batch_tags`,
each dispatch calls the sender at most `retry_attempts + 1` times, and every accepted diff is
queued, in flight, delivered or dead-lettered.  `Admitted` is what the breaker check of
`_acquire_batch` guarantees: the first call of a batch is made while the breaker is closed or
half-open.  Retries are not checked against the breaker, and a run with a threshold of one
failure shows a retry going out while it is open.
-/

namespace UnsMetadataSync.Canary.ClientRuns

open Payload Client

variable (cfg : ClientConfig)

/-! ## Views of a state -/

/-- The batch `_dispatch` holds. -/
def inFlight : Phase → List CanaryDiff
  | .send batch _ => batch
  | .settle batch _ _ => batch
  | _ => []

/-- The calls of the sender in the log `sent` made by dispatch number `k`. -/
def sendsOf (sent : List (ℚ × Nat × List CanaryDiff)) (k : Nat) : Nat :=
  sent.countP fun call ↦ call.2.1 == k

@[simp] theorem sendsOf_nil (k : Nat) : sendsOf [] k = 0 := rfl

@[simp] theorem sendsOf_cons (now : ℚ) (dispatch : Nat) (batch : List CanaryDiff)
    (sent : List (ℚ × Nat × List CanaryDiff)) (k : Nat) :
    sendsOf ((now, dispatch, batch) :: sent) k = sendsOf sent k + if dispatch = k then 1 else 0 := by
  simp [sendsOf, List.countP_cons]

/-- The attempt counter of the dispatch in progress: the calls it made, and the bound. -/
def AttemptsOk (s : ClientState) : Prop :=
  match s.phase with
  | .send _ attempt =>
    sendsOf s.sent s.metrics.requestsTotal + 1 = attempt ∧ attempt ≤ cfg.retryPolicy.maxAttempts
  | .settle _ attempt _ =>
    sendsOf s.sent s.metrics.requestsTotal = attempt ∧ 0 < attempt ∧
      attempt ≤ cfg.retryPolicy.maxAttempts
  | _ => True

/-- The writer's bookkeeping. -/
structure Accounting (s : ClientState) : Prop where
  queue_le : s.queue.length ≤ cfg.queueCapacity.toNat
  fifo : s.history.batches.flatten ++ s.queue = s.history.accepted
  batches_le : ∀ batch ∈ s.history.batches, batch.length ≤ cfg.maxBatchTags.toNat
  taken : s.history.batches.flatten.length =
    (inFlight s.phase).length + s.metrics.successTotal + s.metrics.deadLetterTotal
  sends_le : ∀ k, sendsOf s.sent k ≤ cfg.retryPolicy.maxAttempts
  sends_future : ∀ k, s.metrics.requestsTotal < k → sendsOf s.sent k = 0
  attempts : AttemptsOk cfg s

/-! ## The bookkeeping is kept by every step -/

theorem accounting_initial (now : ℚ) : Accounting cfg (ClientState.initial cfg now) where
  queue_le := Nat.zero_le _
  fifo := rfl
  batches_le := by simp [ClientState.initial]
  taken := rfl
  sends_le _ := Nat.zero_le _
  sends_future _ _ := rfl
  attempts := trivial

variable {cfg}

theorem Accounting.enqueue {s : ClientState} (hi : Accounting cfg s) (diff : CanaryDiff) :
    Accounting cfg (enqueue cfg s diff).2 := by
  unfold Client.enqueue
  split
  · exact { hi with }
  · next hroom =>
    refine { hi with queue_le := ?_, fifo := ?_ }
    · simp only [List.length_append, List.length_singleton]
      omega
    · simp only [← List.append_assoc, hi.fifo]

theorem Accounting.respond {s : ClientState} (hi : Accounting cfg s) {batch : List CanaryDiff}
    {attempt : Nat} (hp : s.phase = .send batch attempt) (outcome : Option SendError) :
    Accounting cfg { s with phase := .settle batch attempt outcome,
                            sent := (s.now, s.metrics.requestsTotal, batch) :: s.sent } := by
  have hat := hi.attempts
  simp only [AttemptsOk, hp] at hat
  refine { hi with taken := ?_, sends_le := ?_, sends_future := ?_, attempts := ?_ }
  · simpa [hp, inFlight] using hi.taken
  · intro k
    rw [sendsOf_cons]
    split_ifs with hk
    · subst hk
      omega
    · simpa using hi.sends_le k
  · intro k hk
    rw [sendsOf_cons, if_neg (Nat.ne_of_lt hk), hi.sends_future k hk]
  · exact ⟨by simpa using hat.1, by omega, hat.2⟩

theorem Accounting.advance {s s' : ClientState} (hi : Accounting cfg s)
    (h : advance cfg s = some s') : Accounting cfg s' := by
  obtain ⟨queue, phase, bucket, circuit, metrics, now, stopped, invalidations, sleeps, sent,
    deadLetters, backpressured, history⟩ := s
  cases phase with
  | idle => cases h
  | send batch attempt => cases h
  | awaitQueue block =>
    simp only [Client.advance] at h
    split_ifs at h <;> cases h <;> exact { hi with attempts := trivial }
  | checkCircuit block =>
    simp only [Client.advance] at h
    split at h <;> cases h <;> exact { hi with attempts := trivial }
  | takeToken block =>
    simp only [Client.advance] at h
    split at h <;> cases h <;> exact { hi with attempts := trivial }
  | refillWait block =>
    cases h
    exact { hi with attempts := trivial }
  | popBatch block =>
    simp only [Client.advance] at h
    split_ifs at h with hempty hbatch
    · cases h
      exact { hi with attempts := trivial }
    all_goals
      cases h
      have hq : (queue.drop cfg.maxBatchTags.toNat).length ≤ cfg.queueCapacity.toNat :=
        (List.length_drop _ _).trans_le (Nat.sub_le_of_le_add (Nat.le_add_right_of_le hi.queue_le))
      have hfifo := hi.fifo
      have hle : ∀ b ∈ history.batches ++ [queue.take cfg.maxBatchTags.toNat],
          b.length ≤ cfg.maxBatchTags.toNat := by
        intro b hb
        rcases List.mem_append.1 hb with hb | hb
        · exact hi.batches_le b hb
        · rw [List.mem_singleton.1 hb]
          exact List.length_take_le _ _
      have htaken := hi.taken
      simp only [inFlight] at htaken
    · refine { hi with
        queue_le := hq
        batches_le := hle
        fifo := by simpa using hfifo
        taken := ?_
        attempts := trivial }
      simp only [List.isEmpty_iff.1 hbatch, List.flatten_append, List.flatten_cons, List.flatten_nil,
        List.append_nil, htaken, List.length_nil, zero_add, inFlight]
    · refine { hi with
        queue_le := hq
        batches_le := hle
        fifo := by simpa using hfifo
        taken := ?_
        sends_future := fun k (hk : metrics.requestsTotal + 1 < k) ↦
          hi.sends_future k (Nat.lt_of_succ_lt hk)
        attempts := ?_ }
      · simp only [List.flatten_append, List.flatten_cons, List.flatten_nil, List.append_nil,
          List.length_append, htaken, List.length_nil, zero_add, List.length_take, inFlight]
        omega
      · exact ⟨by simpa using hi.sends_future _ (Nat.lt_succ_self _),
          by simp [RetryPolicy.maxAttempts]⟩
  | settle batch attempt error =>
    have htaken := hi.taken
    have hat := hi.attempts
    simp only [inFlight] at htaken
    simp only [AttemptsOk] at hat
    cases error with
    | none =>
      cases h
      refine { hi with taken := ?_, attempts := trivial }
      simp only [inFlight, List.length_nil]
      omega
    | some error =>
      simp only [Client.advance] at h
      split_ifs at h with hstop
      · cases h
        refine { hi with taken := ?_, attempts := trivial }
        simp only [emitDeadLetter, inFlight, List.length_nil]
        omega
      · cases h
        simp only [Bool.or_eq_true, decide_eq_true_eq, not_or] at hstop
        exact { hi with attempts := ⟨by simpa using hat.1, by omega⟩ }

theorem Accounting.step {s s' : ClientState} {a : Action} (hi : Accounting cfg s)
    (h : step cfg s a = some s') : Accounting cfg s' := by
  cases a with
  | tick t => cases h; exact { hi with }
  | enqueue diff => cases h; exact hi.enqueue diff
  | stop => cases h; exact { hi with }
  | start => cases h; exact { hi with }
  | begin block =>
    simp only [Client.step] at h
    split at h
    · next hp =>
      cases h
      exact { hi with taken := by simpa [hp, inFlight] using hi.taken, attempts := trivial }
    · cases h
  | advance => exact hi.advance h
  | respond outcome =>
    simp only [Client.step] at h
    split at h
    · next hp =>
      cases h
      exact hi.respond hp outcome
    · cases h

theorem accounting_of_reachable {s : ClientState} (hs : Reachable cfg s) : Accounting cfg s := by
  induction hs with
  | init now => exact accounting_initial cfg now
  | step _ _ h ih => exact ih.step h

/-! ## How a dispatch ends -/

variable (cfg)

/-- What `_dispatch` does after a call of the sender: it retries the batch, or it ends with the
batch counted as delivered, or counted as dead letters and each of its diffs handed once to the
dead-letter handler. -/
def DispatchSettles (s : ClientState) : Prop :=
  ∀ batch attempt outcome s', s.phase = .settle batch attempt outcome → advance cfg s = some s' →
    (s'.phase = .send batch (attempt + 1) ∧ s'.metrics.successTotal = s.metrics.successTotal ∧
      s'.metrics.deadLetterTotal = s.metrics.deadLetterTotal ∧ s'.deadLetters = s.deadLetters) ∨
    (s'.phase = .idle ∧ outcome = none ∧
      s'.metrics.successTotal = s.metrics.successTotal + batch.length ∧
      s'.metrics.deadLetterTotal = s.metrics.deadLetterTotal ∧ s'.deadLetters = s.deadLetters) ∨
    (s'.phase = .idle ∧ ∃ error, outcome = some error ∧
      s'.metrics.successTotal = s.metrics.successTotal ∧
      s'.metrics.deadLetterTotal = s.metrics.deadLetterTotal + batch.length ∧
      s'.deadLetters = if cfg.hasDeadLetterHandler
        then (batch.map (·, error)).reverse ++ s.deadLetters else s.deadLetters)

theorem dispatch_settles (s : ClientState) : DispatchSettles cfg s := by
  intro batch attempt outcome s' hp h
  obtain ⟨queue, phase, bucket, circuit, metrics, now, stopped, invalidations, sleeps, sent,
    deadLetters, backpressured, history⟩ := s
  subst hp
  cases outcome with
  | none =>
    cases h
    exact .inr (.inl ⟨rfl, rfl, rfl, rfl, rfl⟩)
  | some error =>
    simp only [Client.advance] at h
    split_ifs at h <;> cases h
    · exact .inr (.inr ⟨rfl, error, rfl, rfl, rfl, rfl⟩)
    · exact .inl ⟨rfl, rfl, rfl, rfl⟩

/-! ## The writer's accounts -/

/-- Over every run: the queue stays within its capacity and an enqueue appends or refuses;
batches leave the queue in FIFO order and within `max_batch_tags`; each dispatch calls the
sender at most `retry_attempts + 1` times and ends delivered or dead-lettered; and every
accepted diff is queued, in flight, delivered or dead-lettered. -/
theorem writer_keeps_accounts {s : ClientState} (hs : Reachable cfg s) :
    s.queue.length ≤ cfg.queueCapacity.toNat ∧
    (∀ diff, ((enqueue cfg s diff).1 = .ok () ∧ (enqueue cfg s diff).2.queue = s.queue ++ [diff]) ∨
      ((enqueue cfg s diff).1 = .error (.queueFull ("canary queue at capacity (" ++
          toString cfg.queueCapacity ++ ")")) ∧ (enqueue cfg s diff).2.queue = s.queue)) ∧
    s.history.batches.flatten ++ s.queue = s.history.accepted ∧
    (∀ batch ∈ s.history.batches, batch.length ≤ cfg.maxBatchTags.toNat) ∧
    (∀ k, sendsOf s.sent k ≤ cfg.retryPolicy.retries + 1) ∧
    DispatchSettles cfg s ∧
    s.history.accepted.length =
      s.queue.length + (inFlight s.phase).length + s.metrics.successTotal +
        s.metrics.deadLetterTotal := by
  have hi := accounting_of_reachable hs
  have hlen := congrArg List.length hi.fifo
  rw [List.length_append, hi.taken] at hlen
  exact ⟨hi.queue_le, enqueue_appends_or_refuses cfg s, hi.fifo, hi.batches_le, hi.sends_le,
    dispatch_settles cfg s, by omega⟩

/-! ## The breaker check -/

/-- The phases between an `allow()` that let the dispatcher through and the first call of the
batch it then pops. -/
def admitted : Phase → Bool
  | .takeToken _ => true
  | .popBatch _ => true
  | .send _ attempt => attempt == 1
  | _ => false

variable {cfg}

theorem admitted_advance {s s' : ClientState} (hi : Accounting cfg s)
    (hg : admitted s.phase = true → s.circuit.state ≠ .opened) (h : advance cfg s = some s') :
    admitted s'.phase = true → s'.circuit.state ≠ .opened := by
  obtain ⟨queue, phase, bucket, circuit, metrics, now, stopped, invalidations, sleeps, sent,
    deadLetters, backpressured, history⟩ := s
  cases phase with
  | idle => cases h
  | send batch attempt => cases h
  | awaitQueue block =>
    simp only [Client.advance] at h
    split_ifs at h <;> cases h <;> simp [admitted]
  | checkCircuit block =>
    simp only [Client.advance] at h
    split at h
    · next c hallow =>
      cases h
      have hne := @CircuitBreaker.allow_state_ne_opened circuit now (by rw [hallow])
      rw [hallow] at hne
      exact fun _ ↦ hne
    · cases h
      simp [admitted, ClientState.wait]
  | takeToken block =>
    simp only [Client.advance] at h
    split at h <;> cases h
    · exact fun _ ↦ hg rfl
    · simp [admitted]
  | refillWait block =>
    cases h
    simp [admitted, ClientState.wait]
  | popBatch block =>
    simp only [Client.advance] at h
    split_ifs at h <;> cases h
    · simp [admitted]
    · simp [admitted]
    · exact fun _ ↦ hg rfl
  | settle batch attempt error =>
    have hat := hi.attempts
    simp only [AttemptsOk] at hat
    cases error with
    | none =>
      cases h
      simp [admitted]
    | some error =>
      simp only [Client.advance] at h
      split_ifs at h <;> cases h
      · simp [admitted, emitDeadLetter]
      · simp only [ClientState.wait, admitted, beq_iff_eq]
        omega

theorem admitted_step {s s' : ClientState} {a : Action} (hi : Accounting cfg s)
    (hg : admitted s.phase = true → s.circuit.state ≠ .opened) (h : step cfg s a = some s') :
    admitted s'.phase = true → s'.circuit.state ≠ .opened := by
  cases a with
  | tick t => cases h; exact hg
  | enqueue diff => cases h; simpa using hg
  | stop => cases h; exact hg
  | start => cases h; exact hg
  | begin block =>
    simp only [Client.step] at h
    split at h <;> cases h
    simp [admitted]
  | advance => exact admitted_advance hi hg h
  | respond outcome =>
    simp only [Client.step] at h
    split at h <;> cases h
    simp [admitted]

theorem admitted_of_reachable {s : ClientState} (hs : Reachable cfg s) :
    admitted s.phase = true → s.circuit.state ≠ .opened := by
  induction hs with
  | init now => simp [ClientState.initial, ClientRuns.admitted]
  | step _ hs h ih => exact admitted_step (accounting_of_reachable hs) ih h

/-- The sender is called while the breaker is open only to retry a batch: the first call of
every batch is made with the breaker closed or half-open. -/
theorem open_breaker_sends_only_retries {s : ClientState} (hs : Reachable cfg s)
    {batch : List CanaryDiff} {attempt : Nat} (hsend : s.phase = .send batch attempt)
    (hopen : s.circuit.state = .opened) : 2 ≤ attempt := by
  have hat := (accounting_of_reachable hs).attempts
  simp only [AttemptsOk, hsend] at hat
  by_contra hlt
  have hfirst : attempt = 1 := by omega
  exact admitted_of_reachable hs (by simp [hsend, admitted, hfirst]) hopen

/-! ## A retry while the breaker is open -/

variable (cfg)

/-- The actions of a run, in order. -/
def run (s : ClientState) : List Action → Option ClientState
  | [] => some s
  | a :: rest => (step cfg s a).bind fun s' ↦ run s' rest

variable {cfg}

theorem reachable_of_run {s s' : ClientState} {l : List Action} (hs : Reachable cfg s)
    (h : run cfg s l = some s') : Reachable cfg s' := by
  induction l generalizing s with
  | nil =>
    cases h
    exact hs
  | cons a rest ih =>
    simp only [run] at h
    cases hstep : step cfg s a with
    | none => simp [hstep] at h
    | some s₁ =>
      simp only [hstep, Option.bind_some] at h
      exact ih (.step a hs hstep) h

/-- Settings under which one failure opens the breaker and a failed batch is retried once. -/
def oneFailureConfig : ClientConfig where
  rateLimitRps := 500
  burstSize := 500
  queueCapacity := 1000
  maxBatchTags := 100
  retryPolicy := ⟨1, 0.2, 6.4, fun limit ↦ limit, by with_unfolding_all decide,
    by with_unfolding_all decide⟩
  circuitConsecutiveFailures := 1
  circuitResetSeconds := 60
  hasSessionManager := false
  hasDeadLetterHandler := true
  hasBackpressureHandler := false
  rateLimitRps_pos := by with_unfolding_all decide
  burstSize_pos := by with_unfolding_all decide
  circuitConsecutiveFailures_pos := Nat.one_pos
  circuitResetSeconds_pos := by with_unfolding_all decide

/-- A diff of one metric. -/
def kilnDiff : CanaryDiff := ⟨"Plant/Edge/Kiln/temperature", [("displayHigh", .int 1800)], [], none, none⟩

/-- One diff is enqueued and drained at clock reading 0; the first call fails with a connection
error, which opens the breaker and schedules a retry. -/
def retryTrace : List Action :=
  [.enqueue kilnDiff, .begin false, .advance, .advance, .advance, .advance,
    .respond (some .request), .advance]

/-- The state `retryTrace` leads to. -/
def retryState : ClientState :=
  (run oneFailureConfig (ClientState.initial oneFailureConfig 0) retryTrace).getD
    (ClientState.initial oneFailureConfig 0)

theorem retryState_reachable : Reachable oneFailureConfig retryState := by
  have hsome : (run oneFailureConfig (ClientState.initial oneFailureConfig 0) retryTrace).isSome :=
    by with_unfolding_all decide
  obtain ⟨s, hs⟩ := Option.isSome_iff_exists.1 hsome
  rw [retryState, hs, Option.getD_some]
  exact reachable_of_run (.init 0) hs

theorem retryState_phase : retryState.phase = .send [kilnDiff] 2 := by with_unfolding_all rfl

theorem retryState_blocking : retryState.circuit.Blocking retryState.now := by
  with_unfolding_all decide

/-- The retry goes to the sender at clock reading 0, while the breaker the first failure opened
at 0 holds traffic back for 60 seconds. -/
theorem retry_sent_while_breaker_open :
    Reachable oneFailureConfig retryState ∧ retryState.circuit.Blocking retryState.now ∧
      (step oneFailureConfig retryState (.respond none)).map (·.sent) =
        some [(0, 1, [kilnDiff]), (0, 1, [kilnDiff])] :=
  ⟨retryState_reachable, retryState_blocking, by with_unfolding_all rfl⟩

theorem retryState_retry_attempt :
    retryState.phase = .send [kilnDiff] 2 ∧ retryState.circuit.state = .opened ∧ 2 ≤ 2 :=
  ⟨retryState_phase, retryState_blocking.1,
    open_breaker_sends_only_retries retryState_reachable retryState_phase retryState_blocking.1⟩

theorem retryState_accounts :
    retryState.queue.length ≤ oneFailureConfig.queueCapacity.toNat ∧
    (∀ diff, ((enqueue oneFailureConfig retryState diff).1 = .ok () ∧
        (enqueue oneFailureConfig retryState diff).2.queue = retryState.queue ++ [diff]) ∨
      ((enqueue oneFailureConfig retryState diff).1 = .error (.queueFull
          ("canary queue at capacity (" ++ toString oneFailureConfig.queueCapacity ++ ")")) ∧
        (enqueue oneFailureConfig retryState diff).2.queue = retryState.queue)) ∧
    retryState.history.batches.flatten ++ retryState.queue = retryState.history.accepted ∧
    (∀ batch ∈ retryState.history.batches, batch.length ≤ oneFailureConfig.maxBatchTags.toNat) ∧
    (∀ k, sendsOf retryState.sent k ≤ oneFailureConfig.retryPolicy.retries + 1) ∧
    DispatchSettles oneFailureConfig retryState ∧
    retryState.history.accepted.length =
      retryState.queue.length + (inFlight retryState.phase).length +
        retryState.metrics.successTotal + retryState.metrics.deadLetterTotal :=
  writer_keeps_accounts oneFailureConfig retryState_reachable

end UnsMetadataSync.Canary.ClientRuns
