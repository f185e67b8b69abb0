import UnsMetadataSync.Cdc.Checkpoint
import Mathlib.Algebra.Order.Ring.Rat
import Mathlib.Tactic.NormNum

/-!
# The logical replication client

`cdc/logical_replication.py` reads the replication stream from the stored position, decodes
every message into change records, passes each record to the handler, and persists positions:
every `checkpoint_interval` records at a message boundary, at the end of the stream, and when
`max_messages` records have been processed.  The last of these returns from inside the loop
over one message's records, so it can persist the position of a message whose later records
were never passed to the handler; the next call resumes after that message.  An operator's
`reset_checkpoint` goes through the store's guarded reset and, when that returns, sets the
client's positions to the new one.

The client is modelled over an arbitrary payload type, change type, checkpoint store and
handler state.  Python exceptions are the `.error` results, and the state a call leaves behind
is returned with every result, as mutations before a `raise` survive it.  Times and delays are
exact rationals; a float power past the largest finite double raises `OverflowError`.
-/

namespace UnsMetadataSync.Cdc.LogicalReplication

open Checkpoint

/-- `ReplicationStreamMessage`, over the payload type `δ` its decoder reads. -/
structure ReplicationStreamMessage (δ : Type) where
  lsn : Int
  data : δ
  commitTimestamp : ℚ

/-- The `CheckpointStore` protocol, as far as the client uses it. -/
structure CheckpointStore (σ : Type) where
  load : σ → String → Option Int
  save : σ → String → Int → σ

/-- The in-memory store behind the protocol. -/
def inMemoryStore : CheckpointStore InMemoryCheckpointStore :=
  ⟨InMemoryCheckpointStore.load, InMemoryCheckpointStore.save⟩

/-! ## Back-off -/

/-- `sys.float_info.max`, the largest finite double. -/
def floatMax : ℚ := (2 ^ 53 - 1) * 2 ^ 971

/-- The text of the `OverflowError` a float power past `floatMax` raises. -/
def powOverflowMessage : String :=
  "(34, " ++ Json.apostrophe.toString ++ "Numerical result out of range" ++ Json.apostrophe.toString ++ ")"

/-- `x ** n` for a float `x` and an int `n ≥ 0`: the exact power, or `OverflowError` when it is
past the largest finite double. -/
def floatPow (x : ℚ) (n : Nat) : Except String ℚ :=
  if floatMax < x ^ n then .error powOverflowMessage else .ok (x ^ n)

/-- `ExponentialBackoff`: its settings and the attempt counter. -/
structure ExponentialBackoff where
  baseInterval : ℚ
  multiplier : ℚ
  maxInterval : ℚ
  maxAttempts : Option Nat
  jitter : Bool
  attempt : Nat

namespace ExponentialBackoff

/-- The constructor's argument checks. -/
def create (baseInterval multiplier maxInterval : ℚ) (maxAttempts : Option Nat) (jitter : Bool) :
    Except String ExponentialBackoff :=
  if baseInterval ≤ 0 then .error "base_interval must be positive"
  else if multiplier < 1 then .error "multiplier must be at least 1.0"
  else if maxInterval < baseInterval then .error "max_interval must be >= base_interval"
  else .ok ⟨baseInterval, multiplier, maxInterval, maxAttempts, jitter, 0⟩

def reset (b : ExponentialBackoff) : ExponentialBackoff := { b with attempt := 0 }

/-- `next_delay`, with `draw` the value `random_fn()` returns.  A product past `floatMax` is
`inf` in Python, which the `min` caps as the exact product is capped here. -/
def nextDelay (b : ExponentialBackoff) (draw : ℚ) : Except String (ℚ × ExponentialBackoff) :=
  if b.maxAttempts.any (· ≤ b.attempt) then .error "retry attempts exhausted"
  else match floatPow b.multiplier b.attempt with
    | .error e => .error e
    | .ok power =>
      let raw := min (b.baseInterval * power) b.maxInterval
      .ok (if b.jitter then draw * raw else raw, { b with attempt := b.attempt + 1 })

/-! ### Consecutive delays

Without an attempt limit and without a reset, the counter rises by one per call until the power
`multiplier ** attempt` passes the largest finite double; from then on every call raises and the
counter stays. -/

/-- `next_delay` called once per draw, each call on the back-off the previous one left (a call
that raises leaves it as it was): what each call returned or raised, and the last back-off. -/
def runDelays (b : ExponentialBackoff) : List ℚ → List (Except String ℚ) × ExponentialBackoff
  | [] => ([], b)
  | draw :: draws =>
    match b.nextDelay draw with
    | .ok (delay, b') => (.ok delay :: (b'.runDelays draws).1, (b'.runDelays draws).2)
    | .error e => (.error e :: (b.runDelays draws).1, (b.runDelays draws).2)

/-- What the call at attempt `k` gives: a delay in `[0, max_interval]` while `multiplier ** k`
is finite, the `OverflowError` after. -/
def DelayOutcome (b : ExponentialBackoff) (k : Nat) : Except String ℚ → Prop
  | .ok delay => b.multiplier ^ k ≤ floatMax ∧ 0 ≤ delay ∧ delay ≤ b.maxInterval
  | .error e => floatMax < b.multiplier ^ k ∧ e = powOverflowMessage

/-- A jittered or plain capped delay lies in `[0, max_interval]`. -/
theorem delay_bounds {baseInterval multiplier maxInterval draw : ℚ} (attempt : Nat) (jitter : Bool)
    (hb : 0 < baseInterval) (hmax : baseInterval ≤ maxInterval) (h1 : 1 ≤ multiplier)
    (hd : 0 ≤ draw ∧ draw ≤ 1) :
    let raw := min (baseInterval * multiplier ^ attempt) maxInterval
    0 ≤ (if jitter then draw * raw else raw) ∧ (if jitter then draw * raw else raw) ≤ maxInterval := by
  intro raw
  have hraw : 0 ≤ raw := le_min (mul_nonneg hb.le (pow_nonneg (zero_le_one.trans h1) _)) (hb.le.trans hmax)
  have hle : raw ≤ maxInterval := min_le_right _ _
  cases jitter
  · exact ⟨hraw, hle⟩
  · exact ⟨mul_nonneg hd.1 hraw, (mul_le_of_le_one_left hraw hd.2).trans hle⟩

section Unlimited

variable {b : ExponentialBackoff} (hm : b.maxAttempts = none)
include hm

theorem nextDelay_of_overflow (h : floatMax < b.multiplier ^ b.attempt) (draw : ℚ) :
    b.nextDelay draw = .error powOverflowMessage := by
  simp [nextDelay, hm, floatPow, h]

theorem nextDelay_of_finite (h : ¬ floatMax < b.multiplier ^ b.attempt) (draw : ℚ) :
    b.nextDelay draw = .ok (let raw := min (b.baseInterval * b.multiplier ^ b.attempt) b.maxInterval
      if b.jitter then draw * raw else raw, { b with attempt := b.attempt + 1 }) := by
  simp [nextDelay, hm, floatPow, h]

/-- Once the power is past `floatMax`, every call raises and the counter stays. -/
theorem runDelays_of_overflow (h : floatMax < b.multiplier ^ b.attempt) (draws : List ℚ) :
    b.runDelays draws = (draws.map fun _ ↦ .error powOverflowMessage, b) := by
  induction draws with
  | nil => rfl
  | cons draw draws ih => simp [runDelays, nextDelay_of_overflow hm h, ih]

/-- The `i`-th of consecutive calls is the call at attempt `attempt + i`. -/
theorem runDelays_outcome (h1 : 1 ≤ b.multiplier) (hb : 0 < b.baseInterval)
    (hmax : b.baseInterval ≤ b.maxInterval) (draws : List ℚ) (hd : ∀ d ∈ draws, 0 ≤ d ∧ d ≤ 1) :
    ∀ i < draws.length, ∃ r, (b.runDelays draws).1[i]? = some r ∧ DelayOutcome b (b.attempt + i) r := by
  induction draws generalizing b with
  | nil => exact fun i hi ↦ absurd hi (Nat.not_lt_zero i)
  | cons draw draws ih =>
    intro i hi
    by_cases h : floatMax < b.multiplier ^ b.attempt
    · rw [runDelays_of_overflow hm h]
      refine ⟨.error powOverflowMessage, ?_, ?_, rfl⟩
      · rw [List.map_const']
        exact List.getElem?_replicate_of_lt hi
      exact h.trans_le (pow_le_pow_right₀ h1 (Nat.le_add_right _ _))
    · rw [runDelays, nextDelay_of_finite hm h]
      dsimp only
      cases i with
      | zero =>
        refine ⟨_, List.getElem?_cons_zero, ?_⟩
        exact ⟨not_lt.1 h, delay_bounds b.attempt b.jitter hb hmax h1 (hd draw (List.mem_cons_self _ _))⟩
      | succ j =>
        obtain ⟨r, hr, hout⟩ := ih (b := { b with attempt := b.attempt + 1 }) hm h1 hb hmax
          (fun d hd' ↦ hd d (List.mem_cons_of_mem _ hd')) j (by simpa using hi)
        exact ⟨r, List.getElem?_cons_succ.trans hr, by rwa [show b.attempt + (j + 1) = b.attempt + 1 + j by omega]⟩

end Unlimited

end ExponentialBackoff

/-- The back-off `CDCListenerService` builds: `ExponentialBackoff(0.5, 2.0, 30.0, None)` with
jitter. -/
def listenerBackoff : ExponentialBackoff := ⟨1 / 2, 2, 30, none, true, 0⟩

/-- `2.0 ** k` is finite exactly for `k < 1024`. -/
theorem two_pow_le_floatMax (k : Nat) : (2 : ℚ) ^ k ≤ floatMax ↔ k < 1024 := by
  have hle : (2 : ℚ) ^ (52 + 971) ≤ floatMax := by
    rw [floatMax, pow_add]
    exact mul_le_mul_of_nonneg_right (by norm_num) (pow_nonneg zero_le_two _)
  have hlt : floatMax < (2 : ℚ) ^ (53 + 971) := by
    rw [floatMax, pow_add]
    exact mul_lt_mul_of_pos_right (by norm_num) (pow_pos zero_lt_two _)
  constructor
  · intro h
    by_contra hk
    exact absurd (hlt.trans_le (pow_le_pow_right₀ one_le_two (by omega))) (not_lt.2 h)
  · exact fun hk ↦ (pow_le_pow_right₀ one_le_two (by omega)).trans hle

open ExponentialBackoff in
/-- Consecutive `next_delay` calls on the back-off of `CDCListenerService`, without a reset and
with draws in `[0, 1]`: the first 1024 return delays in `[0, 30]`, and every later one raises the
`OverflowError` of `2.0 ** 1024`. -/
theorem listener_backoff_overflows (draws : List ℚ) (hd : ∀ d ∈ draws, 0 ≤ d ∧ d ≤ 1) :
    ∀ i < draws.length, ∃ r, (listenerBackoff.runDelays draws).1[i]? = some r ∧
      match r with
      | .ok delay => i < 1024 ∧ 0 ≤ delay ∧ delay ≤ 30
      | .error e => 1024 ≤ i ∧ e = powOverflowMessage := by
  intro i hi
  obtain ⟨r, hr, hout⟩ := runDelays_outcome (b := listenerBackoff) rfl (by norm_num [listenerBackoff])
    (by norm_num [listenerBackoff]) (by norm_num [listenerBackoff]) draws hd i hi
  refine ⟨r, hr, ?_⟩
  cases r with
  | ok delay =>
    obtain ⟨hpow, h0, h30⟩ := hout
    exact ⟨(two_pow_le_floatMax _).1 (by simpa [listenerBackoff] using hpow), h0, h30⟩
  | error e =>
    obtain ⟨hpow, he⟩ := hout
    refine ⟨not_lt.1 fun hk ↦ ?_, he⟩
    exact absurd ((two_pow_le_floatMax i).2 hk) (not_le.2 (by simpa [listenerBackoff] using hpow))

/-- The 1025th call raises. -/
theorem listener_backoff_call_1025_raises :
    (listenerBackoff.runDelays (List.replicate 1025 (1 / 2))).1[1024]? =
      some (.error powOverflowMessage) := by
  obtain ⟨r, hr, hout⟩ := listener_backoff_overflows (List.replicate 1025 (1 / 2))
    (fun d hd ↦ by rw [List.eq_of_mem_replicate hd]; norm_num) 1024 (by rw [List.length_replicate]; decide)
  cases r with
  | ok delay => exact absurd hout.1 (lt_irrefl _)
  | error e => rw [hr, hout.2]

/-! ## The client -/

/-- The fixed collaborators and settings of a `LogicalReplicationClient`.  The interval is the
constructor's `max(1, checkpoint_interval)`. -/
structure ClientConfig (δ χ σ : Type) where
  slotName : String
  streamFactory : Option Int → List (ReplicationStreamMessage δ)
  decoder : ReplicationStreamMessage δ → Except String (List χ)
  checkpointStore : CheckpointStore σ
  checkpointInterval : Nat
  checkpointInterval_pos : 0 < checkpointInterval

/-- The client's mutable fields. -/
structure ClientState where
  lastSeenLsn : Option Int
  lastPersistedLsn : Option Int
  lastErrorDelay : Option ℚ
  backoff : ExponentialBackoff

/-- Everything a call of `process` reads and writes: the client's fields, the checkpoint store
and the handler's own state. -/
structure ProcessState (σ H : Type) where
  client : ClientState
  store : σ
  handlerState : H

variable {δ χ σ H : Type} (cfg : ClientConfig δ χ σ) (handler : χ → H → Except String H)

/-- `_persist_checkpoint`. -/
def persistCheckpoint (lsn : Int) (w : ProcessState σ H) : ProcessState σ H :=
  if w.client.lastPersistedLsn.all (· < lsn) then
    { w with store := cfg.checkpointStore.save w.store cfg.slotName lsn
             client := { w.client with lastPersistedLsn := some lsn } }
  else w

/-- The two assignments before each successful `return`. -/
def succeed (w : ProcessState σ H) : ProcessState σ H :=
  { w with client := { w.client with backoff := w.client.backoff.reset, lastErrorDelay := none } }

/-- `max_messages and processed >= max_messages`. -/
def limitReached (maxMessages : Option Int) (processed : Nat) : Bool :=
  maxMessages.any fun m ↦ m != 0 && m ≤ (processed : Int)

/-- The loop over the records of one message.  `.inl n`: all handled, `n` records processed so
far; `.inr n`: the `max_messages` branch returned. -/
def handleChanges (maxMessages : Option Int) (lsn : Int) :
    List χ → Nat → ProcessState σ H → Except String (Nat ⊕ Nat) × ProcessState σ H
  | [], processed, w => (.ok (.inl processed), w)
  | change :: rest, processed, w =>
    match handler change w.handlerState with
    | .error e => (.error e, w)
    | .ok h =>
      let w := { w with handlerState := h }
      if limitReached maxMessages (processed + 1) then
        let w := { w with client := { w.client with lastSeenLsn := some lsn } }
        let w := if w.client.lastPersistedLsn.all (· < lsn) then persistCheckpoint cfg lsn w else w
        (.ok (.inr (processed + 1)), succeed w)
      else handleChanges maxMessages lsn rest (processed + 1) w

/-- The loop over the messages of the stream. -/
def processMessages (maxMessages : Option Int) :
    List (ReplicationStreamMessage δ) → Nat → ProcessState σ H →
      Except String (Nat ⊕ Nat) × ProcessState σ H
  | [], processed, w => (.ok (.inl processed), w)
  | message :: rest, processed, w =>
    match cfg.decoder message with
    | .error e => (.error e, w)
    | .ok decoded =>
      match handleChanges cfg handler maxMessages message.lsn decoded processed w with
      | (.error e, w) => (.error e, w)
      | (.ok (.inr n), w) => (.ok (.inr n), w)
      | (.ok (.inl n), w) =>
        let w := { w with client := { w.client with lastSeenLsn := some message.lsn } }
        let w := if n % cfg.checkpointInterval = 0 then persistCheckpoint cfg message.lsn w else w
        processMessages maxMessages rest n w

/-- `LogicalReplicationClient.process`; `draw` is what the back-off's `random_fn` returns if the
call fails. -/
def process (maxMessages : Option Int) (draw : ℚ) (w : ProcessState σ H) :
    Except String Nat × ProcessState σ H :=
  let stream := cfg.streamFactory (cfg.checkpointStore.load w.store cfg.slotName)
  match processMessages cfg handler maxMessages stream 0 w with
  | (.ok (.inr n), w) => (.ok n, w)
  | (.ok (.inl n), w) =>
    let w := match w.client.lastSeenLsn with
      | some lsn => persistCheckpoint cfg lsn w
      | none => w
    (.ok n, succeed w)
  | (.error e, w) =>
    match w.client.backoff.nextDelay draw with
    | .ok (delay, backoff) =>
      (.error e, { w with client := { w.client with lastErrorDelay := some delay, backoff } })
    | .error e' => (.error e', w)

/-- `reset_checkpoint`, with the store's guarded `reset`: when the guard passes, the client's
positions become the new one and the back-off starts over; when it raises, nothing changes. -/
def resetCheckpoint (reset : σ → String → Option Int → Option Int → Bool → Except String σ)
    (expectedLsn newLsn : Option Int) (force : Bool) (w : ProcessState σ H) :
    Except String (ProcessState σ H) :=
  (reset w.store cfg.slotName expectedLsn newLsn force).map fun store ↦
    { w with store
             client := { w.client with lastSeenLsn := newLsn, lastPersistedLsn := newLsn,
                                       backoff := w.client.backoff.reset, lastErrorDelay := none } }

/-! ## The handler's state

The client changes the handler's state only through the handler: checkpoints, the back-off and
the positions it keeps are its own fields.  So whatever the handler keeps, a call of `process`
keeps. -/

@[simp] theorem persistCheckpoint_handlerState (lsn : Int) (w : ProcessState σ H) :
    (persistCheckpoint cfg lsn w).handlerState = w.handlerState := by
  unfold persistCheckpoint
  split <;> rfl

@[simp] theorem succeed_handlerState (w : ProcessState σ H) : (succeed w).handlerState = w.handlerState := rfl

section HandlerInvariant

variable {Q : H → Prop} (hQ : ∀ change h h', Q h → handler change h = .ok h' → Q h')
include hQ

theorem handleChanges_handlerState (maxMessages : Option Int) (lsn : Int) (changes : List χ) (processed : Nat)
    {w : ProcessState σ H} (hw : Q w.handlerState) :
    Q (handleChanges cfg handler maxMessages lsn changes processed w).2.handlerState := by
  induction changes generalizing processed w with
  | nil => exact hw
  | cons change rest ih =>
    simp only [handleChanges]
    split
    · exact hw
    · next h hh =>
      have hh' : Q h := hQ change _ _ hw hh
      split
      · split <;> simpa using hh'
      · exact ih _ hh'

theorem processMessages_handlerState (maxMessages : Option Int) (messages : List (ReplicationStreamMessage δ))
    (processed : Nat) {w : ProcessState σ H} (hw : Q w.handlerState) :
    Q (processMessages cfg handler maxMessages messages processed w).2.handlerState := by
  induction messages generalizing processed w with
  | nil => exact hw
  | cons message rest ih =>
    simp only [processMessages]
    split
    · exact hw
    · next decoded _ =>
      have h := handleChanges_handlerState cfg handler hQ maxMessages message.lsn decoded processed hw
      split
      · next hr => rw [hr] at h; exact h
      · next hr => rw [hr] at h; exact h
      · next hr =>
        rw [hr] at h
        exact ih _ (by split <;> simpa using h)

/-- A state the handler keeps is kept by `process`. -/
theorem process_handlerState (maxMessages : Option Int) (draw : ℚ) {w : ProcessState σ H}
    (hw : Q w.handlerState) : Q (process cfg handler maxMessages draw w).2.handlerState := by
  have h := processMessages_handlerState cfg handler hQ maxMessages
    (cfg.streamFactory (cfg.checkpointStore.load w.store cfg.slotName)) 0 hw
  simp only [process]
  split <;> rename_i hr <;> rw [hr] at h
  · exact h
  · split <;> simpa using h
  · split <;> exact h

end HandlerInvariant

/-! ## Delivery -/

/-- The stream factories of the tests: the messages after the stored position, all of them
for `None`. -/
def suffixFactory (messages : List (ReplicationStreamMessage δ)) (start : Option Int) :
    List (ReplicationStreamMessage δ) :=
  messages.filter fun m ↦ start.all (· < m.lsn)

/-- A handler that records every change it is passed. -/
def recordChange (change : χ) (log : List χ) : Except String (List χ) := .ok (log ++ [change])

/-- One message at position 1 that decodes into two records, checkpointed after every record. -/
def twoRecordConfig : ClientConfig Unit String InMemoryCheckpointStore where
  slotName := "slot"
  streamFactory := suffixFactory [⟨1, (), 0⟩]
  decoder _ := .ok ["first", "second"]
  checkpointStore := inMemoryStore
  checkpointInterval := 1
  checkpointInterval_pos := Nat.one_pos

/-- A fresh client with the default back-off, an empty store and an empty record log. -/
def freshState : ProcessState InMemoryCheckpointStore (List String) :=
  ⟨⟨none, none, none, ⟨1 / 2, 2, 30, none, true, 0⟩⟩, ⟨[]⟩, []⟩

/-- With `max_messages = 1` the first call handles one record and persists position 1; the
second call resumes after position 1, returns 0, and the second record is never handled. -/
theorem max_messages_skips_rest_of_message :
    (process twoRecordConfig recordChange (some 1) 0 freshState).1 = .ok 1 ∧
      (process twoRecordConfig recordChange (some 1) 0
        (process twoRecordConfig recordChange (some 1) 0 freshState).2).1 = .ok 0 ∧
      ((process twoRecordConfig recordChange (some 1) 0
        (process twoRecordConfig recordChange (some 1) 0 freshState).2).2.store.load "slot" =
          some 1) ∧
      (process twoRecordConfig recordChange (some 1) 0
        (process twoRecordConfig recordChange (some 1) 0 freshState).2).2.handlerState =
          ["first"] :=
  ⟨rfl, rfl, rfl, rfl⟩

end UnsMetadataSync.Cdc.LogicalReplication
