import UnsMetadataSync.Json

/-!
# Checkpoint stores

`cdc/checkpoint.py` keeps, per replication slot, the position from which the stream resumes.
`save` only ever raises a position; `reset` lowers or clears it under the guard that the caller
names the current value, unless `force` is set.  Both stores keep the positions in a Python dict
from slot names to integers.  The persistent store also writes the dict to its file after every
change, through a temporary file that replaces it; it changes the dict before it writes, so a write
that raises leaves the dict changed.

A sequence of calls is compared with the position it should leave: the largest position saved since
the last reset that returned normally, starting from that reset's new position
(`referencePosition`).  The in-memory store follows it; the persistent store follows it only
while its writes succeed, since a call that passed its guard counts although its write raised
(`load_follows_guarded_calls`).
-/

namespace UnsMetadataSync.Cdc.Checkpoint

open Json

/-- A Python `Dict[str, int]` as an association list with one entry per key.  Insertion order
is not kept: the stores read by key and write their file with sorted keys. -/
abbrev Positions := List (String × Int)

/-- `positions.get(slot)`. -/
def Positions.get (d : Positions) (slot : String) : Option Int := d.lookup slot

/-- `positions.pop(slot, None)`. -/
def Positions.pop (d : Positions) (slot : String) : Positions := d.filter (·.1 != slot)

/-- `positions[slot] = lsn`. -/
def Positions.set (d : Positions) (slot : String) (lsn : Int) : Positions :=
  (slot, lsn) :: d.pop slot

theorem Positions.get_cons_of_ne {es : Positions} {k slot : String} (b : Int) (h : slot ≠ k) :
    Positions.get ((k, b) :: es) slot = es.get slot := by
  simp [Positions.get, h]

@[simp] theorem Positions.get_pop (d : Positions) (slot : String) : (d.pop slot).get slot = none := by
  induction d with
  | nil => rfl
  | cons x xs ih =>
    obtain ⟨k, b⟩ := x
    by_cases hk : k = slot
    · simpa [Positions.pop, hk] using ih
    · simpa [Positions.pop, hk, Positions.get_cons_of_ne b (Ne.symm hk)] using ih

theorem Positions.get_pop_of_ne (d : Positions) {slot other : String} (h : other ≠ slot) :
    (d.pop slot).get other = d.get other := by
  induction d with
  | nil => rfl
  | cons x xs ih =>
    obtain ⟨k, b⟩ := x
    by_cases hk : k = slot
    · subst hk
      simpa [Positions.pop, Positions.get_cons_of_ne b h] using ih
    · by_cases ho : other = k
      · subst ho
        simp [Positions.pop, hk, Positions.get]
      · simpa [Positions.pop, hk, Positions.get_cons_of_ne b ho] using ih

@[simp] theorem Positions.get_set (d : Positions) (slot : String) (lsn : Int) :
    (d.set slot lsn).get slot = some lsn := by
  simp [Positions.set, Positions.get]

theorem Positions.get_set_of_ne (d : Positions) {slot other : String} (lsn : Int)
    (h : other ≠ slot) : (d.set slot lsn).get other = d.get other := by
  rw [Positions.set, Positions.get_cons_of_ne lsn h, d.get_pop_of_ne h]

theorem exists_of_map_eq_ok {ε α β : Type} {f : α → β} {x : Except ε α} {b : β}
    (h : x.map f = .ok b) : ∃ a, f a = b := by
  cases x <;> simp only [Except.map, reduceCtorEq, Except.ok.injEq] at h
  exact ⟨_, h⟩

theorem Positions.nodup_pop {d : Positions} (h : (d.map Prod.fst).Nodup) (slot : String) :
    ((d.pop slot).map Prod.fst).Nodup :=
  h.sublist ((List.filter_sublist _).map _)

theorem Positions.nodup_set {d : Positions} (h : (d.map Prod.fst).Nodup) (slot : String) (lsn : Int) :
    ((d.set slot lsn).map Prod.fst).Nodup := by
  refine List.nodup_cons.2 ⟨fun hmem ↦ ?_, Positions.nodup_pop h slot⟩
  obtain ⟨⟨k, b⟩, hk, rfl⟩ := List.mem_map.1 hmem
  simp [Positions.pop] at hk

/-- `InMemoryCheckpointStore`; the lock only serialises calls and is not modelled. -/
structure InMemoryCheckpointStore where
  positions : Positions

namespace InMemoryCheckpointStore

def load (store : InMemoryCheckpointStore) (slotName : String) : Option Int :=
  store.positions.get slotName

/-- `save` keeps the larger position. -/
def save (store : InMemoryCheckpointStore) (slotName : String) (lsn : Int) :
    InMemoryCheckpointStore :=
  match store.positions.get slotName with
  | some current => if lsn > current then ⟨store.positions.set slotName lsn⟩ else store
  | none => ⟨store.positions.set slotName lsn⟩

/-- `reset`: a new position, or none to clear it, guarded by the expected current value. -/
def reset (store : InMemoryCheckpointStore) (slotName : String) (expectedLsn newLsn : Option Int)
    (force : Bool) : Except String InMemoryCheckpointStore :=
  let current := store.positions.get slotName
  if current.isNone && newLsn.isNone then
    if !force && expectedLsn.isSome then .error "resume token missing; supply force=True to reset"
    else .ok store
  else
    let guard : Except String Unit :=
      if force then .ok ()
      else match current with
        | none =>
          if expectedLsn.isSome then .error "resume token missing; supply force=True to reset"
          else .ok ()
        | some c =>
          if expectedLsn != some c then .error "unexpected resume token value"
          else if newLsn.any (· > c) then .error "new resume token must not exceed current value"
          else .ok ()
    guard.map fun _ ↦ match newLsn with
      | none => ⟨store.positions.pop slotName⟩
      | some lsn => ⟨store.positions.set slotName lsn⟩

@[simp] theorem load_save_self (store : InMemoryCheckpointStore) (slotName : String) (lsn : Int) :
    (store.save slotName lsn).load slotName = some (max lsn ((store.load slotName).getD lsn)) := by
  unfold save load
  split
  · next current h =>
    split_ifs with hlt
    · simp only [Positions.get_set, h, Option.getD_some, Option.some.injEq]
      omega
    · simp only [h, Option.getD_some, Option.some.injEq]
      omega
  · next h =>
    simp only [Positions.get_set, h, Option.getD_none, Option.some.injEq]
    omega

theorem load_save_of_ne (store : InMemoryCheckpointStore) {slotName other : String} (lsn : Int)
    (h : other ≠ slotName) : (store.save slotName lsn).load other = store.load other := by
  unfold save load
  split
  · split_ifs
    · exact store.positions.get_set_of_ne lsn h
    · rfl
  · exact store.positions.get_set_of_ne lsn h

/-- What a reset that returns normally leaves: its new position for its slot, every other slot as
it was. -/
theorem load_reset_of_ok {store store' : InMemoryCheckpointStore} {slotName : String}
    {expectedLsn newLsn : Option Int} {force : Bool}
    (h : store.reset slotName expectedLsn newLsn force = .ok store') (other : String) :
    store'.load other = if other = slotName then newLsn else store.load other := by
  unfold reset at h
  dsimp only at h
  split at h
  · next hnone =>
    simp only [Bool.and_eq_true, Option.isNone_iff_eq_none] at hnone
    split at h <;> cases h
    by_cases ho : other = slotName
    · simp only [ho, ↓reduceIte, hnone.2]; exact hnone.1
    · simp [ho]
  · obtain ⟨⟨⟩, rfl⟩ := exists_of_map_eq_ok h
    by_cases ho : other = slotName <;> cases newLsn <;>
      simp [ho, load, Positions.get_pop_of_ne, Positions.get_set_of_ne]

/-- A reset that returns normally keeps one entry per slot. -/
theorem nodup_reset {store store' : InMemoryCheckpointStore} {slotName : String}
    {expectedLsn newLsn : Option Int} {force : Bool}
    (h : store.reset slotName expectedLsn newLsn force = .ok store')
    (hnodup : (store.positions.map Prod.fst).Nodup) : (store'.positions.map Prod.fst).Nodup := by
  unfold reset at h
  dsimp only at h
  split at h
  · split at h <;> cases h
    exact hnodup
  · obtain ⟨⟨⟩, rfl⟩ := exists_of_map_eq_ok h
    cases newLsn
    · exact Positions.nodup_pop hnodup slotName
    · exact Positions.nodup_set hnodup slotName _

/-- A reset without `force` that returns normally named the stored position, when there was one,
and did not raise it. -/
theorem reset_guard {store store' : InMemoryCheckpointStore} {slotName : String}
    {expectedLsn newLsn : Option Int} {c : Int} (hc : store.load slotName = some c)
    (h : store.reset slotName expectedLsn newLsn false = .ok store') :
    expectedLsn = some c ∧ ∀ lsn ∈ newLsn, lsn ≤ c := by
  unfold reset load at *
  simp only [hc, Option.isNone_some, Bool.false_and, Bool.false_eq_true, ↓reduceIte, Bool.not_false,
    Bool.true_and] at h
  by_cases he : expectedLsn = some c
  · by_cases hn : newLsn.any (· > c)
    · simp [he, hn, Except.map] at h
    · refine ⟨he, fun lsn hl ↦ ?_⟩
      subst hl
      simpa using hn
  · simp [he, Except.map] at h

end InMemoryCheckpointStore

/-! ## The persistent store -/

/-- The text `json.dump(positions, sort_keys=True)` writes. -/
def dumpPositions (d : Positions) : String :=
  "\x7b" ++ ", ".intercalate ((d.mergeSort fun a b ↦ decide (a.1 ≤ b.1)).map fun (slot, lsn) ↦
    quoteAscii slot ++ ": " ++ toString lsn) ++ "\x7d"

/-- What the file system does in one `_write_locked`: the temporary file replaces the checkpoint
file, or an `OSError` is raised before the replace, or after it by the directory `fsync` of a
store built with `fsync=True`. -/
inductive WriteOutcome
  | written
  | failed (error : String)
  | failedAfterReplace (error : String)

/-- `PersistentCheckpointStore`: its dict, and the text of its file (none while there is none).
The lock only serialises calls and is not modelled. -/
structure PersistentCheckpointStore where
  positions : Positions
  file : Option String

namespace PersistentCheckpointStore

def load (store : PersistentCheckpointStore) (slotName : String) : Option Int :=
  store.positions.get slotName

/-- `_write_locked`: the file gets the dict's text unless the write raises before the replace;
the exception is raised again. -/
def writeLocked (store : PersistentCheckpointStore) :
    WriteOutcome → Except String Unit × PersistentCheckpointStore
  | .written => (.ok (), { store with file := some (dumpPositions store.positions) })
  | .failed error => (.error error, store)
  | .failedAfterReplace error => (.error error, { store with file := some (dumpPositions store.positions) })

/-- `save`: a position not above the stored one returns at once; any other is stored, then written. -/
def save (store : PersistentCheckpointStore) (slotName : String) (lsn : Int) (outcome : WriteOutcome) :
    Except String Unit × PersistentCheckpointStore :=
  if (store.positions.get slotName).any (lsn ≤ ·) then (.ok (), store)
  else writeLocked { store with positions := store.positions.set slotName lsn } outcome

/-- `reset`: the in-memory store's guard, with its own text for a missing position; then the new
position is stored, or the slot cleared, and written. -/
def reset (store : PersistentCheckpointStore) (slotName : String) (expectedLsn newLsn : Option Int)
    (force : Bool) (outcome : WriteOutcome) : Except String Unit × PersistentCheckpointStore :=
  let current := store.positions.get slotName
  if current.isNone && newLsn.isNone then
    if !force && expectedLsn.isSome then (.error "resume token does not exist for slot", store)
    else (.ok (), store)
  else
    let guard : Except String Unit :=
      if force then .ok ()
      else match current with
        | none => if expectedLsn.isSome then .error "resume token does not exist for slot" else .ok ()
        | some c =>
          if expectedLsn != some c then .error "unexpected resume token value"
          else if newLsn.any (· > c) then .error "new resume token must not exceed current value"
          else .ok ()
    match guard with
    | .error e => (.error e, store)
    | .ok () =>
      match newLsn with
      | none =>
        if current.isNone then (.ok (), store)
        else writeLocked { store with positions := store.positions.pop slotName } outcome
      | some lsn => writeLocked { store with positions := store.positions.set slotName lsn } outcome

/-- The dict alone, as an in-memory store. -/
def toInMemory (store : PersistentCheckpointStore) : InMemoryCheckpointStore := ⟨store.positions⟩

@[simp] theorem toInMemory_load (store : PersistentCheckpointStore) (slotName : String) :
    store.toInMemory.load slotName = store.load slotName := rfl

/-- A write never changes the dict. -/
@[simp] theorem writeLocked_positions (store : PersistentCheckpointStore) (outcome : WriteOutcome) :
    (store.writeLocked outcome).2.positions = store.positions := by
  cases outcome <;> rfl

/-- A save leaves the in-memory store's dict, whatever its write does. -/
theorem save_toInMemory (store : PersistentCheckpointStore) (slotName : String) (lsn : Int)
    (outcome : WriteOutcome) :
    (store.save slotName lsn outcome).2.toInMemory = store.toInMemory.save slotName lsn := by
  unfold save InMemoryCheckpointStore.save toInMemory
  cases hc : store.positions.get slotName with
  | none => simp
  | some c =>
    by_cases hl : lsn ≤ c
    · simp [hl, not_lt.mpr hl]
    · simp [hl, lt_of_not_le hl]

theorem save_written (store : PersistentCheckpointStore) (slotName : String) (lsn : Int) :
    (store.save slotName lsn .written).1 = .ok () := by
  unfold save
  split <;> rfl

/-- A reset does what the in-memory store's does, with its own text for a missing position, and
writes the dict unless it returns without changing it. -/
theorem reset_eq (store : PersistentCheckpointStore) (slotName : String)
    (expectedLsn newLsn : Option Int) (force : Bool) (outcome : WriteOutcome) :
    store.reset slotName expectedLsn newLsn force outcome =
      match store.toInMemory.reset slotName expectedLsn newLsn force with
      | .error err =>
        (.error (if err = "resume token missing; supply force=True to reset" then
          "resume token does not exist for slot" else err), store)
      | .ok m =>
        if store.load slotName = none ∧ newLsn = none then (.ok (), { store with positions := m.positions })
        else writeLocked { store with positions := m.positions } outcome := by
  unfold reset InMemoryCheckpointStore.reset toInMemory load
  cases hc : store.positions.get slotName <;> cases newLsn <;> cases force <;>
    simp [hc, Except.map] <;> split_ifs <;> simp_all

end PersistentCheckpointStore

/-! ## Runs of calls -/

/-- A call of a store's `save` or `reset`. -/
inductive CheckpointCall
  | save (slotName : String) (lsn : Int)
  | reset (slotName : String) (expectedLsn newLsn : Option Int) (force : Bool)

/-- The position a call should leave for `slotName`, given the position before it and whether
it returned normally: a save keeps the larger position, a reset that returned sets its new one. -/
def referenceStep (slotName : String) (position : Option Int) : CheckpointCall × Bool → Option Int
  | (.save slot lsn, _) => if slot = slotName then some (max lsn (position.getD lsn)) else position
  | (.reset slot _ newLsn _, returned) => if slot = slotName ∧ returned then newLsn else position

/-- The largest position saved since the last reset that returned normally, starting from that
reset's new position, or from `start` when no reset returned. -/
def referencePosition (slotName : String) (start : Option Int) (history : List (CheckpointCall × Bool)) :
    Option Int :=
  history.foldl (referenceStep slotName) start

namespace InMemoryCheckpointStore

/-- One call: whether it returned normally, and the store after it. -/
def call (store : InMemoryCheckpointStore) : CheckpointCall → Bool × InMemoryCheckpointStore
  | .save slotName lsn => (true, store.save slotName lsn)
  | .reset slotName expectedLsn newLsn force =>
    match store.reset slotName expectedLsn newLsn force with
    | .ok store' => (true, store')
    | .error _ => (false, store)

/-- Calls one after another: whether each returned normally, and the last store. -/
def run (store : InMemoryCheckpointStore) : List CheckpointCall → List Bool × InMemoryCheckpointStore
  | [] => ([], store)
  | c :: cs => ((store.call c).1 :: ((store.call c).2.run cs).1, ((store.call c).2.run cs).2)

theorem load_call (store : InMemoryCheckpointStore) (c : CheckpointCall) (slotName : String) :
    (store.call c).2.load slotName = referenceStep slotName (store.load slotName) (c, (store.call c).1) := by
  cases c with
  | save slot lsn =>
    by_cases h : slot = slotName
    · subst h; simp [call, referenceStep]
    · simp [call, referenceStep, h, load_save_of_ne _ _ (Ne.symm h)]
  | reset slot expectedLsn newLsn force =>
    simp only [call]
    split
    · next h => simp [referenceStep, load_reset_of_ok h, eq_comm]
    · simp [referenceStep]

theorem load_run (store : InMemoryCheckpointStore) (calls : List CheckpointCall) (slotName : String) :
    (store.run calls).2.load slotName =
      referencePosition slotName (store.load slotName) (calls.zip (store.run calls).1) := by
  induction calls generalizing store with
  | nil => rfl
  | cons c cs ih => simp only [run, List.zip_cons_cons, referencePosition, List.foldl_cons, ← load_call, ih]

end InMemoryCheckpointStore

namespace PersistentCheckpointStore

/-- One call under the file system's answer to its write. -/
def call (store : PersistentCheckpointStore) : CheckpointCall → WriteOutcome →
    Except String Unit × PersistentCheckpointStore
  | .save slotName lsn => store.save slotName lsn
  | .reset slotName expectedLsn newLsn force => store.reset slotName expectedLsn newLsn force

/-- Calls one after another, each with its write's outcome: whether each returned normally, and
the last store. -/
def run (store : PersistentCheckpointStore) :
    List (CheckpointCall × WriteOutcome) → List Bool × PersistentCheckpointStore
  | [] => ([], store)
  | (c, outcome) :: cs =>
    ((store.call c outcome).1.isOk :: ((store.call c outcome).2.run cs).1, ((store.call c outcome).2.run cs).2)

/-- While every write succeeds, the persistent store returns on the same calls as the in-memory
store and keeps the same dict. -/
theorem run_written (store : PersistentCheckpointStore) (calls : List CheckpointCall) :
    (store.run (calls.map (·, .written))).1 = (store.toInMemory.run calls).1 ∧
      (store.run (calls.map (·, .written))).2.toInMemory = (store.toInMemory.run calls).2 := by
  induction calls generalizing store with
  | nil => exact ⟨rfl, rfl⟩
  | cons c cs ih =>
    have hcall : (store.call c .written).1.isOk = (store.toInMemory.call c).1 ∧
        (store.call c .written).2.toInMemory = (store.toInMemory.call c).2 := by
      cases c with
      | save slotName lsn =>
        exact ⟨by rw [call, save_written]; rfl, store.save_toInMemory slotName lsn .written⟩
      | reset slotName expectedLsn newLsn force =>
        simp only [call, InMemoryCheckpointStore.call, reset_eq]
        cases h : store.toInMemory.reset slotName expectedLsn newLsn force with
        | error => simp [h, toInMemory, Except.isOk, Except.toBool]
        | ok m => simp only [h]; split <;> exact ⟨rfl, rfl⟩
    obtain ⟨ih1, ih2⟩ := ih (store.call c .written).2
    simp only [List.map_cons, run, InMemoryCheckpointStore.run, ih1, ih2, hcall.1, ← hcall.2, and_self]

/-- A reset that returns normally, whatever its write did, passed the in-memory store's guard. -/
theorem reset_ok_of_ok {store : PersistentCheckpointStore} {slotName : String}
    {expectedLsn newLsn : Option Int} {force : Bool} {outcome : WriteOutcome}
    (h : (store.reset slotName expectedLsn newLsn force outcome).1 = .ok ()) :
    ∃ m, store.toInMemory.reset slotName expectedLsn newLsn force = .ok m := by
  rw [reset_eq] at h
  split at h
  · cases h
  · exact ⟨_, ‹_›⟩

/-- Whatever its writes do, the persistent store keeps the dict the in-memory store keeps on the
same calls: a call that passed its guard has changed the dict although its write raised. -/
theorem run_toInMemory (store : PersistentCheckpointStore) (history : List (CheckpointCall × WriteOutcome)) :
    (store.run history).2.toInMemory = (store.toInMemory.run (history.map Prod.fst)).2 := by
  induction history generalizing store with
  | nil => rfl
  | cons co cs ih =>
    obtain ⟨c, outcome⟩ := co
    have hcall : (store.call c outcome).2.toInMemory = (store.toInMemory.call c).2 := by
      cases c with
      | save slotName lsn => exact store.save_toInMemory slotName lsn outcome
      | reset slotName expectedLsn newLsn force =>
        simp only [call, InMemoryCheckpointStore.call, reset_eq]
        cases h : store.toInMemory.reset slotName expectedLsn newLsn force with
        | error => rfl
        | ok m =>
          dsimp only
          split
          · rfl
          · exact congrArg InMemoryCheckpointStore.mk (writeLocked_positions _ outcome)
    simp only [run, List.map_cons, InMemoryCheckpointStore.run, ih, hcall]

end PersistentCheckpointStore

/-- For every sequence of calls, the in-memory store leaves for each slot the largest position
saved since the last reset that returned normally, starting from that reset's new position or from
the position held before the sequence.  The persistent store, whatever its writes do, leaves the
position the same law gives when every call that passed its guard counts as returned: a reset whose
write raised still counts.  A reset without `force` that returns normally, on either store and
whatever its write did, named the stored position and did not raise it; and a save never lowers a
position. -/
theorem load_follows_guarded_calls :
    (∀ (store : InMemoryCheckpointStore) (calls : List CheckpointCall) (slotName : String),
      (store.run calls).2.load slotName =
        referencePosition slotName (store.load slotName) (calls.zip (store.run calls).1)) ∧
    (∀ (store : PersistentCheckpointStore) (history : List (CheckpointCall × WriteOutcome)) (slotName : String),
      (store.run history).2.load slotName = referencePosition slotName (store.load slotName)
        ((history.map Prod.fst).zip (store.toInMemory.run (history.map Prod.fst)).1)) ∧
    (∀ (store store' : InMemoryCheckpointStore) (slotName : String) (expectedLsn newLsn : Option Int) (c : Int),
      store.load slotName = some c → store.reset slotName expectedLsn newLsn false = .ok store' →
        expectedLsn = some c ∧ ∀ lsn ∈ newLsn, lsn ≤ c) ∧
    (∀ (store : PersistentCheckpointStore) (slotName : String) (expectedLsn newLsn : Option Int)
      (outcome : WriteOutcome) (c : Int), store.load slotName = some c →
        (store.reset slotName expectedLsn newLsn false outcome).1 = .ok () →
        expectedLsn = some c ∧ ∀ lsn ∈ newLsn, lsn ≤ c) ∧
    (∀ (store : PersistentCheckpointStore) (slotName : String) (lsn : Int) (outcome : WriteOutcome) (c : Int),
      store.load slotName = some c → ∃ c', (store.save slotName lsn outcome).2.load slotName = some c' ∧ c ≤ c') := by
  refine ⟨InMemoryCheckpointStore.load_run, fun store history slotName ↦ ?_, fun _ _ _ _ _ _ hc h ↦
    InMemoryCheckpointStore.reset_guard hc h, fun store slotName _ _ _ c hc h ↦ ?_, fun store slotName lsn outcome c hc ↦ ?_⟩
  · rw [← PersistentCheckpointStore.toInMemory_load, PersistentCheckpointStore.run_toInMemory,
      InMemoryCheckpointStore.load_run]
    rfl
  · obtain ⟨m, hm⟩ := PersistentCheckpointStore.reset_ok_of_ok h
    have hc' : store.toInMemory.load slotName = some c := hc
    exact InMemoryCheckpointStore.reset_guard hc' hm
  · refine ⟨max lsn c, ?_, le_max_right lsn c⟩
    rw [← PersistentCheckpointStore.toInMemory_load, PersistentCheckpointStore.save_toInMemory,
      InMemoryCheckpointStore.load_save_self]
    simp [hc]

/-- A reset of the persistent store passes its guard, stores its position and then fails to write:
it raises, yet the position is the new one, where the last reset that returned normally leaves 100. -/
theorem failed_reset_write_keeps_new_position :
    let calls := [CheckpointCall.save "uns_meta_slot" 100, .reset "uns_meta_slot" (some 100) (some 50) false]
    let r := (PersistentCheckpointStore.mk [] none).run
      (calls.zip [.written, .failed "[Errno 28] No space left on device"])
    r.1 = [true, false] ∧ r.2.load "uns_meta_slot" = some 50 ∧
      referencePosition "uns_meta_slot" none (calls.zip r.1) = some 100 :=
  ⟨by decide, (load_follows_guarded_calls.2.1 (PersistentCheckpointStore.mk [] none) _ "uns_meta_slot").trans
    (by decide), by decide⟩

end UnsMetadataSync.Cdc.Checkpoint
