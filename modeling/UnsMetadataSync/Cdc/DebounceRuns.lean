import UnsMetadataSync.Cdc.Debounce

/-!
# Runs of the debounce buffer

What an entry that `flush_due` hands out is made of.  Along any run of `add` and `flush_due`
calls, with any timestamps, each pending entry is the merge of the adds of its key since the key
last left the buffer (by a flush or by `_enforce_cap`).  The run below keeps that list of adds
beside the buffer; the code keeps no such record.

The merged diff holds, for each key, the value of the last add that wrote it, the version is the
highest one given, and the actor the last non-empty one.  The entry's `last_update` is the
timestamp of the last add, and `flush_due(now)` hands the entry out once `now` is
`window_seconds` past it: past the maximum timestamp only when the adds came in timestamp order.
-/

namespace UnsMetadataSync.Cdc.DebounceRuns

open Json Debounce

/-! ## The adds merged into an entry -/

/-- The arguments of one `add` call; `timestamp` is the explicit one or the clock reading. -/
structure AddCall where
  metricKey : String
  diff : List (String × JsonValue)
  version : Option Int
  actor : Option String
  eventId : Option String
  timestamp : ℚ
  extras : Option Extras

/-- The entry `add` creates for a key it does not hold. -/
def fresh (metricKey : String) (now : ℚ) : DebounceEntry :=
  ⟨metricKey, now, now, [], none, none, [], none⟩

/-- `entry.merge(...)` with the arguments of one call. -/
def mergeCall (entry : DebounceEntry) (c : AddCall) : DebounceEntry :=
  entry.merge c.diff c.version c.actor c.eventId c.timestamp c.extras

/-- The entry the adds `first :: rest` build: the first creates it, each one merges into it. -/
def mergedEntry (first : AddCall) (rest : List AddCall) : DebounceEntry :=
  rest.foldl mergeCall (mergeCall (fresh first.metricKey first.timestamp) first)

/-- The actor an add contributes: a non-empty one. -/
def AddCall.namedActor (c : AddCall) : Option String :=
  c.actor.filter fun a ↦ !a.isEmpty

theorem mergedEntry_concat (first : AddCall) (rest : List AddCall) (c : AddCall) :
    mergedEntry first (rest ++ [c]) = mergeCall (mergedEntry first rest) c := by
  simp [mergedEntry, List.foldl_append]

@[simp] theorem mergeCall_metricKey (entry : DebounceEntry) (c : AddCall) :
    (mergeCall entry c).metricKey = entry.metricKey := rfl

@[simp] theorem mergeCall_firstSeen (entry : DebounceEntry) (c : AddCall) :
    (mergeCall entry c).firstSeen = entry.firstSeen := rfl

@[simp] theorem mergeCall_lastUpdate (entry : DebounceEntry) (c : AddCall) :
    (mergeCall entry c).lastUpdate = c.timestamp := rfl

/-- `version >= self.version` keeps the larger version. -/
theorem mergeCall_version (entry : DebounceEntry) (c : AddCall) :
    (mergeCall entry c).version = Option.merge max entry.version c.version := by
  rcases hv : c.version with _ | v <;> rcases he : entry.version with _ | cur <;>
    simp only [mergeCall, DebounceEntry.merge, hv, he, Option.merge, max_def]
  split_ifs <;> rfl

theorem mergeCall_actor (entry : DebounceEntry) (c : AddCall) :
    (mergeCall entry c).actor = c.namedActor.or entry.actor := by
  rcases ha : c.actor with _ | a
  · simp [mergeCall, DebounceEntry.merge, AddCall.namedActor, ha]
  · by_cases hempty : a.isEmpty <;>
      simp [mergeCall, DebounceEntry.merge, AddCall.namedActor, Option.filter, ha, hempty]

/-- Writing a diff key by key: a key's value is its last one in the diff, else the old one. -/
theorem lookup_foldl_setItem (diff payload : List (String × JsonValue)) (x : String) :
    (diff.foldl (fun payload (key, value) ↦ setItem payload key value) payload).lookup x =
      (diff.reverse.lookup x).or (payload.lookup x) := by
  induction diff generalizing payload with
  | nil => simp
  | cons kv diff ih =>
    obtain ⟨k, v⟩ := kv
    rw [List.foldl_cons, ih, List.reverse_cons, lookup_append, lookup_setItem, Option.or_assoc]
    by_cases hx : x = k <;> simp [hx]

theorem mergeCall_payload (entry : DebounceEntry) (c : AddCall) (x : String) :
    (mergeCall entry c).payload.lookup x = (c.diff.reverse.lookup x).or (entry.payload.lookup x) :=
  lookup_foldl_setItem _ _ x

theorem max?_concat {α : Type} [Max α] (l : List α) (a : α) :
    (l ++ [a]).max? = Option.merge max l.max? (some a) := by
  cases l <;> simp [List.max?_cons', List.foldl_append, Option.merge]

/-! ## The merged entry, field by field -/

section Merged

variable (first : AddCall) (rest : List AddCall)

theorem mergedEntry_metricKey : (mergedEntry first rest).metricKey = first.metricKey := by
  induction rest using List.reverseRecOn with
  | nil => rfl
  | append_singleton rest c ih => rw [mergedEntry_concat, mergeCall_metricKey, ih]

/-- `last_update` is the timestamp of the last add, whatever the earlier ones were. -/
theorem mergedEntry_lastUpdate :
    (mergedEntry first rest).lastUpdate = ((first :: rest).getLast (List.cons_ne_nil _ _)).timestamp := by
  induction rest using List.reverseRecOn with
  | nil => rfl
  | append_singleton rest c ih => simp [mergedEntry_concat]

/-- The version is the highest version given. -/
theorem mergedEntry_version :
    (mergedEntry first rest).version = ((first :: rest).filterMap (·.version)).max? := by
  induction rest using List.reverseRecOn with
  | nil =>
    rcases hv : first.version with _ | v <;>
      simp [mergedEntry, mergeCall_version, fresh, hv, Option.merge]
  | append_singleton rest c ih =>
    rw [mergedEntry_concat, mergeCall_version, ih, ← List.cons_append, List.filterMap_append]
    rcases hv : c.version with _ | v
    · rcases hm : ((first :: rest).filterMap (·.version)).max? <;> simp [hv, hm, Option.merge]
    · simp [hv, max?_concat]

/-- The actor is the last non-empty actor given. -/
theorem mergedEntry_actor :
    (mergedEntry first rest).actor = ((first :: rest).filterMap (·.namedActor)).getLast? := by
  induction rest using List.reverseRecOn with
  | nil => rcases hv : first.namedActor with _ | a <;> simp [mergedEntry, mergeCall_actor, fresh, hv]
  | append_singleton rest c ih =>
    rw [mergedEntry_concat, mergeCall_actor, ih, ← List.cons_append, List.filterMap_append,
      List.getLast?_append]
    rcases hc : c.namedActor with _ | a <;> simp [hc]

/-- The diff holds, for each key, the value of the last add that wrote it. -/
theorem mergedEntry_payload (x : String) :
    (mergedEntry first rest).payload.lookup x = ((first :: rest).flatMap (·.diff)).reverse.lookup x := by
  induction rest using List.reverseRecOn with
  | nil => simp [mergedEntry, mergeCall_payload, fresh]
  | append_singleton rest c ih =>
    rw [mergedEntry_concat, mergeCall_payload, ih, ← List.cons_append, List.flatMap_append,
      List.reverse_append, lookup_append]
    simp

end Merged

/-! ## Runs, with the adds of each pending entry -/

/-- A call on the buffer. -/
inductive Call where
  | add (c : AddCall)
  | flushDue (now : ℚ)

/-- An entry `flush_due(now)` handed out, with the adds merged into it. -/
structure Emission where
  now : ℚ
  entry : FlushedEntry
  adds : List AddCall

/-- `add` with the arguments of one call. -/
def addCall (b : DebounceBuffer) (c : AddCall) : DebounceBuffer :=
  b.add c.metricKey c.diff c.version c.actor c.eventId c.timestamp c.extras

/-- The adds of the keys that `entries` still holds. -/
def keep (entries : List (String × DebounceEntry)) (adds : String → List AddCall) (k : String) :
    List AddCall :=
  if (entries.lookup k).isSome then adds k else []

/-- The buffer, and the adds merged into each of its pending entries. -/
structure Tracked where
  buffer : DebounceBuffer
  adds : String → List AddCall

namespace Tracked

/-- A new buffer, with no adds. -/
def initial (windowSeconds : ℚ) (maxEntries : Nat) (windowSeconds_pos : 0 < windowSeconds)
    (maxEntries_pos : 0 < maxEntries) : Tracked :=
  ⟨.create windowSeconds maxEntries windowSeconds_pos maxEntries_pos, fun _ ↦ []⟩

/-- One call: an add is recorded under its key, and a key that leaves the buffer loses its
adds. -/
def step (t : Tracked) : Call → List Emission × Tracked
  | .add c =>
    let buffer := addCall t.buffer c
    ([], ⟨buffer, keep buffer.entries (Function.update t.adds c.metricKey (t.adds c.metricKey ++ [c]))⟩)
  | .flushDue now =>
    let (ready, buffer) := t.buffer.flushDue now
    (ready.map fun entry ↦ ⟨now, entry, t.adds entry.metric⟩, ⟨buffer, keep buffer.entries t.adds⟩)

/-- A run of calls: the emissions in order, and the final state. -/
def run (t : Tracked) : List Call → List Emission × Tracked
  | [] => ([], t)
  | call :: calls =>
    let (out, t) := t.step call
    let (out', t) := t.run calls
    (out ++ out', t)

end Tracked

/-- Each pending entry is the merge of the adds recorded for its key, all of that key, and a
key the buffer does not hold has none. -/
structure Matches (entries : List (String × DebounceEntry)) (adds : String → List AddCall) : Prop where
  nodup : (entries.map Prod.fst).Nodup
  entry : ∀ k e, entries.lookup k = some e → ∃ first rest, adds k = first :: rest ∧
    e = mergedEntry first rest ∧ ∀ c ∈ first :: rest, c.metricKey = k
  absent : ∀ k, entries.lookup k = none → adds k = []

/-- What a flush hands out: the merge of the adds of one key, `window_seconds` past the last. -/
def Sound (windowSeconds : ℚ) (em : Emission) : Prop :=
  ∃ first rest, em.adds = first :: rest ∧ (∀ c ∈ first :: rest, c.metricKey = em.entry.metric) ∧
    em.entry = (mergedEntry first rest).flushed ∧
    windowSeconds ≤ em.now - (mergedEntry first rest).lastUpdate

section Steps

variable {entries : List (String × DebounceEntry)} {adds : String → List AddCall}

theorem matches_nil : Matches [] fun _ ↦ [] :=
  ⟨List.nodup_nil, fun _ _ h ↦ (by cases h), fun _ _ ↦ rfl⟩

/-- Removing entries keeps the match, once the removed keys lose their adds. -/
theorem Matches.sublist (h : Matches entries adds) {entries' : List (String × DebounceEntry)}
    (hs : List.Sublist entries' entries) : Matches entries' (keep entries' adds) where
  nodup := h.nodup.sublist (hs.map Prod.fst)
  entry k e he := by
    simpa [keep, he] using
      h.entry k e (lookup_eq_some_of_mem h.nodup (hs.subset (mem_of_lookup_eq_some he)))
  absent k hk := by simp [keep, hk]

/-- Merging an add into its key's entry, before the cap is enforced. -/
theorem Matches.setItem (h : Matches entries adds) (c : AddCall) :
    Matches (Json.setItem entries c.metricKey
        (mergeCall ((entries.lookup c.metricKey).getD (fresh c.metricKey c.timestamp)) c))
      (Function.update adds c.metricKey (adds c.metricKey ++ [c])) where
  nodup := nodup_keys_setItem h.nodup _ _
  entry k e he := by
    rw [lookup_setItem] at he
    by_cases hk : k = c.metricKey
    · subst hk
      simp only [if_true, Option.some.injEq] at he
      subst he
      rw [Function.update_same]
      rcases hold : entries.lookup c.metricKey with _ | old
      · exact ⟨c, [], by rw [h.absent _ hold]; rfl, rfl, by simp⟩
      · obtain ⟨first, rest, hadds, rfl, hkeys⟩ := h.entry _ _ hold
        refine ⟨first, rest ++ [c], by rw [hadds]; rfl, (mergedEntry_concat _ _ _).symm, ?_⟩
        intro c' hc'
        rcases List.mem_append.1 (List.cons_append _ _ _ ▸ hc' : c' ∈ (first :: rest) ++ [c]) with h' | h'
        · exact hkeys c' h'
        · rw [List.mem_singleton.1 h']
    · rw [if_neg hk] at he
      rw [Function.update_noteq hk]
      exact h.entry k e he
  absent k hk := by
    rw [lookup_setItem] at hk
    by_cases hkc : k = c.metricKey
    · simp [hkc] at hk
    · rw [if_neg hkc] at hk
      rw [Function.update_noteq hkc, h.absent k hk]

end Steps

namespace Tracked

/-- The match of a tracked buffer. -/
def Inv (t : Tracked) : Prop := Matches t.buffer.entries t.adds

theorem inv_initial (windowSeconds : ℚ) (maxEntries : Nat) (hw : 0 < windowSeconds)
    (hm : 0 < maxEntries) : (initial windowSeconds maxEntries hw hm).Inv :=
  matches_nil

theorem Inv.add {t : Tracked} (h : t.Inv) (c : AddCall) : (t.step (.add c)).2.Inv :=
  (h.setItem c).sublist (DebounceBuffer.enforceCap_sublist _)

theorem Inv.flushDue {t : Tracked} (h : t.Inv) (now : ℚ) : (t.step (.flushDue now)).2.Inv :=
  Matches.sublist h (List.filter_sublist _)

/-- Every entry a flush hands out is the merge of its key's adds, `window_seconds` past the last
of them. -/
theorem Inv.sound_flushDue {t : Tracked} (h : t.Inv) (now : ℚ) :
    ∀ em ∈ (t.step (.flushDue now)).1, Sound t.buffer.windowSeconds em := by
  simp only [step, List.mem_map, List.mem_filter, DebounceBuffer.flushDue]
  rintro _ ⟨_, ⟨⟨k, e⟩, ⟨hmem, hready⟩, rfl⟩, rfl⟩
  obtain ⟨first, rest, hadds, rfl, hkeys⟩ := h.entry k _ (lookup_eq_some_of_mem h.nodup hmem)
  have hkey : (mergedEntry first rest).metricKey = k := by
    rw [mergedEntry_metricKey]; exact hkeys first (List.mem_cons_self _ _)
  refine ⟨first, rest, ?_, ?_, rfl, by simpa using hready⟩
  · simp only [DebounceEntry.flushed, hkey, hadds]
  · simpa [DebounceEntry.flushed, hkey] using hkeys

theorem step_windowSeconds (t : Tracked) (call : Call) :
    (t.step call).2.buffer.windowSeconds = t.buffer.windowSeconds := by
  cases call <;> rfl

/-- Along a run, the match is kept and every emission is sound. -/
theorem Inv.run {t : Tracked} (h : t.Inv) (calls : List Call) :
    (∀ em ∈ (t.run calls).1, Sound t.buffer.windowSeconds em) ∧ (t.run calls).2.Inv := by
  induction calls generalizing t with
  | nil => exact ⟨fun _ h ↦ (by cases h), h⟩
  | cons call calls ih =>
    have hstep : (∀ em ∈ (t.step call).1, Sound t.buffer.windowSeconds em) ∧ (t.step call).2.Inv := by
      cases call with
      | add c => exact ⟨fun _ h ↦ (by cases h), h.add c⟩
      | flushDue now => exact ⟨h.sound_flushDue now, h.flushDue now⟩
    obtain ⟨hout, hrest⟩ := ih hstep.2
    refine ⟨fun em hem ↦ ?_, hrest⟩
    rcases List.mem_append.1 hem with hem | hem
    · exact hstep.1 em hem
    · simpa [step_windowSeconds] using hout em hem

end Tracked

/-! ## What a flush hands out -/

/-- Along every run of `add` and `flush_due` calls on a new buffer, with any timestamps, every
entry handed out is made of the adds of its key since the key last left the buffer: its
`last_update` is the timestamp of the last of them, which the flush's `now` is at least
`window_seconds` past; its diff holds each key's last written value, its version is the highest
version and its actor the last non-empty one. -/
theorem flushed_entry_of_adds (windowSeconds : ℚ) (maxEntries : Nat) (hw : 0 < windowSeconds)
    (hm : 0 < maxEntries) (calls : List Call) :
    ∀ em ∈ ((Tracked.initial windowSeconds maxEntries hw hm).run calls).1,
      ∃ first rest, em.adds = first :: rest ∧ (∀ c ∈ em.adds, c.metricKey = em.entry.metric) ∧
        em.entry.lastUpdate = ((first :: rest).getLast (List.cons_ne_nil _ _)).timestamp ∧
        windowSeconds ≤ em.now - em.entry.lastUpdate ∧
        em.entry.version = (em.adds.filterMap (·.version)).max? ∧
        em.entry.actor = (em.adds.filterMap (·.namedActor)).getLast? ∧
        ∀ x, em.entry.diff.lookup x = (em.adds.flatMap (·.diff)).reverse.lookup x := by
  intro em hem
  obtain ⟨first, rest, hadds, hkeys, hentry, hready⟩ :=
    ((Tracked.inv_initial windowSeconds maxEntries hw hm).run calls).1 em hem
  refine ⟨first, rest, hadds, hadds ▸ hkeys, ?_⟩
  rw [hentry, hadds]
  exact ⟨mergedEntry_lastUpdate first rest, hready,
    mergedEntry_version first rest, mergedEntry_actor first rest, mergedEntry_payload first rest⟩

/-- An add at timestamp 10. -/
def earlyAdd : AddCall := ⟨"G/E/D/m", [("displayHigh", .int 1800)], some 7, some "alice", some "42:7", 10, none⟩

/-- A later add of the same key with an older explicit timestamp, 5. -/
def lateAdd : AddCall := ⟨"G/E/D/m", [("displayLow", .int 30)], some 8, some "bob", some "42:8", 5, none⟩

/-- The two adds, then a flush at 185. -/
def lateAddCalls : List Call := [.add earlyAdd, .add lateAdd, .flushDue 185]

/-- With a window of 180 s, `flush_due(now=185)` hands out the entry of both adds although the
add at 10 is only 175 s old: `merge` set `last_update` to the older timestamp 5. -/
theorem flush_inside_window_of_late_add :
    ∃ em ∈ ((Tracked.initial 180 10 (by with_unfolding_all decide) (by decide)).run lateAddCalls).1,
      em.entry.eventIds = ["42:7", "42:8"] ∧ em.entry.lastUpdate = 5 ∧
        ∃ c ∈ em.adds, c.eventId = some "42:7" ∧ em.now - c.timestamp < 180 := by
  have hrun : (((Tracked.initial 180 10 (by with_unfolding_all decide) (by decide)).run
      lateAddCalls).1.map fun em ↦ (em.now, em.entry.eventIds, em.adds)) =
      [(185, ["42:7", "42:8"], [earlyAdd, lateAdd])] := by
    with_unfolding_all rfl
  obtain ⟨em, hem, hf⟩ := List.mem_map.1 (hrun ▸ List.mem_singleton_self _)
  simp only [Prod.mk.injEq] at hf
  obtain ⟨hnow, hids, hadds⟩ := hf
  -- the entry's `last_update` is the timestamp of its last add, the late one
  obtain ⟨first, rest, hadds', -, hlast, -⟩ := flushed_entry_of_adds 180 10 _ _ lateAddCalls em hem
  obtain ⟨rfl, rfl⟩ := List.cons.inj (hadds ▸ hadds').symm
  refine ⟨em, hem, hids, hlast, earlyAdd, by rw [hadds]; exact List.mem_cons_self _ _, rfl, ?_⟩
  rw [hnow]
  with_unfolding_all decide

end UnsMetadataSync.Cdc.DebounceRuns
