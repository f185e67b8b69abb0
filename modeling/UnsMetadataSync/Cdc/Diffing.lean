import UnsMetadataSync.Json

/-!
# Diff aggregation

`cdc/diffing.py` merges the diff events of one metric path.  `DiffAccumulator.apply` drops an
event whose id it has seen, and otherwise appends it to the path's `AggregatedDiff`, where each
changed key keeps the value of the highest version that set it (the later event among equal
versions); after any sequence of events, a path's entry holds its events with new ids, and each
key of its snapshot the value of that rule (`snapshot_of_extend`).  `pop` removes a path and returns its snapshot: the versions and actors in version
order, and the merged changes.

An `AggregatedDiff` is created for its first event, so its event list is never empty and its
snapshot is total; the code's `ordered_events[-1]` cannot fail.
-/

namespace UnsMetadataSync.Cdc.Diffing

open Json

/-- `DiffEvent`; `timestamp` is the formatted `changed_at`. -/
structure DiffEvent where
  eventId : String
  unsPath : String
  version : Int
  actor : String
  changes : List (String × JsonValue)
  timestamp : String

/-- `AggregatedDiff`: the events of one path, in arrival order, and the merged changes with the
version that set each. -/
structure AggregatedDiff where
  unsPath : String
  events : List DiffEvent
  mergedChanges : List (String × Int × JsonValue)
  events_ne_nil : events ≠ []

/-- The merge of one event's changes into `merged`. -/
def mergeChanges (version : Int) (changes : List (String × JsonValue))
    (merged : List (String × Int × JsonValue)) : List (String × Int × JsonValue) :=
  changes.foldl (fun merged (key, value) ↦
    match merged.lookup key with
    | some (current, _) => if current ≤ version then setItem merged key (version, value) else merged
    | none => setItem merged key (version, value)) merged

namespace AggregatedDiff

/-- `AggregatedDiff(uns_path=...)` followed by the `append` of its first event. -/
def create (event : DiffEvent) : AggregatedDiff :=
  ⟨event.unsPath, [event], mergeChanges event.version event.changes [], List.cons_ne_nil _ _⟩

/-- `append`. -/
def append (entry : AggregatedDiff) (event : DiffEvent) : AggregatedDiff :=
  ⟨entry.unsPath, entry.events ++ [event], mergeChanges event.version event.changes entry.mergedChanges,
    by simp⟩

/-- The events in version order; `sorted` is stable. -/
def orderedEvents (entry : AggregatedDiff) : List DiffEvent :=
  entry.events.mergeSort fun a b ↦ a.version ≤ b.version

end AggregatedDiff

/-- The dict `to_snapshot` returns. -/
structure Snapshot where
  unsPath : String
  versions : List Int
  latestVersion : Int
  previousVersion : Option Int
  latestActor : String
  actors : List String
  timestamps : List String
  changes : List (String × JsonValue)

theorem AggregatedDiff.orderedEvents_ne_nil (entry : AggregatedDiff) : entry.orderedEvents ≠ [] := by
  intro h
  have hlen := (List.mergeSort_perm entry.events fun a b ↦ decide (a.version ≤ b.version)).length_eq
  rw [orderedEvents] at h
  rw [h, List.length_nil] at hlen
  exact entry.events_ne_nil (List.length_eq_zero.1 hlen.symm)

/-- `to_snapshot`. -/
def AggregatedDiff.toSnapshot (entry : AggregatedDiff) : Snapshot :=
  let ordered := entry.orderedEvents
  let latest := ordered.getLast entry.orderedEvents_ne_nil
  { unsPath := entry.unsPath
    versions := ordered.map (·.version)
    latestVersion := latest.version
    previousVersion := if 1 < ordered.length then (ordered.get? (ordered.length - 2)).map (·.version)
      else none
    latestActor := latest.actor
    actors := ordered.map (·.actor)
    timestamps := ordered.map (·.timestamp)
    changes := entry.mergedChanges.map fun (key, _, value) ↦ (key, value) }

/-- `DiffAccumulator`: the entries by path in insertion order, and the ids of the events seen. -/
structure DiffAccumulator where
  entries : List (String × AggregatedDiff)
  seenEventIds : List String

namespace DiffAccumulator

def empty : DiffAccumulator := ⟨[], []⟩

/-- `apply`: whether the event was new, and the accumulator after it. -/
def apply (acc : DiffAccumulator) (event : DiffEvent) : Bool × DiffAccumulator :=
  if event.eventId ∈ acc.seenEventIds then (false, acc)
  else
    let entry := match acc.entries.lookup event.unsPath with
      | some entry => entry.append event
      | none => AggregatedDiff.create event
    (true, ⟨setItem acc.entries event.unsPath entry, acc.seenEventIds ++ [event.eventId]⟩)

/-- An event whose id was seen is refused and changes nothing. -/
theorem apply_of_mem {acc : DiffAccumulator} {event : DiffEvent} (h : event.eventId ∈ acc.seenEventIds) :
    acc.apply event = (false, acc) :=
  if_pos h

/-- `pop`: the snapshot of the path's entry, which is removed. -/
def pop (acc : DiffAccumulator) (unsPath : String) : Option Snapshot × DiffAccumulator :=
  match acc.entries.lookup unsPath with
  | none => (none, acc)
  | some entry => (some entry.toSnapshot, { acc with entries := acc.entries.filter (·.1 != unsPath) })

end DiffAccumulator

/-! ## What the merged changes hold -/

/-- The version and value a key ends up with when an event of `version` writes `value` over
what the key held: the higher version wins, and an equal one replaces. -/
def pick (version : Int) (value : JsonValue) : Option (Int × JsonValue) → Option (Int × JsonValue)
  | some (current, old) => if current ≤ version then some (version, value) else some (current, old)
  | none => some (version, value)

theorem lookup_mergeChanges (version : Int) (changes : List (String × JsonValue))
    (merged : List (String × Int × JsonValue)) (k : String) :
    (mergeChanges version changes merged).lookup k =
      (changes.reverse.lookup k).elim (merged.lookup k) fun value ↦ pick version value (merged.lookup k) := by
  induction changes generalizing merged with
  | nil => rfl
  | cons kv changes ih =>
    obtain ⟨k', value'⟩ := kv
    change (mergeChanges version changes _).lookup k = _
    rw [ih, List.reverse_cons, lookup_append]
    dsimp only
    by_cases hk : k = k'
    · subst hk
      rcases h : merged.lookup k with _ | ⟨current, old⟩ <;>
        rcases hl : changes.reverse.lookup k with _ | value
      · simp [h, hl, lookup_setItem, pick]
      · simp [h, hl, lookup_setItem, pick]
      · by_cases hc : current ≤ version <;> simp [h, hl, hc, lookup_setItem, pick]
      · by_cases hc : current ≤ version <;> simp [h, hl, hc, lookup_setItem, pick]
    · split
      · split_ifs <;> simp [lookup_setItem, hk]
      · simp [lookup_setItem, hk]

theorem pick_ne_none (version : Int) (value : JsonValue) (x : Option (Int × JsonValue)) :
    pick version value x ≠ none := by
  rcases x with _ | ⟨current, old⟩
  · simp [pick]
  · simp only [pick]; split_ifs <;> simp

/-- The merge of the changes of `events`, applied in order to an empty dict. -/
def mergeAll (events : List DiffEvent) : List (String × Int × JsonValue) :=
  events.foldl (fun merged e ↦ mergeChanges e.version e.changes merged) []

theorem mergeAll_concat (events : List DiffEvent) (e : DiffEvent) :
    mergeAll (events ++ [e]) = mergeChanges e.version e.changes (mergeAll events) := by
  simp [mergeAll, List.foldl_append]

theorem lookup_reverse_eq_none {changes : List (String × JsonValue)} {k : String} :
    changes.reverse.lookup k = none ↔ k ∉ changes.map Prod.fst := by
  rw [lookup_eq_none, List.map_reverse, List.mem_reverse]

/-- A key is absent from the merge exactly when no event writes it. -/
theorem lookup_mergeAll_eq_none (events : List DiffEvent) (k : String) :
    (mergeAll events).lookup k = none ↔ ∀ e ∈ events, k ∉ e.changes.map Prod.fst := by
  induction events using List.reverseRecOn with
  | nil => simp [mergeAll]
  | append_singleton events e ih =>
    rw [mergeAll_concat, lookup_mergeChanges]
    rcases hl : e.changes.reverse.lookup k with _ | value
    · rw [Option.elim, ih, List.forall_mem_append, List.forall_mem_singleton]
      exact (and_iff_left (lookup_reverse_eq_none.1 hl)).symm
    · have hk : k ∈ e.changes.map Prod.fst := by
        by_contra h; rw [lookup_reverse_eq_none.2 h] at hl; cases hl
      simp only [Option.elim, pick_ne_none, false_iff, not_forall]
      exact ⟨e, List.mem_append_right _ (List.mem_singleton_self e), not_not.2 hk⟩

/-- A key in the merge holds the value of the last event among those of the highest version
that write it. -/
theorem lookup_mergeAll_eq_some {events : List DiffEvent} {k : String} {version : Int}
    {value : JsonValue} (h : (mergeAll events).lookup k = some (version, value)) :
    ∃ pre e post, events = pre ++ e :: post ∧ e.version = version ∧
      e.changes.reverse.lookup k = some value ∧
      (∀ e' ∈ pre, k ∈ e'.changes.map Prod.fst → e'.version ≤ version) ∧
      ∀ e' ∈ post, k ∈ e'.changes.map Prod.fst → e'.version < version := by
  induction events using List.reverseRecOn generalizing version value with
  | nil => simp [mergeAll] at h
  | append_singleton events e ih =>
    rw [mergeAll_concat, lookup_mergeChanges] at h
    rcases hl : e.changes.reverse.lookup k with _ | new
    · rw [hl] at h
      obtain ⟨pre, e₀, post, rfl, hv, hval, hpre, hpost⟩ := ih h
      refine ⟨pre, e₀, post ++ [e], by simp, hv, hval, hpre, fun e' he' hk ↦ ?_⟩
      rcases List.mem_append.1 he' with he' | he'
      · exact hpost e' he' hk
      · rw [List.mem_singleton.1 he'] at hk; exact absurd hk (lookup_reverse_eq_none.1 hl)
    · rw [hl] at h
      rcases hm : (mergeAll events).lookup k with _ | ⟨current, old⟩ <;> rw [hm] at h
      · simp only [Option.elim, pick, Option.some.injEq, Prod.mk.injEq] at h
        obtain ⟨rfl, rfl⟩ := h
        exact ⟨events, e, [], rfl, rfl, hl, fun e' he' hk ↦
          absurd hk ((lookup_mergeAll_eq_none events k).1 hm e' he'), by simp⟩
      · obtain ⟨pre, e₀, post, hev, hv, hval, hpre, hpost⟩ := ih hm
        have hmax : ∀ e' ∈ events, k ∈ e'.changes.map Prod.fst → e'.version ≤ current := by
          intro e' he' hk
          rw [hev] at he'
          rcases List.mem_append.1 he' with he' | he'
          · exact hpre e' he' hk
          · rcases List.mem_cons.1 he' with rfl | he'
            · exact hv.le
            · exact (hpost e' he' hk).le
        simp only [Option.elim, pick] at h
        split_ifs at h with hc
        · simp only [Option.some.injEq, Prod.mk.injEq] at h
          obtain ⟨rfl, rfl⟩ := h
          exact ⟨events, e, [], rfl, rfl, hl, fun e' he' hk ↦ (hmax e' he' hk).trans hc, by simp⟩
        · simp only [Option.some.injEq, Prod.mk.injEq] at h
          obtain ⟨rfl, rfl⟩ := h
          refine ⟨pre, e₀, post ++ [e], by simp [hev], hv, hval, hpre, fun e' he' hk ↦ ?_⟩
          rcases List.mem_append.1 he' with he' | he'
          · exact hpost e' he' hk
          · rw [List.mem_singleton.1 he']; exact lt_of_not_le hc

/-! ## Runs of the accumulator -/

namespace DiffAccumulator

/-- `extend`: `apply` each event in order; the number applied. -/
def extend (acc : DiffAccumulator) : List DiffEvent → Nat × DiffAccumulator
  | [] => (0, acc)
  | e :: es =>
    let applied := acc.apply e
    let rest := applied.2.extend es
    ((if applied.1 then 1 else 0) + rest.1, rest.2)

@[simp] theorem extend_nil_snd (acc : DiffAccumulator) : (acc.extend []).2 = acc := rfl

@[simp] theorem extend_cons_snd (acc : DiffAccumulator) (e : DiffEvent) (es : List DiffEvent) :
    (acc.extend (e :: es)).2 = ((acc.apply e).2.extend es).2 := rfl

theorem seenEventIds_apply (acc : DiffAccumulator) (e : DiffEvent) :
    (acc.apply e).2.seenEventIds =
      if e.eventId ∈ acc.seenEventIds then acc.seenEventIds else acc.seenEventIds ++ [e.eventId] := by
  unfold apply
  split_ifs <;> rfl

/-- The events of the entry of `u`; none when there is no entry. -/
def eventsOf (acc : DiffAccumulator) (u : String) : List DiffEvent :=
  ((acc.entries.lookup u).map (·.events)).getD []

theorem eventsOf_apply (acc : DiffAccumulator) (e : DiffEvent) (u : String) :
    eventsOf (acc.apply e).2 u =
      if e.eventId ∈ acc.seenEventIds then eventsOf acc u
      else eventsOf acc u ++ if e.unsPath = u then [e] else [] := by
  unfold apply
  by_cases hseen : e.eventId ∈ acc.seenEventIds
  · simp only [if_pos hseen]
  · simp only [if_neg hseen]
    by_cases hu : u = e.unsPath
    · subst hu
      simp only [eventsOf, lookup_setItem, if_true]
      split <;> simp [AggregatedDiff.append, AggregatedDiff.create, *]
    · simp [eventsOf, lookup_setItem, hu, Ne.symm hu]

end DiffAccumulator

/-- The events `apply` accepts from `events`, in order, after the ids `seen`. -/
def newEvents (seen : List String) : List DiffEvent → List DiffEvent
  | [] => []
  | e :: es => if e.eventId ∈ seen then newEvents seen es else e :: newEvents (seen ++ [e.eventId]) es

namespace DiffAccumulator

/-- Each path's entry collects the path's events whose id was new, in the order applied. -/
theorem eventsOf_extend (acc : DiffAccumulator) (events : List DiffEvent) (u : String) :
    eventsOf (acc.extend events).2 u =
      eventsOf acc u ++ (newEvents acc.seenEventIds events).filter (·.unsPath == u) := by
  induction events generalizing acc with
  | nil => simp [newEvents]
  | cons e es ih =>
    rw [extend_cons_snd, ih, eventsOf_apply, seenEventIds_apply]
    by_cases hseen : e.eventId ∈ acc.seenEventIds
    · simp [newEvents, hseen]
    · by_cases hu : e.unsPath = u <;> simp [newEvents, hseen, hu]

/-- Every entry holds its own path, and its merged changes are those of its events. -/
def Built (acc : DiffAccumulator) : Prop :=
  ∀ u entry, acc.entries.lookup u = some entry → entry.unsPath = u ∧ entry.mergedChanges = mergeAll entry.events

theorem built_empty : Built .empty := fun _ _ h ↦ by cases h

theorem Built.apply {acc : DiffAccumulator} (h : Built acc) (e : DiffEvent) : Built (acc.apply e).2 := by
  unfold DiffAccumulator.apply
  split_ifs
  · exact h
  · intro u entry hu
    rw [lookup_setItem] at hu
    split_ifs at hu with hue
    · subst hue
      simp only [Option.some.injEq] at hu
      subst hu
      split
      · next old hold =>
        obtain ⟨hpath, hmerged⟩ := h _ _ hold
        exact ⟨hpath, by simp [AggregatedDiff.append, hmerged, mergeAll_concat]⟩
      · exact ⟨rfl, rfl⟩
    · exact h u entry hu

theorem Built.extend {acc : DiffAccumulator} (h : Built acc) (events : List DiffEvent) :
    Built (acc.extend events).2 := by
  induction events generalizing acc with
  | nil => exact h
  | cons e es ih => exact ih (h.apply e)

end DiffAccumulator

theorem AggregatedDiff.toSnapshot_changes (entry : AggregatedDiff) (k : String) :
    entry.toSnapshot.changes.lookup k = (entry.mergedChanges.lookup k).map Prod.snd :=
  lookup_map_snd entry.mergedChanges Prod.snd k

/-- After any sequence of `apply` calls, the entry of a path holds the path's events whose id was
new, in the order applied; a key is absent from its snapshot's changes exactly when none of them
writes it, and otherwise holds the value of the last of those with the highest version. -/
theorem snapshot_of_extend (events : List DiffEvent) (u : String) {entry : AggregatedDiff}
    (h : (DiffAccumulator.empty.extend events).2.entries.lookup u = some entry) :
    entry.events = (newEvents [] events).filter (·.unsPath == u) ∧ entry.toSnapshot.unsPath = u ∧
      ∀ k, (entry.toSnapshot.changes.lookup k = none ↔ ∀ e ∈ entry.events, k ∉ e.changes.map Prod.fst) ∧
        ∀ value, entry.toSnapshot.changes.lookup k = some value →
          ∃ pre e post, entry.events = pre ++ e :: post ∧ e.changes.reverse.lookup k = some value ∧
            (∀ e' ∈ pre, k ∈ e'.changes.map Prod.fst → e'.version ≤ e.version) ∧
            ∀ e' ∈ post, k ∈ e'.changes.map Prod.fst → e'.version < e.version := by
  have hevents := DiffAccumulator.eventsOf_extend .empty events u
  simp only [DiffAccumulator.eventsOf, h, Option.map_some', Option.getD_some] at hevents
  obtain ⟨hpath, hmerged⟩ := DiffAccumulator.built_empty.extend events u entry h
  refine ⟨hevents.trans (by rfl), hpath, fun k ↦ ⟨?_, fun value hv ↦ ?_⟩⟩
  · rw [AggregatedDiff.toSnapshot_changes, hmerged, Option.map_eq_none', lookup_mergeAll_eq_none]
  · rw [AggregatedDiff.toSnapshot_changes, hmerged, Option.map_eq_some'] at hv
    obtain ⟨⟨version, value'⟩, hl, rfl⟩ := hv
    obtain ⟨pre, e, post, hev, rfl, hval, hpre, hpost⟩ := lookup_mergeAll_eq_some hl
    exact ⟨pre, e, post, hev, hval, hpre, hpost⟩

/-! ## Two events of one version -/

/-- Two events of one path with the same version that write the same key. -/
def tieFirst : DiffEvent := ⟨"a", "G/E/D/m", 5, "alice", [("displayHigh", .int 1800)], "2024-05-01T10:00:00Z"⟩

def tieSecond : DiffEvent := ⟨"b", "G/E/D/m", 5, "bob", [("displayHigh", .int 1900)], "2024-05-01T10:00:01Z"⟩

/-- Both events of the tie are kept in the path's entry, in the order applied. -/
theorem snapshot_of_extend_tie :
    ∃ entry, (DiffAccumulator.empty.extend [tieFirst, tieSecond]).2.entries.lookup "G/E/D/m" = some entry ∧
      entry.events = [tieFirst, tieSecond] :=
  have h : (DiffAccumulator.empty.extend [tieFirst, tieSecond]).2.entries.lookup "G/E/D/m" =
      some ((AggregatedDiff.create tieFirst).append tieSecond) := by
    with_unfolding_all rfl
  ⟨_, h, (snapshot_of_extend _ _ h).1.trans (by with_unfolding_all rfl)⟩

/-- The snapshot keeps the value of the later of two events with equal versions. -/
theorem tied_versions_keep_later_value :
    ((DiffAccumulator.empty.extend [tieFirst, tieSecond]).2.pop "G/E/D/m").1.map
      (fun s ↦ (s.versions, s.changes)) = some ([5, 5], [("displayHigh", .int 1900)]) := by
  with_unfolding_all rfl

end UnsMetadataSync.Cdc.Diffing
