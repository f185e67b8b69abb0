import UnsMetadataSync.Cdc.Service

/-!
# Versions reach the diff sink in ascending order

`_handle_change` turns a change of a metric into the event of the metric's latest version, named
`metric_id:version`.  The accumulator refuses an event whose id it has seen, and it never clears
the ids it has seen.  The metadata store only gains version rows, so a metric's latest version
never falls, and an event the accumulator takes has a version above every version it took for the
metric before.  A flush pops a path's whole entry, and `to_snapshot` lists that entry's events in
version order.  So, for a path that belongs to one metric, the versions of the payloads passed to
the diff sink, read in order, rise strictly over every interleaving of store writes, handled
changes and flushes (`emitted_versions_ascending`).

A write adds arbitrary version rows: their ids need not rise, since only the largest id of a
metric is read.  The metrics' identities are fixed for the run.
-/

namespace UnsMetadataSync.Cdc.VersionOrder

open Json Diffing Debounce Service

/-! ## The versions of a path -/

variable (metricId : Int) (unsPath : String)

/-- The versions of the path's entry in the accumulator, in arrival order. -/
def pendingVersions (acc : DiffAccumulator) : List Int :=
  ((acc.entries.lookup unsPath).map fun entry ↦ entry.events.map (·.version)).getD []

/-- The versions of the payloads passed to the diff sink for the path, in the order passed. -/
def emittedVersions (sent : List CdcPayload) : List Int :=
  (sent.filter (·.unsPath = unsPath)).flatMap (·.versions)

/-- The path belongs to the metric alone. -/
def OwnsPath (store : MetadataStore) : Prop :=
  ∀ identity ∈ store.identities, identity.unsPath = unsPath → identity.metricId = metricId

/-- Every entry of the accumulator sits under its own path. -/
def Keyed (acc : DiffAccumulator) : Prop :=
  ∀ k entry, acc.entries.lookup k = some entry → entry.unsPath = k

/-- What the service keeps for a path: the versions passed on so far, followed by the pending ones,
rise strictly; each has its event id seen and a row of the metric in the store. -/
structure OrderInv (store : MetadataStore) (acc : DiffAccumulator) (emitted : List Int) : Prop where
  ascending : (emitted ++ pendingVersions unsPath acc).Pairwise (· < ·)
  seen : ∀ v ∈ emitted ++ pendingVersions unsPath acc,
    toString metricId ++ ":" ++ toString v ∈ acc.seenEventIds
  stored : ∀ v ∈ emitted ++ pendingVersions unsPath acc,
    ∃ row ∈ store.versions, row.metricId = metricId ∧ row.versionId = v
  keyed : Keyed acc

theorem orderInv_empty (store : MetadataStore) : OrderInv metricId unsPath store .empty [] :=
  ⟨by simp [pendingVersions, DiffAccumulator.empty], by simp [pendingVersions, DiffAccumulator.empty],
    by simp [pendingVersions, DiffAccumulator.empty], fun _ _ h ↦ by cases h⟩

variable {metricId unsPath}

/-- The invariant reads the versions passed on and pending only through their concatenation. -/
theorem OrderInv.of_history {store : MetadataStore} {acc acc' : DiffAccumulator} {emitted emitted' : List Int}
    (h : OrderInv metricId unsPath store acc emitted)
    (hh : emitted' ++ pendingVersions unsPath acc' = emitted ++ pendingVersions unsPath acc)
    (hseen : acc'.seenEventIds = acc.seenEventIds) (hkeyed : Keyed acc') :
    OrderInv metricId unsPath store acc' emitted' :=
  ⟨hh ▸ h.ascending, hh ▸ hseen ▸ h.seen, hh ▸ h.stored, hkeyed⟩

/-- A write that only adds version rows keeps the invariant. -/
theorem OrderInv.write {store store' : MetadataStore} {acc : DiffAccumulator} {emitted : List Int}
    (h : OrderInv metricId unsPath store acc emitted) (hsub : store.versions ⊆ store'.versions) :
    OrderInv metricId unsPath store' acc emitted :=
  ⟨h.ascending, h.seen, fun v hv ↦ (h.stored v hv).imp fun _ ⟨hrow, hr⟩ ↦ ⟨hsub hrow, hr⟩, h.keyed⟩

/-! ## Handling a change -/

/-- The entry `apply` stores for a new event, under the event's path. -/
theorem lookup_apply {acc : DiffAccumulator} {event : DiffEvent} (hnew : event.eventId ∉ acc.seenEventIds)
    (k : String) :
    (acc.apply event).2.entries.lookup k =
      if k = event.unsPath then
        some ((acc.entries.lookup event.unsPath).elim (AggregatedDiff.create event) (·.append event))
      else acc.entries.lookup k := by
  simp only [DiffAccumulator.apply, if_neg hnew, lookup_setItem]
  congr 2
  cases acc.entries.lookup event.unsPath <;> rfl

theorem Keyed.apply {acc : DiffAccumulator} (h : Keyed acc) (event : DiffEvent) : Keyed (acc.apply event).2 := by
  by_cases hnew : event.eventId ∈ acc.seenEventIds
  · rwa [DiffAccumulator.apply_of_mem hnew]
  intro k entry hk
  rw [lookup_apply hnew] at hk
  split at hk
  · next hke =>
    cases hk
    cases he : acc.entries.lookup event.unsPath with
    | none => exact hke.symm
    | some entry => exact (h _ _ he).trans hke.symm
  · exact h k entry hk

/-- The pending versions after a new event: the event's version appended when it is the path's. -/
theorem pendingVersions_apply {acc : DiffAccumulator} {event : DiffEvent}
    (hnew : event.eventId ∉ acc.seenEventIds) :
    pendingVersions unsPath (acc.apply event).2 =
      if unsPath = event.unsPath then pendingVersions unsPath acc ++ [event.version]
      else pendingVersions unsPath acc := by
  unfold pendingVersions
  rw [lookup_apply hnew]
  split
  · next hp =>
    rw [← hp]
    cases acc.entries.lookup unsPath <;> simp [AggregatedDiff.create, AggregatedDiff.append]
  · rfl

theorem seenEventIds_apply_of_new {acc : DiffAccumulator} {event : DiffEvent}
    (hnew : event.eventId ∉ acc.seenEventIds) :
    (acc.apply event).2.seenEventIds = acc.seenEventIds ++ [event.eventId] := by
  simp [DiffAccumulator.apply, hnew]

/-- The event of the metric's latest version keeps the invariant: it is refused if its version was
taken before, and is above every version taken before otherwise. -/
theorem OrderInv.apply {store : MetadataStore} {acc : DiffAccumulator} {emitted : List Int}
    (h : OrderInv metricId unsPath store acc emitted) (hown : OwnsPath metricId unsPath store)
    {id : Int} {identity : MetricIdentity} {snapshot : MetricVersionSnapshot}
    (hid : getIdentity store id = some identity) (hsnap : getVersionSnapshot store id = some snapshot) :
    OrderInv metricId unsPath store (acc.apply (changeEvent id identity snapshot)).2 emitted := by
  set event := changeEvent id identity snapshot
  by_cases hnew : event.eventId ∈ acc.seenEventIds
  · rwa [DiffAccumulator.apply_of_mem hnew]
  have hseen := seenEventIds_apply_of_new hnew
  by_cases hp : unsPath = event.unsPath
  · obtain ⟨hmem, rfl⟩ := getIdentity_mem store hid
    have hown' : identity.metricId = metricId := hown identity hmem hp.symm
    subst hown'
    obtain ⟨row, hrow, hrid, hrv⟩ := getVersionSnapshot_mem store hsnap
    have hlt : ∀ v ∈ emitted ++ pendingVersions unsPath acc, v < snapshot.version := by
      intro v hv
      obtain ⟨row', hrow', hmid, rfl⟩ := h.stored v hv
      refine lt_of_le_of_ne (getVersionSnapshot_version_max store hsnap hrow' hmid) fun heq ↦ hnew ?_
      simpa [event, changeEvent, heq] using h.seen _ hv
    refine ⟨?_, ?_, ?_, h.keyed.apply event⟩ <;>
      rw [pendingVersions_apply hnew, if_pos hp, ← List.append_assoc]
    · rw [List.pairwise_append]
      exact ⟨h.ascending, List.pairwise_singleton _ _, fun a ha b hb ↦ List.mem_singleton.1 hb ▸ hlt a ha⟩
    · intro v hv
      rw [hseen]
      rcases List.mem_append.1 hv with hv | hv
      · exact List.mem_append_left _ (h.seen v hv)
      · exact List.mem_append_right _ (by simp [List.mem_singleton.1 hv, event, changeEvent])
    · intro v hv
      rcases List.mem_append.1 hv with hv | hv
      · exact h.stored v hv
      · exact ⟨row, hrow, hrid, hrv.trans (List.mem_singleton.1 hv).symm⟩
  · refine ⟨?_, ?_, ?_, h.keyed.apply event⟩ <;> rw [pendingVersions_apply hnew, if_neg hp]
    · exact h.ascending
    · intro v hv
      rw [hseen]
      exact List.mem_append_left _ (h.seen v hv)
    · exact h.stored

/-- `_handle_change` keeps the invariant, whatever change it is passed. -/
theorem OrderInv.handle {store : MetadataStore} {m m' : CdcMemory} {emitted : List Int}
    (h : OrderInv metricId unsPath store m.accumulator emitted) (hown : OwnsPath metricId unsPath store)
    {now : ℚ} {change : ChangeRecord} (hm : handleChange store now change m = .ok m') :
    OrderInv metricId unsPath store m'.accumulator emitted := by
  unfold handleChange at hm
  split at hm
  · cases hm
  · cases hm; exact h
  · next id _ =>
    split at hm
    · next identity snapshot hid hsnap =>
      have happ := h.apply hown hid hsnap
      dsimp only at hm
      split at hm <;> rename_i hr <;> cases hm <;> rw [hr] at happ <;> exact happ
    · cases hm; exact h

/-! ## Flushing -/

/-- `to_snapshot` lists the versions of an entry whose versions rise in arrival order. -/
theorem toSnapshot_versions {entry : AggregatedDiff} (hs : (entry.events.map (·.version)).Pairwise (· < ·)) :
    entry.toSnapshot.versions = entry.events.map (·.version) := by
  simp only [AggregatedDiff.toSnapshot, AggregatedDiff.orderedEvents]
  rw [List.mergeSort_of_sorted]
  exact (List.pairwise_map.1 hs).imp fun h ↦ decide_eq_true h.le

@[simp] theorem pop_seenEventIds (acc : DiffAccumulator) (key : String) :
    (acc.pop key).2.seenEventIds = acc.seenEventIds := by
  unfold DiffAccumulator.pop
  split <;> rfl

theorem Keyed.pop {acc : DiffAccumulator} (h : Keyed acc) (key : String) : Keyed (acc.pop key).2 := by
  unfold DiffAccumulator.pop
  split
  · exact h
  · intro k entry hk
    simp only [lookup_filter_key] at hk
    split at hk
    · cases hk
    · exact h k entry hk

/-- A pop hands on the path's pending versions when it pops the path, and leaves them otherwise. -/
theorem pop_versions {acc : DiffAccumulator} (h : Keyed acc)
    (hs : (pendingVersions unsPath acc).Pairwise (· < ·)) (key : String) :
    ((acc.pop key).1.toList.filter (·.unsPath = unsPath)).flatMap (·.versions) ++
      pendingVersions unsPath (acc.pop key).2 = pendingVersions unsPath acc := by
  unfold DiffAccumulator.pop
  split
  · rfl
  · next entry hl =>
    have hkey : entry.toSnapshot.unsPath = key := h key entry hl
    simp only [Option.toList_some, pendingVersions, lookup_filter_key]
    by_cases hp : unsPath = key
    · subst hp
      simp only [pendingVersions, hl, Option.map_some', Option.getD_some] at hs ⊢
      simp [hkey, toSnapshot_versions hs]
    · simp [hp, Ne.symm hp, hkey]

theorem emittedVersions_cons (p : CdcPayload) (sent : List CdcPayload) :
    emittedVersions unsPath (p :: sent) =
      ([p].filter (·.unsPath = unsPath)).flatMap (·.versions) ++ emittedVersions unsPath sent := by
  by_cases hp : p.unsPath = unsPath <;> simp [emittedVersions, List.filter_cons, hp]

theorem emittedVersions_append (sent sent' : List CdcPayload) :
    emittedVersions unsPath (sent ++ sent') = emittedVersions unsPath sent ++ emittedVersions unsPath sent' := by
  simp [emittedVersions, List.filter_append]

/-- The loop of `_flush_ready` passes on, in order, the pending versions of the paths it pops. -/
theorem emitReady_versions (ready : List FlushedEntry) {m : CdcMemory} (h : Keyed m.accumulator)
    (hs : (pendingVersions unsPath m.accumulator).Pairwise (· < ·)) :
    let r := emitReady ready m
    emittedVersions unsPath r.1 ++ pendingVersions unsPath r.2.accumulator = pendingVersions unsPath m.accumulator ∧
      r.2.accumulator.seenEventIds = m.accumulator.seenEventIds ∧ Keyed r.2.accumulator := by
  induction ready generalizing m with
  | nil => exact ⟨rfl, rfl, h⟩
  | cons entry rest ih =>
    have hpop := pop_versions h hs entry.metric
    have hk := h.pop entry.metric
    have hseen := pop_seenEventIds m.accumulator entry.metric
    have hs' : (pendingVersions unsPath (m.accumulator.pop entry.metric).2).Pairwise (· < ·) :=
      List.Pairwise.sublist (hpop ▸ List.sublist_append_right _ _) hs
    simp only [emitReady]
    split
    · next acc hr =>
      rw [hr] at hpop hk hseen hs'
      obtain ⟨h1, h2, h3⟩ := ih (m := { m with accumulator := acc }) hk hs'
      exact ⟨by simpa using h1.trans hpop, h2.trans hseen, h3⟩
    · next snapshot acc hr =>
      rw [hr] at hpop hk hseen hs'
      obtain ⟨h1, h2, h3⟩ := ih (m := { m with accumulator := acc, payloads := m.payloads + 1 }) hk hs'
      refine ⟨?_, h2.trans hseen, h3⟩
      rw [emittedVersions_cons, List.append_assoc, h1, ← hpop]
      by_cases hu : snapshot.unsPath = unsPath <;> simp [buildPayload, hu]

/-- `_flush_ready` and `force_flush` keep the invariant, the versions they pass on added to the
versions passed on before. -/
theorem OrderInv.flush (cfg : ServiceConfig) {store : MetadataStore} {m : CdcMemory} {emitted : List Int}
    (h : OrderInv metricId unsPath store m.accumulator emitted) (force : Bool) (now : ℚ) :
    let r := flushReady cfg force now m
    OrderInv metricId unsPath store r.2.accumulator (emitted ++ emittedVersions unsPath r.1) := by
  have hs : (pendingVersions unsPath m.accumulator).Pairwise (· < ·) :=
    h.ascending.sublist (List.sublist_append_right _ _)
  unfold flushReady
  split
  · simpa [emittedVersions] using h
  · generalize (if force then now + m.buffer.windowSeconds else now) = t
    obtain ⟨h1, h2, h3⟩ :=
      emitReady_versions (m := { m with buffer := (m.buffer.flushDue t).2 }) (m.buffer.flushDue t).1 h.keyed hs
    dsimp only
    split <;> exact h.of_history (by rw [List.append_assoc]; exact congrArg (emitted ++ ·) h1) h2 h3

/-- `process_once` is one such interleaving: the client passes its records to `_handle_change`, and
the service then calls `_flush_ready`. -/
theorem OrderInv.processOnce {δ σ : Type} (cfg : ServiceConfig) {store : MetadataStore}
    (hown : OwnsPath metricId unsPath store) (client : LogicalReplication.ClientConfig δ ChangeRecord σ)
    (now draw : ℚ) {s : ServiceState σ}
    (h : OrderInv metricId unsPath store s.process.handlerState.accumulator (emittedVersions unsPath s.sent)) :
    let s' := processOnce cfg store client now draw s
    OrderInv metricId unsPath store s'.process.handlerState.accumulator (emittedVersions unsPath s'.sent) := by
  have hQ : ∀ change (m m' : CdcMemory),
      OrderInv metricId unsPath store m.accumulator (emittedVersions unsPath s.sent) →
        handleChange store now change m = .ok m' →
        OrderInv metricId unsPath store m'.accumulator (emittedVersions unsPath s.sent) :=
    fun _ _ _ hq hm ↦ hq.handle hown hm
  have hp := LogicalReplication.process_handlerState client (handleChange store now) hQ
    (some cfg.maxBatchMessages) draw h
  simp only [Service.processOnce]
  split
  · next hr => rw [hr] at hp; exact hp
  · next processed w hr =>
    rw [hr] at hp
    have hp' : OrderInv metricId unsPath store
        { w.handlerState with records := w.handlerState.records + processed }.accumulator
        (emittedVersions unsPath s.sent) := hp
    simpa [emittedVersions_append] using hp'.flush cfg false now

/-! ## Runs -/

/-- One step of a run: a write that adds version rows to the store, or a call of the service. -/
inductive CdcStep
  | write (rows : List MetricVersionRow)
  | handleChange (now : ℚ) (change : ChangeRecord)
  | flushReady (now : ℚ)
  | forceFlush (now : ℚ)

/-- The store, the service's memory, and the payloads passed to the diff sink so far. -/
structure CdcRun where
  store : MetadataStore
  memory : CdcMemory
  sent : List CdcPayload

namespace CdcRun

variable (cfg : ServiceConfig)

/-- A step; a change the handler raises on leaves the memory as it was. -/
def step (s : CdcRun) : CdcStep → CdcRun
  | .write rows => { s with store := { s.store with versions := s.store.versions ++ rows } }
  | .handleChange now change =>
    match handleChange s.store now change s.memory with
    | .ok memory => { s with memory }
    | .error _ => s
  | .flushReady now => { s with memory := (flushReady cfg false now s.memory).2,
                                sent := s.sent ++ (flushReady cfg false now s.memory).1 }
  | .forceFlush now => { s with memory := (flushReady cfg true now s.memory).2,
                                sent := s.sent ++ (flushReady cfg true now s.memory).1 }

def run (s : CdcRun) (steps : List CdcStep) : CdcRun := steps.foldl (step cfg) s

/-- The invariant of a run for a path of one metric. -/
def Inv (metricId : Int) (unsPath : String) (s : CdcRun) : Prop :=
  OwnsPath metricId unsPath s.store ∧
    OrderInv metricId unsPath s.store s.memory.accumulator (emittedVersions unsPath s.sent)

theorem Inv.step {s : CdcRun} (h : s.Inv metricId unsPath) (c : CdcStep) : (s.step cfg c).Inv metricId unsPath := by
  obtain ⟨hown, hinv⟩ := h
  cases c with
  | write rows => exact ⟨hown, hinv.write (List.subset_append_left _ _)⟩
  | handleChange now change =>
    simp only [CdcRun.step]
    split
    · next hm => exact ⟨hown, hinv.handle hown hm⟩
    · exact ⟨hown, hinv⟩
  | flushReady now => exact ⟨hown, by simpa [CdcRun.step, emittedVersions_append] using hinv.flush cfg false now⟩
  | forceFlush now => exact ⟨hown, by simpa [CdcRun.step, emittedVersions_append] using hinv.flush cfg true now⟩

theorem Inv.run {s : CdcRun} (h : s.Inv metricId unsPath) (steps : List CdcStep) :
    (s.run cfg steps).Inv metricId unsPath := by
  induction steps generalizing s with
  | nil => exact h
  | cons c steps ih => exact ih (h.step cfg c)

end CdcRun

/-- For every configuration, starting store and clock reading, every interleaving of writes that add
version rows with `_handle_change`, `_flush_ready` and `force_flush`, and every path that belongs
to one metric, the versions of the payloads passed to the diff sink for the path, in the order
passed, rise strictly: none is passed twice, none after a higher one. -/
theorem emitted_versions_ascending (cfg : ServiceConfig) (store : MetadataStore) (now : ℚ)
    (steps : List CdcStep) (metricId : Int) (unsPath : String) (hown : OwnsPath metricId unsPath store) :
    (emittedVersions unsPath (CdcRun.run cfg ⟨store, CdcMemory.fresh cfg now, []⟩ steps).sent).Pairwise (· < ·) :=
  ((CdcRun.Inv.run cfg ⟨hown, orderInv_empty metricId unsPath store⟩ steps).2.ascending).sublist
    (List.sublist_append_left _ _)

/-- A store where `G/E/D/m` is metric 42's path, with version 7 of the metric. -/
def oneMetricStore : MetadataStore :=
  ⟨[⟨42, "G/E/D/m", "G.E.D.m"⟩], [⟨7, 42, "alice", "2024-05-01T10:00:00Z", .obj [("displayHigh", .int 1800)]⟩], 8⟩

/-- A change of metric 42. -/
def metric42Change : ChangeRecord := ⟨"update", "uns_meta.metrics", [("metric_id", .int 42)], none, 1⟩

/-- Version 7 of metric 42 handled and flushed; version 9 written, handled and flushed. -/
def twoVersionSteps : List CdcStep :=
  [.handleChange 0 metric42Change, .forceFlush 0,
    .write [⟨9, 42, "bob", "2024-05-01T10:05:00Z", .obj [("displayHigh", .int 1900)]⟩],
    .handleChange 300 metric42Change, .forceFlush 300]

example : emittedVersions "G/E/D/m"
    (CdcRun.run defaultConfig ⟨oneMetricStore, CdcMemory.fresh defaultConfig 0, []⟩ twoVersionSteps).sent = [7, 9] := by
  with_unfolding_all rfl

/-- The path belongs to metric 42, and the versions `twoVersionSteps` passes on rise. -/
theorem oneMetric_versions_ascending :
    OwnsPath 42 "G/E/D/m" oneMetricStore ∧
      (emittedVersions "G/E/D/m" (CdcRun.run defaultConfig ⟨oneMetricStore, CdcMemory.fresh defaultConfig 0, []⟩
        twoVersionSteps).sent).Pairwise (· < ·) := by
  have hown : OwnsPath 42 "G/E/D/m" oneMetricStore := by
    intro identity hmem _
    simp only [oneMetricStore, List.mem_singleton] at hmem
    rw [hmem]
  exact ⟨hown, emitted_versions_ascending _ _ _ _ 42 "G/E/D/m" hown⟩

/-! ## Records handled after later commits

The version rows and the write-ahead log grow as the store commits, one record per row written,
and the handler reads the store as it is when it handles a record.  It builds its event from the
metric's latest version, not from the version that caused the record; when a second version
commits before the first record is handled, both records name the second version, and the first
version's diff never reaches the sink (`superseded_version_not_emitted`).  An eviction from a full
buffer drops the entry but not the accumulator's, whose versions a later flush of the path emits
with the event ids of the last version alone (`evicted_versions_emitted_without_ids`).
-/

/-- The store, the records of the write-ahead log not yet handled, the service's memory, and the
payloads passed to the sink. -/
structure WalState where
  store : MetadataStore
  wal : List ChangeRecord
  memory : CdcMemory
  sent : List CdcPayload

/-- `LineageVersionWriter.apply` with a non-empty diff and no path change: one version row
committed, and its record appended to the log. -/
def commitVersion (metricId : Int) (changedBy changedAt : String) (diff : List (String × JsonValue))
    (s : WalState) : WalState :=
  let row : MetricVersionRow := ⟨s.store.nextVersionId, metricId, changedBy, changedAt, .obj diff⟩
  { s with store := { s.store with versions := s.store.versions ++ [row],
                                   nextVersionId := s.store.nextVersionId + 1 }
           wal := s.wal ++ [⟨"insert", "uns_meta.metric_versions",
             [("version_id", .int row.versionId), ("metric_id", .int metricId)], none, 0⟩] }

/-- `_handle_change` on the next record of the log at clock reading `now`, against the store as
it is. -/
def handleNext (now : ℚ) (s : WalState) : Option WalState :=
  match s.wal with
  | [] => none
  | change :: rest =>
    match handleChange s.store now change s.memory with
    | .ok memory => some { s with wal := rest, memory }
    | .error _ => none

/-- `force_flush` at clock reading `now`. -/
def forceFlushWal (cfg : ServiceConfig) (now : ℚ) (s : WalState) : WalState :=
  let (sent, memory) := flushReady cfg true now s.memory
  { s with memory, sent := s.sent ++ sent }

/-- The spec's coalescing scenario: a one-second window. -/
def coalescingConfig : ServiceConfig :=
  ⟨"uns_meta_slot", 500, 1, 1000, 0, by decide, by decide⟩

/-- Metric 42 with no version yet; the next version row is 6. -/
def metric42Store : MetadataStore := ⟨[⟨42, "G/E/D/m", "G.E.D.m"⟩], [], 6⟩

/-- Versions 6 and 7 of metric 42 commit, then the listener handles both records, 0.5 s apart,
and flushes. -/
def interleavedRun : Option WalState :=
  let s : WalState := ⟨metric42Store, [], CdcMemory.fresh coalescingConfig 0, []⟩
  let s := commitVersion 42 "writer" "2025-09-01T12:00:00Z" [("displayHigh", .int 1800)] s
  let s := commitVersion 42 "writer" "2025-09-01T12:00:01Z"
    [("displayLow", .int 30), ("engUnit", .str "C")] s
  (handleNext 0 s).bind fun s ↦ (handleNext (1 / 2) s).map (forceFlushWal coalescingConfig 2)

/-- Both records are handled and the buffer is flushed without eviction, and the one payload
carries version 7 only: version 6 and its `displayHigh` change are in no payload. -/
theorem superseded_version_not_emitted :
    (interleavedRun.map fun s ↦ (s.wal, s.memory.buffer.dropped)) = some ([], 0) ∧
      (interleavedRun.map fun s ↦ s.sent.map fun p ↦ (p.versions, p.changes)) =
        some [([7], [("displayLow", .int 30), ("engUnit", .str "C")])] := by
  constructor <;> with_unfolding_all rfl

/-- A buffer of one entry and a one-second window. -/
def oneEntryConfig : ServiceConfig :=
  ⟨"uns_meta_slot", 500, 1, 1, 0, by decide, by decide⟩

/-- Metrics 42 at `G/E/D/a` and 43 at `G/E/D/b`, with no version yet. -/
def twoMetricStore : MetadataStore :=
  ⟨[⟨42, "G/E/D/a", "G.E.D.a"⟩, ⟨43, "G/E/D/b", "G.E.D.b"⟩], [], 6⟩

/-- Version 6 of metric 42 is handled at 0 and version 7 of metric 43 at 1, which evicts metric
42's buffer entry; version 8 of metric 42 is handled at 2, which evicts metric 43's. -/
def evictionRun : Option WalState :=
  let s : WalState := ⟨twoMetricStore, [], CdcMemory.fresh oneEntryConfig 0, []⟩
  let s := commitVersion 42 "writer" "2025-09-01T12:00:00Z" [("displayHigh", .int 1800)] s
  (handleNext 0 s).bind fun s ↦
    let s := commitVersion 43 "writer" "2025-09-01T12:00:01Z" [("displayLow", .int 30)] s
    (handleNext 1 s).bind fun s ↦
      let s := commitVersion 42 "writer" "2025-09-01T12:00:02Z" [("displayHigh", .int 1900)] s
      handleNext 2 s

/-- After the evictions the buffer holds metric 42's path and the accumulator both paths; the
flush then emits metric 42's payload with versions 6 and 8 and the event id of version 8 only,
and metric 43's entry stays in the accumulator. -/
theorem evicted_versions_emitted_without_ids :
    (evictionRun.map fun s ↦
        (s.memory.buffer.entries.map (·.1), s.memory.accumulator.entries.map (·.1))) =
      some (["G/E/D/a"], ["G/E/D/a", "G/E/D/b"]) ∧
    ((evictionRun.map (forceFlushWal oneEntryConfig 3)).map fun s ↦
        (s.memory.buffer.dropped, s.memory.accumulator.entries.map (·.1),
          s.sent.map fun p ↦ (p.versions, p.eventIds))) =
      some (2, ["G/E/D/b"], [([6, 8], ["42:8"])]) := by
  constructor <;> with_unfolding_all rfl

end UnsMetadataSync.Cdc.VersionOrder
