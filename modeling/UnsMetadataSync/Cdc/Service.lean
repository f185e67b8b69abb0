import UnsMetadataSync.Cdc.LogicalReplication
import UnsMetadataSync.Cdc.Diffing
import UnsMetadataSync.Cdc.Debounce
import UnsMetadataSync.JsonScanner

/-!
# The CDC listener service

`cdc/service.py`'s `CDCListenerService` runs the replication client with `_handle_change` as its
handler.  For a change of a metric, the handler reads the metric's identity and its latest
version row, builds a diff event named `metric_id:version`, and, if the accumulator has not
seen that id, buffers the diff.  `_flush_ready` emits, for every buffer entry whose window has
passed, the accumulator's snapshot of its path to the diff sink.

The metadata provider answers from the rows of `uns_meta.metrics` and `uns_meta.metric_versions`
as they are when it is asked.  Everything but the checkpoint store lives in memory, so a restart
inside the debounce window loses a diff whose position the client has already persisted.  The
diff sink is the log of payloads passed to it; a sink that raises is not modelled.

When the client raises, `process_once` counts an error and sleeps the client's `last_error_delay`.
The code draws a second delay from the shared back-off when that delay is falsy, which after a
failed call happens only after a jitter draw of zero; that second draw is not modelled.
-/

namespace UnsMetadataSync.Cdc.Service

open Json Checkpoint LogicalReplication Diffing Debounce

/-! ## Metadata -/

/-- `ChangeRecord`: the columns the handler reads, as names and values. -/
structure ChangeRecord where
  kind : String
  relation : String
  columns : List (String × JsonValue)
  oldColumns : Option (List (String × JsonValue))
  lsn : Int

/-- `MetricIdentity`. -/
structure MetricIdentity where
  metricId : Int
  unsPath : String
  canaryId : String

/-- A row of `uns_meta.metric_versions`; `diff` is the jsonb column, `changedAt` the formatted
timestamp. -/
structure MetricVersionRow where
  versionId : Int
  metricId : Int
  changedBy : String
  changedAt : String
  diff : JsonValue

/-- The rows the metadata provider reads, with the next value of the version sequence. -/
structure MetadataStore where
  identities : List MetricIdentity
  versions : List MetricVersionRow
  nextVersionId : Int

/-- `MetricVersionSnapshot`. -/
structure MetricVersionSnapshot where
  metricId : Int
  version : Int
  actor : String
  changedAt : String
  diff : List (String × JsonValue)
  previousVersion : Option Int

/-- `_normalize_diff` of the value the driver returns for the column: a dict as it is, a text read
with `json.loads` (a text that is not JSON, or not of an object, gives no entries), and no entries
for `None` or any other value. -/
def normalizeDiff : JsonValue → List (String × JsonValue)
  | .obj entries => entries
  | .str text =>
    match JsonScanner.loads text with
    | some (.obj entries) => entries
    | _ => []
  | _ => []

/-- `get_identity`. -/
def getIdentity (store : MetadataStore) (metricId : Int) : Option MetricIdentity :=
  store.identities.find? (·.metricId == metricId)

/-- `get_version_snapshot`: the latest version row, `ORDER BY version_id DESC LIMIT 2`, if its
diff is not empty. -/
def getVersionSnapshot (store : MetadataStore) (metricId : Int) : Option MetricVersionSnapshot :=
  match (store.versions.filter (·.metricId == metricId)).mergeSort
      (fun a b ↦ decide (b.versionId ≤ a.versionId)) with
  | [] => none
  | latest :: rest =>
    let diff := normalizeDiff latest.diff
    if diff.isEmpty then none
    else some ⟨metricId, latest.versionId, latest.changedBy, latest.changedAt, diff,
      rest.head?.map (·.versionId)⟩

/-- The blanks `int()` strips around a literal: the ASCII ones. -/
def isPySpace (c : Char) : Bool :=
  c = ' ' || c = '\t' || c = '\n' || c = '\r' || c.toNat = 11 || c.toNat = 12

/-- The value of a decimal literal whose digits may be joined by single underscores. -/
def decimalValue : List Char → Option Nat
  | c :: cs => if c.isDigit then go (c.toNat - 48) cs else none
  | [] => none
where
  go (acc : Nat) : List Char → Option Nat
    | [] => some acc
    | '_' :: c :: cs => if c.isDigit then go (acc * 10 + (c.toNat - 48)) cs else none
    | c :: cs => if c.isDigit then go (acc * 10 + (c.toNat - 48)) cs else none

/-- `int(s)` for a string: blanks around an optional sign and the digits.  Python also takes
the decimal digits of other scripts and strips Unicode blanks; these are left out. -/
def intOfLiteral (s : String) : Option Int :=
  match ((s.toList.dropWhile isPySpace).reverse.dropWhile isPySpace).reverse with
  | '-' :: ds => (decimalValue ds).map fun n ↦ -(n : Int)
  | '+' :: ds => (decimalValue ds).map (↑)
  | ds => (decimalValue ds).map (↑)

/-- `int(f)` for a float given by its `repr`: the integer part of the number the text denotes,
or the errors of the infinities and NaN.  Above 2^53 in magnitude the text can denote another
integer than the float itself. -/
def truncFloatRepr (repr : String) : Except String Int :=
  if repr = "inf" ∨ repr = "-inf" then .error "cannot convert float infinity to integer"
  else if repr = "nan" then .error "cannot convert float NaN to integer"
  else
    let (negative, body) := match repr.toList with
      | '-' :: cs => (true, cs)
      | cs => (false, cs)
    let (mantissa, exponent) := match body.splitOn 'e' with
      | [m, e] => (m, ((String.mk (e.filter (· != '+'))).toInt?).getD 0)
      | _ => (body, 0)
    let (whole, fraction) := match mantissa.splitOn '.' with
      | [w, f] => (w, f)
      | _ => (mantissa, [])
    let digits := ((String.mk (whole ++ fraction)).toNat?).getD 0
    let scale := exponent - fraction.length
    let magnitude : Nat := if 0 ≤ scale then digits * 10 ^ scale.toNat else digits / 10 ^ (-scale).toNat
    .ok (if negative then -(magnitude : Int) else magnitude)

/-- `int(column.value)` for the values a `metric_id` column carries. -/
def pyInt : JsonValue → Except String Int
  | .int n => .ok n
  | .bool b => .ok (if b then 1 else 0)
  | .float repr => truncFloatRepr repr
  | .str s => match intOfLiteral s with
    | some n => .ok n
    | none => .error ("invalid literal for int() with base 10: " ++ pyReprStr s)
  | v => .error ("int() argument must be a string, a bytes-like object or a real number, not " ++
      pyReprStr (pyTypeName v))

/-- `_extract_metric_id`: the new row's `metric_id`, else the old row's. -/
def extractMetricId (change : ChangeRecord) : Except String (Option Int) :=
  match change.columns.lookup "metric_id" with
  | some value => (pyInt value).map some
  | none => match change.oldColumns.bind (·.lookup "metric_id") with
    | some value => (pyInt value).map some
    | none => .ok none

/-! ## The service -/

/-- The service's settings, with the ones its constructor passes on. -/
structure ServiceConfig where
  slotName : String
  maxBatchMessages : Nat
  windowSeconds : ℚ
  bufferCap : Nat
  flushIntervalSeconds : ℚ
  windowSeconds_pos : 0 < windowSeconds
  bufferCap_pos : 0 < bufferCap

/-- The settings of `CDCListenerService`'s defaults. -/
def defaultConfig : ServiceConfig :=
  ⟨"uns_meta_slot", 500, 180, 1000, 5, by with_unfolding_all decide, by decide⟩

/-- The state the service keeps in memory: the accumulator, the buffer, the time of the last
flush and the counters it reads back. -/
structure CdcMemory where
  accumulator : DiffAccumulator
  buffer : DebounceBuffer
  lastFlushTs : ℚ
  records : Nat
  events : Nat
  payloads : Nat
  errors : Nat

/-- The in-memory state of a service constructed at clock reading `now`. -/
def CdcMemory.fresh (cfg : ServiceConfig) (now : ℚ) : CdcMemory :=
  ⟨.empty, .create cfg.windowSeconds cfg.bufferCap cfg.windowSeconds_pos cfg.bufferCap_pos, now,
    0, 0, 0, 0⟩

/-- The payload `_build_payload` passes to the diff sink. -/
structure CdcPayload where
  metricId : Option Int
  unsPath : String
  canaryId : Option String
  versions : List Int
  latestVersion : Int
  previousVersion : Option Int
  latestActor : String
  actors : List String
  timestamps : List String
  eventIds : List String
  debounceFirstSeen : ℚ
  debounceLastUpdate : ℚ
  changedAt : Option String
  debounceSpanSeconds : ℚ
  changes : List (String × JsonValue)

/-- `_build_payload`. -/
def buildPayload (entry : FlushedEntry) (snapshot : Snapshot) : CdcPayload where
  metricId := entry.extras.map (·.metricId)
  unsPath := snapshot.unsPath
  canaryId := entry.extras.map (·.canaryId)
  versions := snapshot.versions
  latestVersion := snapshot.latestVersion
  previousVersion := snapshot.previousVersion
  latestActor := snapshot.latestActor
  actors := snapshot.actors
  timestamps := snapshot.timestamps
  eventIds := entry.eventIds
  debounceFirstSeen := entry.firstSeen
  debounceLastUpdate := entry.lastUpdate
  changedAt := entry.extras.map (·.changedAt)
  debounceSpanSeconds := max (entry.lastUpdate - entry.firstSeen) 0
  changes := snapshot.changes

/-- The `DiffEvent` `_handle_change` builds from the metric's identity and version snapshot. -/
def changeEvent (metricId : Int) (identity : MetricIdentity) (snapshot : MetricVersionSnapshot) :
    DiffEvent :=
  ⟨toString metricId ++ ":" ++ toString snapshot.version, identity.unsPath, snapshot.version,
    snapshot.actor, snapshot.diff, snapshot.changedAt⟩

variable (cfg : ServiceConfig) (store : MetadataStore)

/-- `_handle_change` at clock reading `now`, with the provider answering from `store`. -/
def handleChange (now : ℚ) (change : ChangeRecord) (m : CdcMemory) : Except String CdcMemory :=
  match extractMetricId change with
  | .error e => .error e
  | .ok none => .ok m
  | .ok (some metricId) =>
    match getIdentity store metricId, getVersionSnapshot store metricId with
    | some identity, some snapshot =>
      let event := changeEvent metricId identity snapshot
      match m.accumulator.apply event with
      | (false, accumulator) => .ok { m with accumulator }
      | (true, accumulator) =>
        .ok { m with accumulator, events := m.events + 1
                     buffer := m.buffer.add identity.unsPath snapshot.diff (some snapshot.version)
                       (some snapshot.actor) (some event.eventId) now
                       (some ⟨metricId, identity.canaryId, snapshot.changedAt⟩) }
    | _, _ => .ok m

/-- `get_version_snapshot` answers with the highest `version_id` among the metric's rows. -/
theorem getVersionSnapshot_version_max {metricId : Int} {snapshot : MetricVersionSnapshot}
    (h : getVersionSnapshot store metricId = some snapshot) {row : MetricVersionRow}
    (hrow : row ∈ store.versions) (hid : row.metricId = metricId) :
    row.versionId ≤ snapshot.version := by
  let newestFirst := fun a b : MetricVersionRow ↦ decide (b.versionId ≤ a.versionId)
  have hsorted := @List.sorted_mergeSort _ newestFirst
    (fun _ _ _ hab hbc ↦ by simp only [newestFirst, decide_eq_true_eq] at *; omega)
    (fun a b ↦ by simpa [newestFirst] using le_total b.versionId a.versionId)
    (store.versions.filter (·.metricId == metricId))
  have hmem := (List.mergeSort_perm (store.versions.filter (·.metricId == metricId))
    newestFirst).mem_iff.2 (List.mem_filter.2 ⟨hrow, by simpa using hid⟩)
  unfold getVersionSnapshot at h
  split at h
  · cases h
  · rename_i latest rest hsort
    dsimp only at h
    split at h
    · cases h
    · cases h
      rw [hsort] at hsorted hmem
      rcases List.mem_cons.1 hmem with rfl | hrest
      · exact le_rfl
      · simpa [newestFirst] using List.rel_of_pairwise_cons hsorted hrest

/-- `get_version_snapshot` answers from a row of the metric. -/
theorem getVersionSnapshot_mem {metricId : Int} {snapshot : MetricVersionSnapshot}
    (h : getVersionSnapshot store metricId = some snapshot) :
    ∃ row ∈ store.versions, row.metricId = metricId ∧ row.versionId = snapshot.version := by
  unfold getVersionSnapshot at h
  split at h
  · cases h
  · rename_i latest rest hsort
    have hmem : latest ∈ store.versions.filter (·.metricId == metricId) :=
      (List.mergeSort_perm _ _).mem_iff.1 (by rw [hsort]; exact List.mem_cons_self _ _)
    dsimp only at h
    split at h
    · cases h
    · cases h
      simp only [List.mem_filter, beq_iff_eq] at hmem
      exact ⟨latest, hmem.1, hmem.2, rfl⟩

/-- `get_identity` answers with an identity of the metric. -/
theorem getIdentity_mem {metricId : Int} {identity : MetricIdentity}
    (h : getIdentity store metricId = some identity) :
    identity ∈ store.identities ∧ identity.metricId = metricId :=
  ⟨List.mem_of_find?_eq_some h, by simpa using List.find?_some h⟩

/-- The loop of `_flush_ready` over the ready entries: the payloads emitted, in order. -/
def emitReady : List FlushedEntry → CdcMemory → List CdcPayload × CdcMemory
  | [], m => ([], m)
  | entry :: rest, m =>
    match m.accumulator.pop entry.metric with
    | (none, accumulator) => emitReady rest { m with accumulator }
    | (some snapshot, accumulator) =>
      let (sent, m) := emitReady rest { m with accumulator, payloads := m.payloads + 1 }
      (buildPayload entry snapshot :: sent, m)

/-- `_flush_ready` at clock reading `now`; `force` is `force_flush`. -/
def flushReady (force : Bool) (now : ℚ) (m : CdcMemory) : List CdcPayload × CdcMemory :=
  if !force && now - m.lastFlushTs < cfg.flushIntervalSeconds then ([], m)
  else
    let (ready, buffer) :=
      m.buffer.flushDue (if force then now + m.buffer.windowSeconds else now)
    let (sent, m) := emitReady ready { m with buffer }
    (sent, if force || !sent.isEmpty then { m with lastFlushTs := now } else m)

/-- The replication client the service builds: checkpoints every `max(1, max_batch_messages // 2)`
records. -/
def clientConfig {δ σ : Type} (streamFactory : Option Int → List (ReplicationStreamMessage δ))
    (decoder : ReplicationStreamMessage δ → Except String (List ChangeRecord))
    (checkpointStore : CheckpointStore σ) : ClientConfig δ ChangeRecord σ where
  slotName := cfg.slotName
  streamFactory := streamFactory
  decoder := decoder
  checkpointStore := checkpointStore
  checkpointInterval := max 1 (cfg.maxBatchMessages / 2)
  checkpointInterval_pos := lt_max_of_lt_left Nat.one_pos

/-- The service's state: the client, the checkpoint store and the memory, and the payloads passed
to the diff sink, in order. -/
structure ServiceState (σ : Type) where
  process : ProcessState σ CdcMemory
  sent : List CdcPayload

/-- `process_once` at clock reading `now`; `draw` is what the back-off's random source returns
if the client fails. -/
def processOnce {δ σ : Type} (client : ClientConfig δ ChangeRecord σ) (now draw : ℚ)
    (s : ServiceState σ) : ServiceState σ :=
  match process client (handleChange store now) (some cfg.maxBatchMessages) draw s.process with
  | (.error _, w) =>
    { s with process := { w with handlerState := { w.handlerState with errors := w.handlerState.errors + 1 } } }
  | (.ok processed, w) =>
    let m := { w.handlerState with records := w.handlerState.records + processed }
    let (sent, m) := flushReady cfg false now m
    { process := { w with handlerState := m }, sent := s.sent ++ sent }

/-- `force_flush` at clock reading `now`. -/
def forceFlush {σ : Type} (now : ℚ) (s : ServiceState σ) : ServiceState σ :=
  let (sent, m) := flushReady cfg true now s.process.handlerState
  { process := { s.process with handlerState := m }, sent := s.sent ++ sent }

/-! ## A restart inside the debounce window

A restart discards everything the service holds in memory and keeps the checkpoint store.  The
client persists the position of a message as soon as the handler has put its change into the
debounce buffer, while the diff waits out the debounce window; a restart inside the window loses
the diff below the checkpoint (`restart_loses_buffered_diff`).
-/

/-- Metric 42 at `G/E/D/m`, with one version row. -/
def kilnStore : MetadataStore :=
  ⟨[⟨42, "G/E/D/m", "G.E.D.m"⟩],
   [⟨7, 42, "cdc-writer", "2025-09-01T12:00:00Z", .obj [("displayHigh", .int 1800)]⟩], 8⟩

/-- The change of metric 42 that the message at position 1 decodes into. -/
def kilnChange : ChangeRecord :=
  ⟨"update", "uns_meta.metric_versions", [("metric_id", .int 42)], none, 1⟩

/-- A stream of one message at position 1, resumed after the stored position. -/
def kilnClient : ClientConfig Unit ChangeRecord InMemoryCheckpointStore :=
  clientConfig defaultConfig (suffixFactory [⟨1, (), 0⟩]) (fun _ ↦ .ok [kilnChange]) inMemoryStore

/-- A service constructed at clock reading `now` over the checkpoint store `checkpoints`, with
the diffs already passed to the sink. -/
def startService (now : ℚ) (checkpoints : InMemoryCheckpointStore) (sent : List CdcPayload) :
    ServiceState InMemoryCheckpointStore :=
  ⟨⟨⟨none, none, none, ⟨1 / 2, 2, 30, none, true, 0⟩⟩, checkpoints, CdcMemory.fresh defaultConfig now⟩,
    sent⟩

/-- A restart at clock reading `now`: only the checkpoint store and the sink's log survive. -/
def restart (now : ℚ) (s : ServiceState InMemoryCheckpointStore) : ServiceState InMemoryCheckpointStore :=
  startService now s.process.store s.sent

/-- `process_once` at 0 buffers the change of position 1 and persists position 1. -/
def afterFirstPass : ServiceState InMemoryCheckpointStore :=
  processOnce defaultConfig kilnStore kilnClient 0 0 (startService 0 ⟨[]⟩ [])

/-- A restart at 0, then `process_once` and `force_flush` at 200 s: the store holds position 1,
whose change resolved to metric 42's identity and version 7 and was buffered without eviction,
and nothing was passed to the sink.  Without the restart the same two calls emit it. -/
theorem restart_loses_buffered_diff :
    afterFirstPass.process.store.load "uns_meta_slot" = some 1 ∧
      afterFirstPass.process.handlerState.buffer.entries.map (·.1) = ["G/E/D/m"] ∧
      afterFirstPass.process.handlerState.buffer.dropped = 0 ∧
      (forceFlush defaultConfig 200 (processOnce defaultConfig kilnStore kilnClient 200 0
        (restart 0 afterFirstPass))).sent = [] ∧
      ((forceFlush defaultConfig 200 (processOnce defaultConfig kilnStore kilnClient 200 0
        afterFirstPass)).sent.map (·.versions)) = [[7]] := by
  refine ⟨?_, ?_, ?_, ?_, ?_⟩ <;> with_unfolding_all rfl

end UnsMetadataSync.Cdc.Service
