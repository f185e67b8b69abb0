import UnsMetadataSync.Cdc.Service
import UnsMetadataSync.Canary.Client
import UnsMetadataSync.Canary.Session

/-!
# The service runtime: CDC diffs handed to the Canary writer

`service.py`'s `ServiceRuntime` runs the CDC listener with `_handle_diff` as its diff sink.  The
listener's `_build_payload` (`cdc/service.py`) turns a flushed buffer entry and the metric's
aggregated snapshot into a dict; `_handle_diff` passes the dict to the Canary client's `enqueue`,
which converts it with `CanaryDiff.from_mapping` and queues the diff.  A `ValueError` of the
conversion and `CanaryQueueFull` are logged, and the diff is dropped.

Every payload the listener emits reaches the writer's queue as the diff of its stripped path,
its merged changes, its metadata and its latest actor and version, unless the stripped path is
empty or the queue is at capacity (`handleDiff_enqueues`).  The payloads of one flush, handed over
in order, fill the queue with the diffs of those whose path is not blank up to its capacity and
count the rest as dropped (`handleDiffs_queue`).

`ServiceRuntime.__init__` builds the session manager and the writer only when the writer is enabled
and has a base URL and an API token.  The writer's constructor then checks its numbers, and its
`ValueError` leaves the runtime without a writer (`canaryWriter`).

The payload's clock readings are Python floats: their JSON values are a parameter, as nothing on
this path reads them.  The JSONL log `_handle_diff` may append to and its log lines are outside the
model, and so is a runtime without a Canary client, where the sink only logs.
-/

namespace UnsMetadataSync.Runtime

open Json CanaryId Canary.Payload Canary.Client Cdc.Service

section Handoff

variable (u : UnicodeData) (floatValue : ℚ → JsonValue)

/-- The `metadata` dict of `_build_payload`: the snapshot's metadata, then the debounce fields. -/
def payloadMetadata (p : CdcPayload) : List (String × JsonValue) :=
  [("latest_version", .int p.latestVersion),
   ("previous_version", (p.previousVersion.map .int).getD .null),
   ("latest_actor", .str p.latestActor),
   ("actors", .arr (p.actors.map .str)),
   ("timestamps", .arr (p.timestamps.map .str)),
   ("event_ids", .arr (p.eventIds.map .str)),
   ("debounce_first_seen", floatValue p.debounceFirstSeen),
   ("debounce_last_update", floatValue p.debounceLastUpdate)] ++
  (p.changedAt.map fun changedAt ↦ ("changed_at", .str changedAt)).toList ++
  [("debounce_span_seconds", floatValue p.debounceSpanSeconds)]

/-- The dict `_build_payload` returns. -/
def payloadMapping (p : CdcPayload) : List (String × JsonValue) :=
  [("metric_id", (p.metricId.map .int).getD .null),
   ("uns_path", .str p.unsPath),
   ("canary_id", (p.canaryId.map .str).getD .null),
   ("versions", .arr (p.versions.map .int)),
   ("metadata", .obj (payloadMetadata floatValue p)),
   ("changes", .obj p.changes)]

/-- `ServiceRuntime._handle_diff` with a Canary client: the payload converted and enqueued, and a
failed conversion or a full queue swallowed. -/
def handleDiff (cfg : ClientConfig) (s : ClientState) (p : CdcPayload) : ClientState :=
  match CanaryDiff.fromMapping u (payloadMapping floatValue p) with
  | .error _ => s
  | .ok diff => (enqueue cfg s diff).2

/-- The diff the writer builds from a payload whose stripped path is not empty. -/
def deliveredDiff (p : CdcPayload) : CanaryDiff :=
  ⟨String.mk (strip u.isSpace p.unsPath.toList), setItems [] p.changes, payloadMetadata floatValue p,
    some p.latestActor, some p.latestVersion⟩

theorem isEmpty_mk (l : List Char) : (String.mk l).isEmpty = l.isEmpty := by
  rw [Bool.eq_iff_iff, String.isEmpty_iff, List.isEmpty_iff]
  exact ⟨congrArg String.data, fun h ↦ by rw [h]⟩

/-- `from_mapping` of a listener payload: the `ValueError` of an empty or blank path, else the
delivered diff. -/
theorem fromMapping_payloadMapping (p : CdcPayload) :
    CanaryDiff.fromMapping u (payloadMapping floatValue p) =
      if (strip u.isSpace p.unsPath.toList).isEmpty then
        .error (if p.unsPath.isEmpty then "diff payload must include 'uns_path' or 'metric'"
          else "metric path must not be empty")
      else .ok (deliveredDiff u floatValue p) := by
  have hpath : pyGet (payloadMapping floatValue p) "uns_path" = .str p.unsPath := rfl
  have hmetric : pyGet (payloadMapping floatValue p) "metric" = .null := rfl
  have hchanges : pyGet (payloadMapping floatValue p) "changes" = .obj p.changes := rfl
  have hmetadata : pyGet (payloadMapping floatValue p) "metadata" = .obj (payloadMetadata floatValue p) := rfl
  have hactor : pyGet (payloadMapping floatValue p) "actor" = .null := rfl
  have hversion : pyGet (payloadMapping floatValue p) "version" = .null := rfl
  have hlatestActor : pyGet (payloadMetadata floatValue p) "latest_actor" = .str p.latestActor := rfl
  have hlatestVersion : pyGet (payloadMetadata floatValue p) "latest_version" = .int p.latestVersion := rfl
  unfold CanaryDiff.fromMapping
  rw [hpath, hmetric]
  by_cases he : p.unsPath.isEmpty
  · have hs : (strip u.isSpace p.unsPath.toList).isEmpty = true := by
      rw [(String.isEmpty_iff _).1 he]
      rfl
    rw [if_pos hs, if_pos he]
    simp [pyOr, pyTruthy, he]
  · have hstr : pyOr (.str p.unsPath) .null = .str p.unsPath := by simp [pyOr, pyTruthy, he]
    have hmeta : pyOr (.obj (payloadMetadata floatValue p)) (pyGet (payloadMapping floatValue p) "extras") =
        .obj (payloadMetadata floatValue p) := by simp [pyOr, pyTruthy, payloadMetadata]
    rw [hstr, if_neg he]
    dsimp only
    rw [isEmpty_mk]
    by_cases hs : (strip u.isSpace p.unsPath.toList).isEmpty
    · rw [if_pos hs, if_pos hs]
    · rw [if_neg hs, if_neg hs, hchanges, hmetadata, hmeta, hactor, hversion]
      dsimp only
      rw [hlatestActor, hlatestVersion]
      rfl

/-- `_handle_diff` of a listener payload: a payload whose stripped path is empty is dropped without
a trace; any other reaches the writer's queue as the delivered diff, or, with the queue at
capacity, only counts as dropped. -/
theorem handleDiff_enqueues (cfg : ClientConfig) (s : ClientState) (p : CdcPayload) :
    (handleDiff u floatValue cfg s p).queue =
        (if strip u.isSpace p.unsPath.toList = [] ∨ cfg.queueCapacity ≤ s.queue.length then s.queue
          else s.queue ++ [deliveredDiff u floatValue p]) ∧
      (handleDiff u floatValue cfg s p).metrics.queueDroppedTotal =
        (if strip u.isSpace p.unsPath.toList ≠ [] ∧ cfg.queueCapacity ≤ s.queue.length then
          s.metrics.queueDroppedTotal + 1 else s.metrics.queueDroppedTotal) := by
  unfold handleDiff
  by_cases hs : strip u.isSpace p.unsPath.toList = []
  · obtain ⟨e, he⟩ : ∃ e, CanaryDiff.fromMapping u (payloadMapping floatValue p) = .error e :=
      ⟨_, by rw [fromMapping_payloadMapping, if_pos (List.isEmpty_iff.2 hs)]⟩
    rw [he, if_pos (.inl hs), if_neg fun h ↦ h.1 hs]
    exact ⟨rfl, rfl⟩
  · have hd : ¬strip u.isSpace p.unsPath.data = [] := hs
    rw [fromMapping_payloadMapping, if_neg (by rwa [List.isEmpty_iff])]
    unfold enqueue
    by_cases hc : cfg.queueCapacity ≤ s.queue.length <;> simp [hd, hc]

/-- The payloads of a flush handed to `_handle_diff` one after another, with no batch popped in
between. -/
def handleDiffs (cfg : ClientConfig) (s : ClientState) (ps : List CdcPayload) : ClientState :=
  ps.foldl (handleDiff u floatValue cfg) s

/-- The payloads of a flush reach the writer's queue, in order, as the delivered diffs of those
whose stripped path is not empty, as many of them as the queue has room for; each of the others
counts as dropped. -/
theorem handleDiffs_queue (cfg : ClientConfig) (ps : List CdcPayload) (s : ClientState) :
    (handleDiffs u floatValue cfg s ps).queue = s.queue ++
        (((ps.filter fun p ↦ !(strip u.isSpace p.unsPath.toList).isEmpty).map
          (deliveredDiff u floatValue)).take (cfg.queueCapacity.toNat - s.queue.length)) ∧
      (handleDiffs u floatValue cfg s ps).metrics.queueDroppedTotal = s.metrics.queueDroppedTotal +
        ((ps.filter fun p ↦ !(strip u.isSpace p.unsPath.toList).isEmpty).length -
          (cfg.queueCapacity.toNat - s.queue.length)) := by
  induction ps generalizing s with
  | nil => simp [handleDiffs]
  | cons p ps ih =>
    obtain ⟨hq, hd⟩ := handleDiff_enqueues u floatValue cfg s p
    obtain ⟨ihq, ihd⟩ := ih (handleDiff u floatValue cfg s p)
    change (handleDiffs u floatValue cfg (handleDiff u floatValue cfg s p) ps).queue = _ ∧
      (handleDiffs u floatValue cfg (handleDiff u floatValue cfg s p) ps).metrics.queueDroppedTotal = _
    rw [ihq, ihd, List.filter_cons]
    by_cases hs : strip u.isSpace p.unsPath.toList = []
    · rw [if_pos (.inl hs)] at hq
      rw [if_neg fun h ↦ h.1 hs] at hd
      rw [hq, hd, if_neg (by simpa [List.isEmpty_iff] using hs)]
      exact ⟨rfl, rfl⟩
    · rw [if_pos (by simpa [List.isEmpty_iff] using hs), List.map_cons, List.length_cons]
      by_cases hc : cfg.queueCapacity ≤ s.queue.length
      · rw [if_pos (.inr hc)] at hq
        rw [if_pos ⟨hs, hc⟩] at hd
        have hk : cfg.queueCapacity.toNat - s.queue.length = 0 := by omega
        rw [hq, hd, hk, List.take_zero, List.take_zero]
        exact ⟨rfl, by omega⟩
      · rw [if_neg fun h ↦ h.elim hs hc] at hq
        rw [if_neg fun h ↦ hc h.2] at hd
        have hk : cfg.queueCapacity.toNat - s.queue.length =
            cfg.queueCapacity.toNat - (s.queue.length + 1) + 1 := by omega
        rw [hq, hd, hk, List.take_succ_cons, List.length_append, List.length_singleton,
          List.append_assoc, List.singleton_append]
        exact ⟨rfl, by omega⟩

end Handoff

/-! ## The writer the runtime builds -/

section Construction

/-- The settings `ServiceRuntime.__init__` reads to build the session manager and the writer. -/
structure RuntimeSettings where
  clientId : String
  canaryEnabled : Bool
  canaryBaseUrl : String
  canaryApiToken : String
  canaryClientId : String
  canaryHistorians : List String
  canaryRateLimitRps : Int
  canaryQueueCapacity : Int
  canaryMaxBatchTags : Int
  canaryMaxPayloadBytes : Int
  canaryRetryAttempts : Int
  canaryRetryBaseDelaySeconds : ℚ
  canaryRetryMaxDelaySeconds : ℚ
  canaryCircuitConsecutiveFailures : Int
  canaryCircuitResetSeconds : ℚ
  canarySessionTimeoutMs : Int
  canaryKeepaliveIdleSeconds : Int
  canaryKeepaliveJitterSeconds : Int

/-- The `CanaryClientSettings` the runtime passes: the burst size is the rate limit. -/
def RuntimeSettings.clientSettings (s : RuntimeSettings) : CanaryClientSettings where
  rateLimitRps := s.canaryRateLimitRps
  burstSize := s.canaryRateLimitRps
  queueCapacity := s.canaryQueueCapacity
  maxBatchTags := s.canaryMaxBatchTags
  maxPayloadBytes := s.canaryMaxPayloadBytes
  retryAttempts := s.canaryRetryAttempts
  retryBaseDelaySeconds := s.canaryRetryBaseDelaySeconds
  retryMaxDelaySeconds := s.canaryRetryMaxDelaySeconds
  circuitConsecutiveFailures := s.canaryCircuitConsecutiveFailures
  circuitResetSeconds := s.canaryCircuitResetSeconds

/-- The Canary part of `ServiceRuntime.__init__`: with the writer enabled and a base URL and an API
token, the session manager, then the writer with the session manager and the dead-letter handler;
none when a constructor raises (the error is logged, and the new session manager, which holds no
token, revoked and closed). -/
def canaryWriter (s : RuntimeSettings) (jitter : ℚ → ℚ) :
    Option (Canary.Session.SessionConfig × ClientConfig) :=
  if s.canaryEnabled && !s.canaryBaseUrl.isEmpty && !s.canaryApiToken.isEmpty then
    match Canary.Session.SessionConfig.create s.canaryBaseUrl s.canaryApiToken
        (if s.canaryClientId.isEmpty then s.clientId else s.canaryClientId) s.canaryHistorians
        s.canarySessionTimeoutMs s.canaryKeepaliveIdleSeconds s.canaryKeepaliveJitterSeconds with
    | .error _ => none
    | .ok session =>
      match s.clientSettings.toConfig jitter true true false with
      | .error _ => none
      | .ok cfg => some (session, cfg)
  else none

end Construction

end UnsMetadataSync.Runtime
