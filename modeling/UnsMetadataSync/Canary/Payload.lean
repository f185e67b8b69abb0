import UnsMetadataSync.Json
import UnsMetadataSync.PathNormalizer

/-!
# Canary Write API payloads

`canary/payload.py` maps a batch of diffs to one `/storeData` request: a session token and,
per Canary tag, the list of `[key, timestamp, value, quality]` entries built from a diff's
properties.  The entries of a diff are stored under its tag with a dictionary assignment, so
a later diff of the batch with the same tag replaces the entries of an earlier one.
-/

namespace UnsMetadataSync.Canary.Payload

open Json CanaryId PathNormalizer

/-- `CanaryDiff`; its dicts keep their keys in insertion order. -/
structure CanaryDiff where
  unsPath : String
  properties : List (String × JsonValue)
  metadata : List (String × JsonValue)
  actor : Option String
  version : Option Int

/-- `CanaryPayloadMapper`; the constructor rejects a non-positive byte limit. -/
structure CanaryPayloadMapper where
  qualityCode : Int
  maxPayloadBytes : Nat
  maxPayloadBytes_pos : 0 < maxPayloadBytes

/-- The mapper's defaults. -/
def CanaryPayloadMapper.default : CanaryPayloadMapper := ⟨192, 1000000, by decide⟩

/-- `ValueError` and its subclass `PayloadTooLargeError`, which the client does not retry. -/
inductive PayloadError where
  | invalid (message : String)
  | tooLarge (message : String)

/-- `isinstance(value, int)`: a JSON integer, or a boolean, which Python's `int` includes. -/
def pyIntValue : JsonValue → Option Int
  | .int n => some n
  | .bool b => some (if b then 1 else 0)
  | _ => none

/-- The properties `from_mapping` reads from `changes`, or `diff`: the items of a dict, or the
`key` and `value` of the dicts with a `key` in a list; a string is a sequence of characters,
none of them a dict. -/
def readProperties : JsonValue → List (String × JsonValue)
  | .obj entries => setItems [] entries
  | .arr items => setItems [] (items.filterMap fun
    | .obj entry => if (entry.lookup "key").isSome then some (pyStr (pyGet entry "key"), pyGet entry "value")
      else none
    | _ => none)
  | _ => []

/-- One `[key, timestamp, value, quality]` entry. -/
structure Entry where
  key : String
  timestamp : String
  value : JsonValue
  quality : Int

def Entry.toJson (e : Entry) : JsonValue := .arr [.str e.key, .str e.timestamp, e.value, .int e.quality]

/-- The body of a `/storeData` request. -/
structure StoreDataPayload where
  sessionToken : String
  properties : List (String × List Entry)

def StoreDataPayload.toJson (p : StoreDataPayload) : JsonValue :=
  .obj [("sessionToken", .str p.sessionToken),
    ("properties", .obj (p.properties.map fun (tag, entries) ↦ (tag, .arr (entries.map Entry.toJson))))]

variable (mapper : CanaryPayloadMapper) (u : UnicodeData)

/-- `CanaryDiff.from_mapping`: the `ValueError` for a missing or blank path, else the diff of the
stripped path, the properties, the metadata dict, and the actor and version, from the payload or
else from the metadata's `latest_actor` and `latest_version`. -/
def CanaryDiff.fromMapping (payload : List (String × JsonValue)) : Except String CanaryDiff :=
  match pyOr (pyGet payload "uns_path") (pyGet payload "metric") with
  | .str rawPath =>
    let unsPath := String.mk (strip u.isSpace rawPath.toList)
    if unsPath.isEmpty then .error "metric path must not be empty"
    else
      let rawProperties := match pyGet payload "changes" with
        | .null => pyGet payload "diff"
        | v => v
      let metadata := match pyOr (pyGet payload "metadata") (pyGet payload "extras") with
        | .obj entries => entries
        | _ => []
      let latestActor := match pyGet metadata "latest_actor" with
        | .str a => some a
        | _ => none
      let actor := match pyGet payload "actor" with
        | .str a => if (strip u.isSpace a.toList).isEmpty then latestActor else some a
        | _ => latestActor
      let version := (pyIntValue (pyGet payload "version")).or (pyIntValue (pyGet metadata "latest_version"))
      .ok ⟨unsPath, readProperties rawProperties, metadata, actor, version⟩
  | _ => .error "diff payload must include 'uns_path' or 'metric'"

/-- `_encode_value`: `None` is `""`, a boolean is its lower-case text, numbers and strings are
kept, and any other value is its own JSON round trip. -/
def encodeValue : JsonValue → JsonValue
  | .null => .str ""
  | .bool b => .str (if b then "true" else "false")
  | v => v

/-- `_build_entries`: one entry per property whose stripped key is non-empty. -/
def buildEntries (properties : List (String × JsonValue)) (timestamp : String) : List Entry :=
  properties.filterMap fun (key, rawValue) ↦
    let keyStr := String.mk (strip u.isSpace key.toList)
    if keyStr.isEmpty then none else some ⟨keyStr, timestamp, encodeValue rawValue, mapper.qualityCode⟩

/-- The loop of `build_payload` over the batch. -/
def buildProperties (timestamp : String) :
    List CanaryDiff → List (String × List Entry) → Except PayloadError (List (String × List Entry))
  | [], properties => .ok properties
  | diff :: rest, properties =>
    let entries := buildEntries mapper u diff.properties timestamp
    if entries.isEmpty then buildProperties timestamp rest properties
    else match metricPathTag u diff.unsPath.toList with
      | .error e => .error (.invalid e)
      | .ok tag => buildProperties timestamp rest (setItem properties (String.mk tag) entries)

/-- `build_payload`, with `timestamp` the normalised reading of the timestamp provider. -/
def buildPayload (timestamp sessionToken : String) (diffs : List CanaryDiff) :
    Except PayloadError StoreDataPayload :=
  let token := String.mk (strip u.isSpace sessionToken.toList)
  if token.isEmpty then .error (.invalid "session_token must not be empty")
  else if diffs.isEmpty then .error (.invalid "diffs must not be empty")
  else match buildProperties mapper u timestamp diffs [] with
    | .error e => .error e
    | .ok properties =>
      if properties.isEmpty then .error (.invalid "no diff entries yielded payload content")
      else
        let payload : StoreDataPayload := ⟨token, properties⟩
        let size := utf8Length (dumps payload.toJson)
        if size > mapper.maxPayloadBytes then
          .error (.tooLarge ("canary payload size " ++ toString size ++ " bytes exceeds limit " ++
            toString mapper.maxPayloadBytes ++ " (metrics: " ++
            ", ".intercalate ((properties.map Prod.fst).mergeSort (· ≤ ·)) ++ ")"))
        else .ok payload

/-- Two diffs of one metric, each with one property. -/
def sameMetricBatch : List CanaryDiff :=
  [⟨"G/E/D/m", [("displayHigh", .int 1800)], [], none, some 6⟩,
   ⟨"G/E/D/m", [("displayLow", .int 30)], [], none, some 7⟩]

/-- The request for a batch holding two diffs of one metric carries only the second diff's entry:
`displayHigh` is missing from the list under `G.E.D.m`. -/
theorem same_tag_keeps_last_diff :
    buildPayload CanaryPayloadMapper.default asciiTables "2024-01-01T00:00:00.000000Z" "token"
        sameMetricBatch =
      .ok ⟨"token", [("G.E.D.m", [⟨"displayLow", "2024-01-01T00:00:00.000000Z", .int 30, 192⟩])]⟩ :=
  rfl

end UnsMetadataSync.Canary.Payload
