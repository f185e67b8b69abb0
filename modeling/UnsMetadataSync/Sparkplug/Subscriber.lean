import UnsMetadataSync.Db.Repository
import UnsMetadataSync.PathNormalizer
import Mathlib.Algebra.Order.Ring.Rat

/-!
# The Sparkplug subscriber

`service.py`'s `SparkplugSubscriber.on_message` splits the topic, decodes the payload, learns
the aliases of a birth frame, resolves every metric's name, normalises the paths, and hands the
frame to `_persist_frame`.  That checks the three required dimensions and then, inside one
`with conn.transaction()`, upserts the device, the metrics and their properties.

`on_message` stores a metric's datatype as `int(metric.datatype)`, while `_metric_datatype`
accepts only a non-blank string, so no metric of a received frame reaches the repository
(`onMessage_keeps_metric_tables`).  Under autocommit the transaction block groups nothing, so a
failure after the device upsert leaves the device row behind (`persistFrame_keeps_device_row`).

Protobuf decoding is outside the model: a decoded metric carries the value `_metric_value`
returns and the dict `_props_to_dict` returns.  Console output and the JSONL file are left out.
-/

namespace UnsMetadataSync.Sparkplug.Subscriber

open CanaryId PathNormalizer Db Connection Repository

/-! ## Frames -/

/-- A Python value as the subscriber handles it: the scalars it converts, and any other object
(bytes, a dataset, a nested property set) with the text `str()` gives for it. -/
inductive PyValue where
  | none
  | bool (b : Bool)
  | int (n : Int)
  | float (repr : String)
  | str (s : String)
  | other (text : String)
  deriving DecidableEq, Repr

/-- `str(value)`. -/
def PyValue.toStr : PyValue → String
  | .none => "None"
  | .bool b => if b then "True" else "False"
  | .int n => toString n
  | .float repr => repr
  | .str s => s
  | .other text => text

/-- A decoded Sparkplug metric, with the fields `on_message` reads; `aliasIndex` is its
`alias`. -/
structure SparkplugMetric where
  name : String
  aliasIndex : Nat
  datatype : Nat
  timestamp : Nat
  value : PyValue
  properties : List (String × PyValue)

/-- A metric of a frame: the dict `on_message` builds.  `datatype` holds `int(metric.datatype)`
there; `unsPath` and `canaryId` are absent when the path does not normalise. -/
structure FrameMetric where
  name : String
  value : PyValue
  datatype : PyValue
  ts : Option Nat
  props : List (String × PyValue)
  unsPath : Option String
  canaryId : Option String

/-- The frame `on_message` hands to `_persist_frame`. -/
structure Frame where
  topic : String
  deviceUnsPath : Option String
  metrics : List FrameMetric

/-- The settings the subscriber reads. -/
structure SubscriberSettings where
  dbMode : String
  autoRequestRebirth : Bool
  rebirthThrottleSeconds : ℚ

variable (u : UnicodeData) (settings : SubscriberSettings)

/-- `s.strip()`. -/
def pyStrip (s : String) : String := String.mk (strip u.isSpace s.toList)

/-! ## `_persist_frame` -/

/-- `_extract_dimension`: the first usable value of a metric named `key`, ignoring case. -/
def extractDimension (metrics : List FrameMetric) (key default : String) : String :=
  let target := u.lower key.toList
  let usable : PyValue → Option String
    | .str s => if (pyStrip u s).isEmpty then none else some (pyStrip u s)
    | .none => none
    | v => some v.toStr
  ((metrics.filter fun m ↦ u.lower m.name.toList == target).filterMap (usable ·.value)).head?.getD
    default

/-- `_metric_datatype`: a non-blank string, stripped. -/
def metricDatatype : PyValue → Except String String
  | .str s => if (pyStrip u s).isEmpty then .error "missing or invalid 'datatype' for metric"
    else .ok (pyStrip u s)
  | _ => .error "missing or invalid 'datatype' for metric"

/-- `_build_property_payload`. -/
def buildPropertyPayload (metricId : Nat) (key : String) : PyValue → Option MetricPropertyPayload
  | .none => none
  | .bool b => some ⟨metricId, key, .boolean b⟩
  | .int n =>
    some ⟨metricId, key, if -2147483648 ≤ n ∧ n ≤ 2147483647 then .int n else .long n⟩
  | .float repr => some ⟨metricId, key, .double repr⟩
  | .str s => if (pyStrip u s).isEmpty then none else some ⟨metricId, key, .string (pyStrip u s)⟩
  | .other _ => none

/-- The metric payloads of a frame: a named metric with a path and a valid datatype. -/
def metricPayloads (deviceId : Nat) (metrics : List FrameMetric) : List MetricPayload :=
  metrics.filterMap fun m ↦
    match m.unsPath, metricDatatype u m.datatype with
    | some unsPath, .ok datatype =>
      if m.name.isEmpty ∨ unsPath.isEmpty then none else some ⟨deviceId, m.name, unsPath, datatype⟩
    | _, _ => none

/-- The property payloads of the metrics the bulk upsert returned an id for. -/
def propertyPayloads (idMap : List (String × Nat)) (metrics : List FrameMetric) :
    List MetricPropertyPayload :=
  metrics.flatMap fun m ↦
    match idMap.lookup m.name with
    | some metricId =>
      if metricId = 0 then [] else m.props.filterMap fun (key, value) ↦ buildPropertyPayload u metricId key value
    | none => []

/-- The exceptions of the transaction block: the repository's, and the `AttributeError` of a
device upsert that returned no row. -/
inductive FrameError where
  | repo (e : RepoError)
  | attribute (message : String)

/-- The body of the transaction block. -/
def persistBody (payload : DevicePayload) (metrics : List FrameMetric) :
    Sql Tables FrameError Unit :=
  andThen (mapError .repo (upsertDevice payload)) fun result ↦
    match result.record with
    | none => fun c ↦ (.error (.attribute "'NoneType' object has no attribute 'get'"), c)
    | some record =>
      if record.deviceId = 0 then ret ()
      else
        let payloads := metricPayloads u record.deviceId metrics
        if payloads.isEmpty then ret ()
        else andThen (mapError .repo (upsertMetricsBulk payloads)) fun idMap ↦
          let properties := propertyPayloads u idMap metrics
          if properties.isEmpty then ret ()
          else andThen (mapError .repo (upsertMetricPropertiesBulk properties)) fun _ ↦ ret ()

/-- `except RepositoryError`: it prints and returns; other exceptions go on. -/
def catchRepositoryError (x : Sql Tables FrameError Unit) : Sql Tables String Unit := fun c ↦
  match x c with
  | (.ok (), c) => (.ok (), c)
  | (.error (.repo (.repository _)), c) => (.ok (), c)
  | (.error (.repo (.value message)), c) => (.error message, c)
  | (.error (.attribute message), c) => (.error message, c)

theorem keeps_catchRepositoryError {β : Type} {f : Tables → β} {x : Sql Tables FrameError Unit}
    (h : Keeps f x) : Keeps f (catchRepositoryError x) := by
  intro c
  unfold catchRepositoryError
  split <;> next heq => rw [← h c, heq]

/-- `_persist_frame`, on the repository's connection, with `db_mode` checked. -/
def persistFrame (group edgeNode : String) (device : Option String) (frame : Frame) :
    Sql Tables String Unit :=
  if settings.dbMode ≠ "local" then ret ()
  else match device, frame.deviceUnsPath with
    | some device, some deviceUnsPath =>
      let country := pyStrip u (extractDimension u frame.metrics "country" "")
      let businessUnit := pyStrip u (extractDimension u frame.metrics "business_unit" "")
      let plant := pyStrip u (extractDimension u frame.metrics "plant" "")
      if device.isEmpty ∨ deviceUnsPath.isEmpty ∨ country.isEmpty ∨ businessUnit.isEmpty ∨
          plant.isEmpty then ret ()
      else catchRepositoryError (transaction (persistBody u
        ⟨group, country, businessUnit, plant, edgeNode, device, deviceUnsPath⟩ frame.metrics))
    | _, _ => ret ()

/-! ## Property sets

A metric's properties arrive as a Sparkplug `PropertySet`: parallel lists of keys and values, each
value with one member of its `value` oneof set, a `PropertySet` or a `PropertySetList` nesting
further.  `_props_to_dict` turns them into a dict; `_build_property_payload` types its scalar
values, choosing `int` or `long` by the 32-bit range alone. -/

mutual

/-- A Sparkplug `PropertyValue`: the member of its `value` oneof that is set, with the value
protobuf hands out for it (a float as the `repr` of the Python float). -/
inductive PropertyValueMsg where
  | unset
  | intValue (v : UInt32)
  | longValue (v : UInt64)
  | floatValue (repr : String)
  | doubleValue (repr : String)
  | booleanValue (b : Bool)
  | stringValue (s : String)
  | propertysetValue (set : PropertySet)
  | propertysetsValue (sets : List PropertySet)
  | extensionValue (text : String)

/-- A Sparkplug `PropertySet`. -/
inductive PropertySet where
  | mk (keys : List String) (values : List PropertyValueMsg)

end

/-- `repr(value)`, which `str()` of a dict holding it writes. -/
def PyValue.repr : PyValue → String
  | .none => "None"
  | .bool b => if b then "True" else "False"
  | .int n => toString n
  | .float repr => repr
  | .str s => Json.pyReprStr s
  | .other text => text

/-- `str(d)` of a dict. -/
def reprDict (entries : List (String × PyValue)) : String :=
  "\x7b" ++ ", ".intercalate (entries.map fun (key, value) ↦ Json.pyReprStr key ++ ": " ++ value.repr) ++ "\x7d"

mutual

/-- `_props_to_dict`.  A nested set is a dict and a set list a list of dicts, values the
subscriber keeps as objects with their text. -/
def propsToDict : PropertySet → List (String × PyValue)
  | .mk keys values => propsEntries [] keys values

/-- The loop over `zip(props_set.keys, props_set.values)`, a later key overwriting an earlier
one in place. -/
def propsEntries (result : List (String × PyValue)) : List String → List PropertyValueMsg →
    List (String × PyValue)
  | key :: keys, value :: values => propsEntries (Json.setItem result key (propValue value)) keys values
  | _, _ => result

/-- The value `_props_to_dict` keeps for one `PropertyValue`. -/
def propValue : PropertyValueMsg → PyValue
  | .unset => .none
  | .intValue v => .int v.toNat
  | .longValue v => .int v.toNat
  | .floatValue repr => .float repr
  | .doubleValue repr => .float repr
  | .booleanValue b => .bool b
  | .stringValue s => .str s
  | .propertysetValue set => .other (reprDict (propsToDict set))
  | .propertysetsValue sets => .other ("[" ++ ", ".intercalate (reprDicts sets) ++ "]")
  | .extensionValue text => .other text

/-- The texts of the dicts of a set list. -/
def reprDicts : List PropertySet → List String
  | [] => []
  | set :: sets => reprDict (propsToDict set) :: reprDicts sets

end

theorem mem_propsEntries {result : List (String × PyValue)} {keys : List String}
    {values : List PropertyValueMsg} {entry : String × PyValue} (h : entry ∈ propsEntries result keys values) :
    entry ∈ result ∨ ∃ value ∈ values, entry.2 = propValue value := by
  induction keys generalizing result values with
  | nil => cases values <;> exact .inl h
  | cons key keys ih =>
    cases values with
    | nil => exact .inl h
    | cons value values =>
      have h : entry ∈ propsEntries (Json.setItem result key (propValue value)) keys values := h
      rcases ih h with h | ⟨v, hv, he⟩
      · rcases Json.mem_setItem h with h | rfl
        · exact .inl h
        · exact .inr ⟨value, List.mem_cons_self _ _, rfl⟩
      · exact .inr ⟨v, List.mem_cons_of_mem _ hv, he⟩

/-- Every value of the dict is the value kept for one `PropertyValue` of the set. -/
theorem mem_propsToDict {set : PropertySet} {key : String} {value : PyValue}
    (h : (key, value) ∈ propsToDict set) : ∃ v, value = propValue v := by
  obtain ⟨keys, values⟩ := set
  rw [propsToDict] at h
  rcases mem_propsEntries h with h | ⟨v, -, hv⟩
  · cases h
  · exact ⟨v, hv⟩

/-- The column a typed property lands in takes its value unless it is a `long` of `2^63` or
more. -/
theorem rangeError_buildPropertyPayload (metricId : Nat) (key : String) (v : PropertyValueMsg)
    {p : MetricPropertyPayload} (hp : buildPropertyPayload u metricId key (propValue v) = some p) :
    ((propertyColumnValues p.value).rangeError = none ↔ ∀ n, p.value = .long n → n < 2 ^ 63) ∧
      (∀ n, p.value = .int n → -2 ^ 31 ≤ n ∧ n < 2 ^ 31) ∧
      (∀ n, p.value = .long n → 2 ^ 31 ≤ n ∧ n < 2 ^ 64) := by
  have hsmall : ∀ (n : Nat) (h : n < 2 ^ 64), buildPropertyPayload u metricId key (.int n) = some p →
      ((propertyColumnValues p.value).rangeError = none ↔ ∀ n, p.value = .long n → n < 2 ^ 63) ∧
      (∀ n, p.value = .int n → -2 ^ 31 ≤ n ∧ n < 2 ^ 31) ∧
      (∀ n, p.value = .long n → 2 ^ 31 ≤ n ∧ n < 2 ^ 64) := by
    intro n hn hp
    simp only [buildPropertyPayload, Option.some.injEq] at hp
    subst hp
    rw [rangeError_propertyColumnValues_eq_none]
    split_ifs with hr
    · simp only [PropertyValue.int.injEq, reduceCtorEq, forall_eq', IsEmpty.forall_iff, implies_true, and_true,
        iff_true]
      omega
    · simp only [PropertyValue.long.injEq, reduceCtorEq, forall_eq', IsEmpty.forall_iff, implies_true, true_and]
      omega
  cases v with
  | intValue v => exact hsmall v.toNat (lt_of_lt_of_le v.toNat_lt_size (by decide)) hp
  | longValue v => exact hsmall v.toNat v.toNat_lt_size hp
  | stringValue s =>
    simp only [propValue, buildPropertyPayload] at hp
    split at hp
    · cases hp
    · obtain rfl := Option.some.inj hp
      simp only [rangeError_propertyColumnValues_eq_none, reduceCtorEq, IsEmpty.forall_iff, implies_true, and_self]
  | floatValue r | doubleValue r | booleanValue r =>
    obtain rfl := Option.some.inj hp
    simp only [rangeError_propertyColumnValues_eq_none, reduceCtorEq, IsEmpty.forall_iff, implies_true, and_self]
  | unset | propertysetValue _ | propertysetsValue _ | extensionValue _ => cases hp

/-- Every payload `_build_property_payload` builds from a value `_props_to_dict` extracts is typed
`int` only inside the 32-bit range, but typed `long` for every larger `int_value` or `long_value`
up to `2^64 - 1`: it fits its column unless it is a `long` of `2^63` or more.  A payload that does
not fit makes the bulk property upsert raise the column's error. -/
theorem property_payload_column_range :
    (∀ (set : PropertySet) (metricId : Nat) (key : String) (value : PyValue) (p : MetricPropertyPayload),
      (key, value) ∈ propsToDict set → buildPropertyPayload u metricId key value = some p →
      ((propertyColumnValues p.value).rangeError = none ↔ ∀ n, p.value = .long n → n < 2 ^ 63) ∧
        (∀ n, p.value = .int n → -2 ^ 31 ≤ n ∧ n < 2 ^ 31) ∧
        (∀ n, p.value = .long n → 2 ^ 31 ≤ n ∧ n < 2 ^ 64)) ∧
    (∀ (p : MetricPropertyPayload) (e : DriverError) (c : Connection Tables),
      (propertyColumnValues p.value).rangeError = some e → c.failAt = none →
      (upsertMetricPropertiesBulk [p] 10000 c).1 =
          .error (.repository ("metric property bulk upsert failed: " ++ e.message)) ∧
        (upsertMetricPropertiesBulk [p] 10000 c).2.committed = c.committed) := by
  refine ⟨fun set metricId key value p hmem hp ↦ ?_, fun p e c he hc ↦ upsertMetricPropertiesBulk_of_rangeError he hc⟩
  obtain ⟨v, rfl⟩ := mem_propsToDict hmem
  exact rangeError_buildPropertyPayload u metricId key v hp

/-- A property `max` holding `long_value = 2^64 - 1`: the payload is typed `long` and the bulk
upsert raises `bigint out of range`. -/
theorem uint64_max_property_overflows_bigint :
    ("max", PyValue.int 18446744073709551615) ∈ propsToDict (.mk ["max"] [.longValue 18446744073709551615]) ∧
      buildPropertyPayload asciiTables 1 "max" (.int 18446744073709551615) =
        some ⟨1, "max", .long 18446744073709551615⟩ ∧
      (propertyColumnValues (.long 18446744073709551615)).rangeError ≠ none ∧
      (upsertMetricPropertiesBulk [⟨1, "max", .long 18446744073709551615⟩] 10000 ⟨Tables.empty, 0, none⟩).1 =
        .error (.repository "metric property bulk upsert failed: bigint out of range") := by
  have hmem : ("max", PyValue.int 18446744073709551615) ∈
      propsToDict (.mk ["max"] [.longValue 18446744073709551615]) := by decide
  have hp : buildPropertyPayload asciiTables 1 "max" (.int 18446744073709551615) =
      some ⟨1, "max", .long 18446744073709551615⟩ := by decide
  refine ⟨hmem, hp, fun h ↦ ?_, ((property_payload_column_range asciiTables).2 ⟨1, "max", .long 18446744073709551615⟩
    ⟨"bigint out of range"⟩ ⟨Tables.empty, 0, none⟩ rfl rfl).1⟩
  have hfits := ((property_payload_column_range asciiTables).1 _ 1 "max" _ _ hmem hp).1.1 h
  exact absurd (hfits _ rfl) (by decide)

/-! ## `on_message` -/

/-- The key of an alias map: group, edge node and device. -/
abbrev AliasKey := String × String × Option String

/-- An entry of an alias map. -/
structure AliasEntry where
  name : String
  datatype : Nat
  props : List (String × PyValue)

/-- The subscriber's state: the alias maps, the rebirth throttle, the rebirth requests published
(latest first), the canary id generator and the repository's connection, if any. -/
structure SubscriberState where
  aliasMaps : List (AliasKey × List (Nat × AliasEntry))
  lastRebirthRequest : List (AliasKey × ℚ)
  published : List String
  generator : CanaryIdGenerator
  repository : Option (Connection Tables)

/-- `_topic_parts`: group, message type, edge node and device. -/
def topicParts (topic : String) : Option (String × String × String × Option String) :=
  match topic.toList.splitOn '/' with
  | first :: group :: msgType :: edgeNode :: rest =>
    if u.lower first = "spbv1.0".toList then
      some (String.mk group, String.mk (u.upper msgType), String.mk edgeNode, rest.head?.map String.mk)
    else none
  | _ => none

/-- `_ingest_birth`: the named, aliased metrics of a birth frame into the key's alias map. -/
def ingestBirth (key : AliasKey) (metrics : List SparkplugMetric) (s : SubscriberState) : SubscriberState :=
  let aliasMap := metrics.foldl (fun m metric ↦
      if metric.aliasIndex = 0 ∨ metric.name.isEmpty then m
      else Json.setItem m metric.aliasIndex ⟨metric.name, metric.datatype, metric.properties⟩)
    ((s.aliasMaps.lookup key).getD [])
  { s with aliasMaps := Json.setItem s.aliasMaps key aliasMap }

/-- `_may_request_rebirth` at clock reading `now`. -/
def mayRequestRebirth (now : ℚ) (key : AliasKey) (s : SubscriberState) : SubscriberState :=
  if !settings.autoRequestRebirth then s
  else if now - (s.lastRebirthRequest.lookup key).getD 0 < settings.rebirthThrottleSeconds then s
  else { s with published := ("spBv1.0/" ++ key.1 ++ "/" ++ key.2.1 ++ "/command/rebirth") :: s.published,
                lastRebirthRequest := Json.setItem s.lastRebirthRequest key now }

/-- `_resolve_name`. -/
def resolveName (now : ℚ) (key : AliasKey) (metric : SparkplugMetric) (s : SubscriberState) :
    String × SubscriberState :=
  if !metric.name.isEmpty then (metric.name, s)
  else if metric.aliasIndex = 0 then ("", s)
  else
    let found := [key, (key.1, key.2.1, none)].findSome? fun k ↦
      ((s.aliasMaps.lookup k).bind fun m ↦ m.lookup metric.aliasIndex).map (·.name)
    match found with
    | some name => (name, s)
    | none => ("alias:" ++ toString metric.aliasIndex, mayRequestRebirth settings now key s)

@[simp] theorem ingestBirth_repository (key : AliasKey) (metrics : List SparkplugMetric)
    (s : SubscriberState) : (ingestBirth key metrics s).repository = s.repository := rfl

@[simp] theorem mayRequestRebirth_repository (now : ℚ) (key : AliasKey) (s : SubscriberState) :
    (mayRequestRebirth settings now key s).repository = s.repository := by
  unfold mayRequestRebirth
  split_ifs <;> rfl

@[simp] theorem resolveName_repository (now : ℚ) (key : AliasKey) (metric : SparkplugMetric)
    (s : SubscriberState) : (resolveName settings now key metric s).2.repository = s.repository := by
  unfold resolveName
  split_ifs
  · rfl
  · rfl
  · dsimp only
    split <;> simp

/-- The loop of `on_message` that builds the metric dicts. -/
def frameMetrics (now : ℚ) (key : AliasKey) : List SparkplugMetric → SubscriberState →
    List FrameMetric × SubscriberState
  | [], s => ([], s)
  | metric :: rest, s =>
    let (name, s) := resolveName settings now key metric s
    let (metrics, s) := frameMetrics now key rest s
    (⟨name, metric.value, .int metric.datatype, some metric.timestamp, metric.properties, none, none⟩
      :: metrics, s)

@[simp] theorem frameMetrics_repository (now : ℚ) (key : AliasKey) (metrics : List SparkplugMetric)
    (s : SubscriberState) : (frameMetrics settings now key metrics s).2.repository = s.repository := by
  induction metrics generalizing s with
  | nil => rfl
  | cons metric rest ih => simp [frameMetrics, ih]

/-- The loop of `on_message` that adds `uns_path` and `canary_id`; a failed canary id leaves the
path set. -/
def addPaths (group edgeNode : String) (device : Option String) :
    List FrameMetric → CanaryIdGenerator → List FrameMetric × CanaryIdGenerator
  | [], g => ([], g)
  | m :: rest, g =>
    let (m, g) := match normalizeMetricPath u group.toList edgeNode.toList
        (device.map String.toList) m.name.toList [] with
      | .error _ => (m, g)
      | .ok path => match metricPathToCanaryId u g path with
        | .error _ => ({ m with unsPath := some (String.mk path) }, g)
        | .ok (canaryId, g) =>
          ({ m with unsPath := some (String.mk path), canaryId := some (String.mk canaryId) }, g)
    let (rest, g) := addPaths group edgeNode device rest g
    (m :: rest, g)

/-- `on_message` at clock reading `now`, for a payload that decoded into `decoded` or failed to
decode.  The result is the exception that escapes, if any. -/
def onMessage (now : ℚ) (topic : String) (decoded : Except String (List SparkplugMetric))
    (s : SubscriberState) : Except String Unit × SubscriberState :=
  match topicParts u topic, decoded with
  | none, _ => (.ok (), s)
  | some _, .error _ => (.ok (), s)
  | some (group, msgType, edgeNode, device), .ok payload =>
    let deviceUnsPath := match normalizeDevicePath u group.toList edgeNode.toList
        (device.map String.toList) [] with
      | .ok path => some (String.mk path)
      | .error _ => none
    let s := if msgType = "NBIRTH" then ingestBirth (group, edgeNode, none) payload s
      else if msgType = "DBIRTH" then ingestBirth (group, edgeNode, device) payload s else s
    let deviceForAlias := if msgType.startsWith "D" then device else none
    let (metrics, s) := frameMetrics settings now (group, edgeNode, deviceForAlias) payload s
    let (metrics, generator) := addPaths u group edgeNode device metrics s.generator
    let s := { s with generator }
    match s.repository with
    | none => (.ok (), s)
    | some c =>
      let (result, c) := persistFrame u settings group edgeNode device ⟨topic, deviceUnsPath, metrics⟩ c
      (result, { s with repository := some c })

/-! ## Received frames persist no metric -/

/-- The metric and property rows of the subscriber's repository. -/
def metricTables (s : SubscriberState) : Option (List MetricRow × List PropertyRow) :=
  s.repository.map fun c ↦ (c.committed.metrics, c.committed.properties)

theorem metricPayloads_eq_nil {metrics : List FrameMetric}
    (hdt : ∀ m ∈ metrics, ∃ n, m.datatype = .int n) (deviceId : Nat) :
    metricPayloads u deviceId metrics = [] := by
  refine List.filterMap_eq_nil_iff.2 fun m hm ↦ ?_
  obtain ⟨n, hn⟩ := hdt m hm
  simp only [hn, metricDatatype]
  split <;> simp_all

/-- With no metric payload, the transaction block writes only the device. -/
theorem persistBody_keeps_metrics {payload : DevicePayload} {metrics : List FrameMetric}
    (hdt : ∀ m ∈ metrics, ∃ n, m.datatype = .int n) :
    Keeps (fun t ↦ (t.metrics, t.properties)) (persistBody u payload metrics) := by
  refine keeps_andThen (keeps_mapError (upsertDevice_keeps_metrics payload)) fun result ↦ ?_
  cases result.record with
  | none => exact fun _ ↦ rfl
  | some record =>
    simp only [metricPayloads_eq_nil u hdt, List.isEmpty_nil, ite_true, ite_self]
    exact keeps_ret ()

theorem persistFrame_keeps_metrics {group edgeNode : String} {device : Option String}
    {frame : Frame} (hdt : ∀ m ∈ frame.metrics, ∃ n, m.datatype = .int n) :
    Keeps (fun t ↦ (t.metrics, t.properties)) (persistFrame u settings group edgeNode device frame) := by
  obtain ⟨topic, deviceUnsPath, metrics⟩ := frame
  unfold persistFrame
  split_ifs
  · exact keeps_ret ()
  · cases device <;> cases deviceUnsPath
    all_goals dsimp only
    any_goals exact keeps_ret ()
    split_ifs
    · exact keeps_ret ()
    · exact keeps_catchRepositoryError (keeps_transaction (persistBody_keeps_metrics u hdt))

theorem frameMetrics_datatype (now : ℚ) (key : AliasKey) (metrics : List SparkplugMetric)
    (s : SubscriberState) : ∀ m ∈ (frameMetrics settings now key metrics s).1, ∃ n, m.datatype = .int n := by
  induction metrics generalizing s with
  | nil => simp [frameMetrics]
  | cons metric rest ih =>
    intro m hm
    simp only [frameMetrics, List.mem_cons] at hm
    rcases hm with rfl | hm
    · exact ⟨_, rfl⟩
    · exact ih _ m hm

theorem addPaths_datatype (group edgeNode : String) (device : Option String)
    (metrics : List FrameMetric) (g : CanaryIdGenerator) :
    (addPaths u group edgeNode device metrics g).1.map (·.datatype) = metrics.map (·.datatype) := by
  induction metrics generalizing g with
  | nil => rfl
  | cons m rest ih =>
    simp only [addPaths, List.map_cons]
    split
    · simp_all
    · split <;> simp_all

theorem framed_datatype (group edgeNode : String) (device : Option String) (now : ℚ)
    (key : AliasKey) (metrics : List SparkplugMetric) (s : SubscriberState) (g : CanaryIdGenerator) :
    ∀ m ∈ (addPaths u group edgeNode device (frameMetrics settings now key metrics s).1 g).1,
      ∃ n, m.datatype = .int n := by
  intro m hm
  have hmem : m.datatype ∈ (frameMetrics settings now key metrics s).1.map (·.datatype) := by
    rw [← addPaths_datatype]
    exact List.mem_map_of_mem _ hm
  obtain ⟨m', hm', heq⟩ := List.mem_map.1 hmem
  rw [← heq]
  exact frameMetrics_datatype settings now key metrics s m' hm'

/-- No message `on_message` handles writes a metric or a property row: every metric of the frame
it builds has an integer datatype, which `_metric_datatype` rejects. -/
theorem onMessage_keeps_metric_tables (now : ℚ) (topic : String)
    (decoded : Except String (List SparkplugMetric)) (s : SubscriberState) :
    metricTables (onMessage u settings now topic decoded s).2 = metricTables s := by
  unfold onMessage
  rcases topicParts u topic with _ | ⟨group, msgType, edgeNode, device⟩
  · rfl
  cases decoded with
  | error => rfl
  | ok payload =>
    dsimp only
    have hbirth : ∀ s' : SubscriberState, (if msgType = "NBIRTH" then ingestBirth (group, edgeNode, none) payload s'
        else if msgType = "DBIRTH" then ingestBirth (group, edgeNode, device) payload s' else s').repository =
          s'.repository := by
      intro s'
      split_ifs <;> rfl
    split
    · next hrepo => simp_all [metricTables]
    · next c hrepo =>
      simp only [frameMetrics_repository, hbirth] at hrepo
      simp only [metricTables, hrepo, Option.map_some']
      exact congrArg some (persistFrame_keeps_metrics u settings (framed_datatype u settings _ _ _ _ _ _ _ _) c)

/-! ## A failed frame leaves its device behind -/

/-- Local persistence, no rebirth requests. -/
def localSettings : SubscriberSettings := ⟨"local", false, 0⟩

/-- A metric of a hand-built frame, as the persistence test builds them: a string datatype. -/
def stringMetric (name : String) (value : PyValue) (datatype : String) : FrameMetric :=
  ⟨name, value, .str datatype, none, [], some ("G/E/D/" ++ name), none⟩

/-- A frame of device `G/E/D` with its three dimensions and one measurement. -/
def kilnFrame : Frame :=
  ⟨"spBv1.0/G/DBIRTH/E/D", some "G/E/D",
    [stringMetric "country" (.str "NL") "string", stringMetric "business_unit" (.str "BU") "string",
     stringMetric "plant" (.str "P1") "string", stringMetric "kiln.temp" (.float "812.5") "double"]⟩

/-- On an empty database whose fourth statement, the bulk metric `INSERT`, fails: the
`RepositoryError` is caught and `_persist_frame` returns, but the device row its first upsert
inserted stays committed. -/
theorem persistFrame_keeps_device_row :
    persistFrame asciiTables localSettings "G" "E" (some "D") kilnFrame ⟨Tables.empty, 0, some 3⟩ =
      (.ok (), ⟨⟨[⟨1, "G", "NL", "BU", "P1", "E", "D", "G/E/D"⟩], [], [], 2, 1⟩, 4, some 3⟩) :=
  rfl

end UnsMetadataSync.Sparkplug.Subscriber
