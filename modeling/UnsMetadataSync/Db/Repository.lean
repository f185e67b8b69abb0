import UnsMetadataSync.Db.Connection
import UnsMetadataSync.Json

/-!
# The metadata repository

`db/repository.py` writes devices, metrics and metric properties.  `upsert_device` and
`upsert_metric` look a row up by its path, then by its identity, and update or insert it;
`upsert_metric_property` looks a property up by `(metric_id, key)` and compares it with Python's
`==`;
`upsert_metrics_bulk` inserts metrics in batches with `ON CONFLICT (device_id, name) DO UPDATE`
and reads their ids back; `upsert_metric_properties_bulk` does the same for properties, keyed
by `(metric_id, key)`.  Every upsert runs its statements inside `with conn.transaction()`,
which under autocommit groups nothing (`Connection.transaction_eq`).

The tables keep the columns these functions read and write; the timestamps are left out.  An id
sequence advances for every row an `INSERT` of a statement that succeeds proposes, whether the row
is inserted or its conflict clause updates another; the ids a failed statement draws before it
fails are not modelled.  A statement fails only when the environment injects a failure, when an `ON CONFLICT DO UPDATE`
would change one row twice, or when a property value is out of its column's range.
-/

namespace UnsMetadataSync.Db.Repository

open Json Connection

/-! ## Tables -/

/-- A row of `uns_meta.devices`. -/
structure DeviceRow where
  deviceId : Nat
  groupId : String
  country : String
  businessUnit : String
  plant : String
  edge : String
  device : String
  unsPath : String
  deriving DecidableEq, Repr

/-- A row of `uns_meta.metrics`; its `canary_id` column is generated from `uns_path`. -/
structure MetricRow where
  metricId : Nat
  deviceId : Nat
  name : String
  unsPath : String
  datatype : String
  deriving DecidableEq, Repr

/-- The value columns of `uns_meta.metric_properties`; floats are kept as their `repr`. -/
structure PropertyColumns where
  valueInt : Option Int
  valueLong : Option Int
  valueFloat : Option String
  valueDouble : Option String
  valueString : Option String
  valueBool : Option Bool
  deriving DecidableEq, Repr

/-- A row of `uns_meta.metric_properties`. -/
structure PropertyRow where
  metricId : Nat
  key : String
  type : String
  columns : PropertyColumns
  deriving DecidableEq, Repr

/-- The tables the repository writes, and the next values of their id sequences. -/
structure Tables where
  devices : List DeviceRow
  metrics : List MetricRow
  properties : List PropertyRow
  nextDeviceId : Nat
  nextMetricId : Nat
  deriving DecidableEq, Repr

/-- Empty tables with fresh sequences. -/
def Tables.empty : Tables := ⟨[], [], [], 1, 1⟩

/-! ## Payloads and results -/

/-- `DevicePayload`. -/
structure DevicePayload where
  groupId : String
  country : String
  businessUnit : String
  plant : String
  edge : String
  device : String
  unsPath : String
  deriving DecidableEq, Repr

/-- `MetricPayload`. -/
structure MetricPayload where
  deviceId : Nat
  name : String
  unsPath : String
  datatype : String
  deriving DecidableEq, Repr

/-- The value of a property payload, with the type name the service gives it: its only caller
builds `boolean` from a bool, `int` and `long` from an int, `double` from a float and `string`
from a str. -/
inductive PropertyValue where
  | boolean (b : Bool)
  | int (n : Int)
  | long (n : Int)
  | double (repr : String)
  | string (s : String)
  deriving DecidableEq, Repr

/-- `MetricPropertyPayload`; its `type` is `value.typeName`. -/
structure MetricPropertyPayload where
  metricId : Nat
  key : String
  value : PropertyValue
  deriving DecidableEq, Repr

def PropertyValue.typeName : PropertyValue → String
  | .boolean _ => "boolean"
  | .int _ => "int"
  | .long _ => "long"
  | .double _ => "double"
  | .string _ => "string"

/-- The exceptions the repository raises: `RepositoryError`, and the `ValueError` of a bad
argument. -/
inductive RepoError where
  | repository (message : String)
  | value (message : String)
  deriving DecidableEq, Repr

inductive UpsertStatus where
  | inserted
  | updated
  | noop
  deriving DecidableEq, Repr

/-- `UpsertResult`: a status and the row `fetchone()` returned. -/
structure UpsertResult (ρ : Type) where
  status : UpsertStatus
  record : Option ρ

/-- Wrap a driver error as the upsert's `RepositoryError`. -/
def wrap (context : String) (e : DriverError) : RepoError :=
  .repository (context ++ ": " ++ e.message)

/-- Return a value without touching the connection. -/
def ret {τ ε α : Type} (a : α) : Sql τ ε α := fun c ↦ (.ok a, c)

/-! ## Upserts keyed by `uns_path` -/

/-- The shape `upsert_device` and `upsert_metric` share, inside `with conn.transaction()`: the row
with the payload's `uns_path` is returned as it is when `_rows_equal` holds and updated by its id
otherwise; with no such row, the row of the payload's identity is updated, and with none a row is
inserted.  A driver error is raised as a `RepositoryError` with the prefix `context`. -/
def upsertByPath {ρ : Type} (context : String) (byPath : Statement Tables (Option ρ))
    (rowsEqual : ρ → Bool) (updateExisting : ρ → Statement Tables (Option ρ))
    (byIdentity : Statement Tables (Option ρ)) (updateIdentity : ρ → Statement Tables (Option ρ))
    (insert : Statement Tables (Option ρ)) : Sql Tables RepoError (UpsertResult ρ) :=
  mapError (wrap context) <| transaction <|
    andThen (execute byPath) fun
    | some existing =>
      if rowsEqual existing then ret ⟨.noop, some existing⟩
      else andThen (execute (updateExisting existing)) fun updated ↦ ret ⟨.updated, updated⟩
    | none =>
      andThen (execute byIdentity) fun
      | some identity =>
        andThen (execute (updateIdentity identity)) fun updated ↦ ret ⟨.updated, updated⟩
      | none => andThen (execute insert) fun inserted ↦ ret ⟨.inserted, inserted⟩

/-! ## Devices -/

/-- `SELECT ... FROM uns_meta.devices WHERE uns_path = %s`. -/
def selectDeviceByPath (unsPath : String) : Statement Tables (Option DeviceRow) := fun t ↦
  .ok (t.devices.find? (·.unsPath == unsPath), t)

/-- `SELECT device_id, uns_path FROM uns_meta.devices WHERE group_id = %s AND edge = %s AND
device = %s`. -/
def selectDeviceByIdentity (groupId edge device : String) : Statement Tables (Option DeviceRow) :=
  fun t ↦ .ok (t.devices.find? fun r ↦ r.groupId == groupId && r.edge == edge && r.device == device, t)

/-- `UPDATE uns_meta.devices SET ... WHERE device_id = %s RETURNING ...`, with `f` the `SET`. -/
def updateDevice (deviceId : Nat) (f : DeviceRow → DeviceRow) : Statement Tables (Option DeviceRow) :=
  fun t ↦ .ok ((t.devices.find? (·.deviceId == deviceId)).map f,
    { t with devices := t.devices.map fun r ↦ if r.deviceId == deviceId then f r else r })

/-- `INSERT INTO uns_meta.devices (...) VALUES (...) RETURNING ...`. -/
def insertDevice (p : DevicePayload) : Statement Tables (Option DeviceRow) := fun t ↦
  let row : DeviceRow :=
    ⟨t.nextDeviceId, p.groupId, p.country, p.businessUnit, p.plant, p.edge, p.device, p.unsPath⟩
  .ok (some row, { t with devices := t.devices ++ [row], nextDeviceId := t.nextDeviceId + 1 })

/-- `_device_rows_equal`. -/
def deviceRowsEqual (existing : DeviceRow) (p : DevicePayload) : Bool :=
  existing.groupId == p.groupId && existing.country == p.country &&
    existing.businessUnit == p.businessUnit && existing.plant == p.plant &&
    existing.edge == p.edge && existing.device == p.device && existing.unsPath == p.unsPath

/-- `upsert_device`. -/
def upsertDevice (p : DevicePayload) : Sql Tables RepoError (UpsertResult DeviceRow) :=
  upsertByPath "device upsert failed" (selectDeviceByPath p.unsPath) (deviceRowsEqual · p)
    (fun existing ↦ updateDevice existing.deviceId fun r ↦
      { r with groupId := p.groupId, country := p.country, businessUnit := p.businessUnit,
               plant := p.plant, edge := p.edge, device := p.device })
    (selectDeviceByIdentity p.groupId p.edge p.device)
    (fun identity ↦ updateDevice identity.deviceId fun r ↦
      { r with country := p.country, businessUnit := p.businessUnit, plant := p.plant,
               unsPath := p.unsPath })
    (insertDevice p)

theorem keeps_ret {τ ε α β : Type} {f : τ → β} (a : α) : Keeps f (ret a : Sql τ ε α) :=
  fun _ ↦ rfl

/-- `upsert_device` writes the devices table and nothing else. -/
theorem upsertDevice_keeps_metrics (p : DevicePayload) :
    Keeps (fun t ↦ (t.metrics, t.properties)) (upsertDevice p) := by
  refine keeps_mapError (keeps_transaction (keeps_andThen (keeps_execute ?_) fun existing ↦ ?_))
  · rintro t rows t' ⟨⟩; rfl
  cases existing with
  | some existing =>
    dsimp only
    split
    · exact keeps_ret _
    · refine keeps_andThen (keeps_execute ?_) fun _ ↦ keeps_ret _
      rintro t rows t' ⟨⟩; rfl
  | none =>
    refine keeps_andThen (keeps_execute ?_) fun identity ↦ ?_
    · rintro t rows t' ⟨⟩; rfl
    cases identity <;> refine keeps_andThen (keeps_execute ?_) fun _ ↦ keeps_ret _ <;>
      rintro t rows t' ⟨⟩ <;> rfl

/-! ## Metrics -/

/-- `SELECT ... FROM uns_meta.metrics WHERE uns_path = %s`. -/
def selectMetricByPath (unsPath : String) : Statement Tables (Option MetricRow) := fun t ↦
  .ok (t.metrics.find? (·.unsPath == unsPath), t)

/-- `SELECT metric_id, uns_path FROM uns_meta.metrics WHERE device_id = %s AND name = %s`. -/
def selectMetricByIdentity (deviceId : Nat) (name : String) : Statement Tables (Option MetricRow) :=
  fun t ↦ .ok (t.metrics.find? fun r ↦ r.deviceId == deviceId && r.name == name, t)

/-- `UPDATE uns_meta.metrics SET ... WHERE metric_id = %s RETURNING ...`, with `f` the `SET`. -/
def updateMetric (metricId : Nat) (f : MetricRow → MetricRow) : Statement Tables (Option MetricRow) :=
  fun t ↦ .ok ((t.metrics.find? (·.metricId == metricId)).map f,
    { t with metrics := t.metrics.map fun r ↦ if r.metricId == metricId then f r else r })

/-- `INSERT INTO uns_meta.metrics (...) VALUES (...) RETURNING ...`. -/
def insertMetric (p : MetricPayload) : Statement Tables (Option MetricRow) := fun t ↦
  let row : MetricRow := ⟨t.nextMetricId, p.deviceId, p.name, p.unsPath, p.datatype⟩
  .ok (some row, { t with metrics := t.metrics ++ [row], nextMetricId := t.nextMetricId + 1 })

/-- `_metric_rows_equal`. -/
def metricRowsEqual (existing : MetricRow) (p : MetricPayload) : Bool :=
  existing.deviceId == p.deviceId && existing.name == p.name && existing.unsPath == p.unsPath &&
    existing.datatype == p.datatype

/-- `upsert_metric`. -/
def upsertMetric (p : MetricPayload) : Sql Tables RepoError (UpsertResult MetricRow) :=
  upsertByPath "metric upsert failed" (selectMetricByPath p.unsPath) (metricRowsEqual · p)
    (fun existing ↦ updateMetric existing.metricId fun r ↦
      { r with deviceId := p.deviceId, name := p.name, datatype := p.datatype })
    (selectMetricByIdentity p.deviceId p.name)
    (fun identity ↦ updateMetric identity.metricId fun r ↦
      { r with unsPath := p.unsPath, datatype := p.datatype })
    (insertMetric p)


/-- `items[i : i + size]` for `i` in `range(0, len(items), size)`, for a positive `size`. -/
def batchesAux {α : Type} (size : Nat) : Nat → List α → List (List α)
  | 0, _ => []
  | fuel + 1, items =>
    if items.isEmpty then [] else items.take size :: batchesAux size fuel (items.drop size)

def batches {α : Type} (size : Nat) (items : List α) : List (List α) :=
  batchesAux size items.length items

/-- One row of the metrics `INSERT ... ON CONFLICT (device_id, name) DO UPDATE SET
uns_path = EXCLUDED.uns_path, datatype = EXCLUDED.datatype`.  The row's `metric_id` default is
drawn from the sequence before the conflict is checked, so a row that updates uses up an id too. -/
def upsertMetricRow (t : Tables) (p : MetricPayload) : Tables :=
  if t.metrics.any fun r ↦ r.deviceId == p.deviceId && r.name == p.name then
    { t with metrics := t.metrics.map (fun r ↦
               if r.deviceId == p.deviceId && r.name == p.name
               then { r with unsPath := p.unsPath, datatype := p.datatype } else r),
             nextMetricId := t.nextMetricId + 1 }
  else
    { t with metrics := t.metrics ++ [⟨t.nextMetricId, p.deviceId, p.name, p.unsPath, p.datatype⟩],
             nextMetricId := t.nextMetricId + 1 }

/-- The bulk metrics `INSERT`; PostgreSQL refuses one that would update a row twice. -/
def upsertMetricRows (rows : List MetricPayload) : Statement Tables Unit := fun t ↦
  if (rows.map fun p ↦ (p.deviceId, p.name)).Nodup then .ok ((), rows.foldl upsertMetricRow t)
  else .error ⟨"ON CONFLICT DO UPDATE command cannot affect row a second time"⟩

/-- `SELECT name, metric_id FROM uns_meta.metrics WHERE device_id = %s AND name IN (...)`. -/
def selectMetricIds (deviceId : Nat) (names : List String) :
    Statement Tables (List (String × Nat)) := fun t ↦
  .ok ((t.metrics.filter fun r ↦ r.deviceId == deviceId && names.contains r.name).map
    fun r ↦ (r.name, r.metricId), t)

/-- One batch of `upsert_metrics_bulk`: the upsert, then the ids into `idMap`. -/
def upsertMetricBatch (idMap : List (String × Nat)) : List MetricPayload →
    Sql Tables DriverError (List (String × Nat))
  | [] => ret idMap
  | batch@(first :: _) =>
    andThen (run (upsertMetricRows batch)) fun _ ↦
      andThen (run (selectMetricIds first.deviceId (batch.map (·.name)))) fun rows ↦
        ret (rows.foldl (fun m row ↦ setItem m row.1 row.2) idMap)

/-- The loop of `upsert_metrics_bulk` over its batches. -/
def upsertMetricBatches (idMap : List (String × Nat)) : List (List MetricPayload) →
    Sql Tables DriverError (List (String × Nat))
  | [] => ret idMap
  | batch :: rest => andThen (upsertMetricBatch idMap batch) fun idMap ↦ upsertMetricBatches idMap rest

/-- `upsert_metrics_bulk`: the metric ids by name. -/
def upsertMetricsBulk (payloads : List MetricPayload) (batchSize : Nat := 1000) :
    Sql Tables RepoError (List (String × Nat)) :=
  if batchSize = 0 then fun c ↦ (.error (.value "batch_size must be positive"), c)
  else if payloads.isEmpty then ret []
  else mapError (wrap "metric bulk upsert failed") (upsertMetricBatches [] (batches batchSize payloads))

/-! ## A batch that repeats a conflict key

`upsert_metrics_bulk` sends each batch as it comes, with no deduplication, so whether it returns
depends only on whether some batch repeats a `(device_id, name)`: with no injected driver
failure, it returns exactly when no batch does, and otherwise raises the `RepositoryError` of
PostgreSQL's refusal. -/

theorem upsertMetricRows_of_nodup {rows : List MetricPayload}
    (h : (rows.map fun p ↦ (p.deviceId, p.name)).Nodup) (t : Tables) :
    upsertMetricRows rows t = .ok ((), rows.foldl upsertMetricRow t) :=
  if_pos h

theorem upsertMetricRows_of_repeat {rows : List MetricPayload}
    (h : ¬ (rows.map fun p ↦ (p.deviceId, p.name)).Nodup) (t : Tables) :
    upsertMetricRows rows t = .error ⟨"ON CONFLICT DO UPDATE command cannot affect row a second time"⟩ :=
  if_neg h

theorem upsertMetricBatch_ok (idMap : List (String × Nat)) {batch : List MetricPayload}
    {c : Connection Tables} (hc : c.failAt = none)
    (h : (batch.map fun p ↦ (p.deviceId, p.name)).Nodup) :
    ∃ m c', upsertMetricBatch idMap batch c = (.ok m, c') ∧ c'.failAt = none := by
  cases batch with
  | nil => exact ⟨_, _, rfl, hc⟩
  | cons first rest =>
    simp only [upsertMetricBatch, andThen, run, hc, upsertMetricRows_of_nodup h]
    exact ⟨_, _, rfl, rfl⟩

theorem upsertMetricBatch_repeat (idMap : List (String × Nat)) {batch : List MetricPayload}
    {c : Connection Tables} (hc : c.failAt = none)
    (h : ¬ (batch.map fun p ↦ (p.deviceId, p.name)).Nodup) :
    ∃ c', upsertMetricBatch idMap batch c =
      (.error ⟨"ON CONFLICT DO UPDATE command cannot affect row a second time"⟩, c') := by
  cases batch with
  | nil => exact absurd List.nodup_nil h
  | cons first rest =>
    simp only [upsertMetricBatch, andThen, run, hc, upsertMetricRows_of_repeat h]
    exact ⟨_, rfl⟩

theorem upsertMetricBatches_ok (idMap : List (String × Nat)) {bs : List (List MetricPayload)}
    {c : Connection Tables} (hc : c.failAt = none)
    (h : ∀ batch ∈ bs, (batch.map fun p ↦ (p.deviceId, p.name)).Nodup) :
    ∃ m, (upsertMetricBatches idMap bs c).1 = .ok m := by
  induction bs generalizing idMap c with
  | nil => exact ⟨_, rfl⟩
  | cons batch rest ih =>
    obtain ⟨m, c', hb, hc'⟩ := upsertMetricBatch_ok idMap hc (h batch (List.mem_cons_self _ _))
    simp only [upsertMetricBatches, andThen, hb]
    exact ih _ hc' fun b hb ↦ h b (List.mem_cons_of_mem _ hb)

/-- The first batch that repeats a key ends the loop with PostgreSQL's error. -/
theorem upsertMetricBatches_repeat (idMap : List (String × Nat)) {bs : List (List MetricPayload)}
    {c : Connection Tables} (hc : c.failAt = none)
    (h : ∃ batch ∈ bs, ¬ (batch.map fun p ↦ (p.deviceId, p.name)).Nodup) :
    (upsertMetricBatches idMap bs c).1 =
      .error ⟨"ON CONFLICT DO UPDATE command cannot affect row a second time"⟩ := by
  induction bs generalizing idMap c with
  | nil => simp at h
  | cons batch rest ih =>
    by_cases hb : (batch.map fun p ↦ (p.deviceId, p.name)).Nodup
    · obtain ⟨m, c', hbatch, hc'⟩ := upsertMetricBatch_ok idMap hc hb
      simp only [upsertMetricBatches, andThen, hbatch]
      obtain ⟨b, hmem, hrep⟩ := h
      exact ih _ hc' ⟨b, (List.mem_cons.1 hmem).resolve_left (by rintro rfl; exact hrep hb), hrep⟩
    · obtain ⟨c', hbatch⟩ := upsertMetricBatch_repeat idMap hc hb
      simp only [upsertMetricBatches, andThen, hbatch]

theorem upsertMetricsBulk_ok {payloads : List MetricPayload} {batchSize : Nat}
    {c : Connection Tables} (hsize : 0 < batchSize) (hc : c.failAt = none)
    (h : ∀ batch ∈ batches batchSize payloads, (batch.map fun p ↦ (p.deviceId, p.name)).Nodup) :
    ∃ ids, (upsertMetricsBulk payloads batchSize c).1 = .ok ids := by
  unfold upsertMetricsBulk
  rw [if_neg hsize.ne']
  split
  · exact ⟨_, rfl⟩
  · obtain ⟨m, hm⟩ := upsertMetricBatches_ok [] hc h
    exact ⟨m, by rw [mapError_fst, hm]; rfl⟩

theorem upsertMetricsBulk_repeat {payloads : List MetricPayload} {batchSize : Nat}
    {c : Connection Tables} (hsize : 0 < batchSize) (hc : c.failAt = none)
    (h : ∃ batch ∈ batches batchSize payloads, ¬ (batch.map fun p ↦ (p.deviceId, p.name)).Nodup) :
    (upsertMetricsBulk payloads batchSize c).1 = .error (.repository
      "metric bulk upsert failed: ON CONFLICT DO UPDATE command cannot affect row a second time") := by
  unfold upsertMetricsBulk
  rw [if_neg hsize.ne']
  split
  · next hempty =>
    obtain rfl := List.isEmpty_iff.1 hempty
    simp [batches, batchesAux] at h
  · rw [mapError_fst, upsertMetricBatches_repeat [] hc h]
    rfl

/-- With a positive batch size and no injected driver failure, `upsert_metrics_bulk` returns
exactly when no batch repeats a conflict key, and raises PostgreSQL's refusal otherwise. -/
theorem upsertMetricsBulk_returns_iff_batches_nodup {payloads : List MetricPayload}
    {batchSize : Nat} {c : Connection Tables} (hsize : 0 < batchSize) (hc : c.failAt = none) :
    ((∃ ids, (upsertMetricsBulk payloads batchSize c).1 = .ok ids) ↔
        ∀ batch ∈ batches batchSize payloads, (batch.map fun p ↦ (p.deviceId, p.name)).Nodup) ∧
      ((upsertMetricsBulk payloads batchSize c).1 = .error (.repository
          "metric bulk upsert failed: ON CONFLICT DO UPDATE command cannot affect row a second time") ↔
        ∃ batch ∈ batches batchSize payloads, ¬ (batch.map fun p ↦ (p.deviceId, p.name)).Nodup) := by
  by_cases hrep : ∃ batch ∈ batches batchSize payloads, ¬ (batch.map fun p ↦ (p.deviceId, p.name)).Nodup
  · rw [upsertMetricsBulk_repeat hsize hc hrep]
    obtain ⟨b, hb, hn⟩ := hrep
    exact ⟨iff_of_false (by rintro ⟨_, ⟨⟩⟩) fun hall ↦ hn (hall b hb), iff_of_true rfl ⟨b, hb, hn⟩⟩
  · push_neg at hrep
    obtain ⟨ids, hok⟩ := upsertMetricsBulk_ok hsize hc hrep
    rw [hok]
    exact ⟨iff_of_true ⟨ids, rfl⟩ hrep, iff_of_false (by rintro ⟨⟩) (by simpa using hrep)⟩

/-- An alias-only metric whose alias has no name persists as `alias:5`. -/
def aliasPayload : MetricPayload := ⟨1, "alias:5", "G/E/D/alias:5", "Int32"⟩

/-- Two such metrics in one frame. -/
def repeatedAliasPayloads : List MetricPayload := [aliasPayload, aliasPayload]

theorem repeated_alias_bulk_upsert_fails :
    (0 < 1000 ∧ (⟨Tables.empty, 0, none⟩ : Connection Tables).failAt = none ∧
      ∃ batch ∈ batches 1000 repeatedAliasPayloads, ¬ (batch.map fun p ↦ (p.deviceId, p.name)).Nodup) ∧
    (upsertMetricsBulk repeatedAliasPayloads 1000 ⟨Tables.empty, 0, none⟩).1 = .error (.repository
      "metric bulk upsert failed: ON CONFLICT DO UPDATE command cannot affect row a second time") ∧
    ∃ ids, (upsertMetricsBulk [aliasPayload] 1000 ⟨Tables.empty, 0, none⟩).1 = .ok ids :=
  have hrep : ∃ batch ∈ batches 1000 repeatedAliasPayloads,
      ¬ (batch.map fun p ↦ (p.deviceId, p.name)).Nodup :=
    ⟨repeatedAliasPayloads, by decide, by decide⟩
  ⟨⟨by decide, rfl, hrep⟩,
    ((upsertMetricsBulk_returns_iff_batches_nodup (by decide) rfl).2).2 hrep,
    ((upsertMetricsBulk_returns_iff_batches_nodup (by decide) rfl).1).2 (by decide)⟩

/-! ## Metric properties -/

/-- `_property_column_values`: the value in the column of its type, the others null. -/
def propertyColumnValues : PropertyValue → PropertyColumns
  | .boolean b => ⟨none, none, none, none, none, some b⟩
  | .int n => ⟨some n, none, none, none, none, none⟩
  | .long n => ⟨none, some n, none, none, none, none⟩
  | .double repr => ⟨none, none, none, some repr, none, none⟩
  | .string s => ⟨none, none, none, none, some s, none⟩

/-- The row a payload stands for. -/
def MetricPropertyPayload.toRow (p : MetricPropertyPayload) : PropertyRow :=
  ⟨p.metricId, p.key, p.value.typeName, propertyColumnValues p.value⟩

/-- One row of the properties `INSERT ... ON CONFLICT (metric_id, key) DO UPDATE ... WHERE` some
column is distinct: the rows it counts, and the tables after it. -/
def upsertPropertyRow (acc : Nat × Tables) (row : PropertyRow) : Nat × Tables :=
  let (count, t) := acc
  match t.properties.find? fun r ↦ r.metricId == row.metricId && r.key == row.key with
  | none => (count + 1, { t with properties := t.properties ++ [row] })
  | some existing =>
    if existing.type == row.type && existing.columns == row.columns then (count, t)
    else (count + 1, { t with properties := t.properties.map fun r ↦
      if r.metricId == row.metricId && r.key == row.key then row else r })

/-- The error PostgreSQL raises for a value outside the range of its column: `value_int` is an
`integer` column and `value_long` a `bigint` one. -/
def PropertyColumns.rangeError (columns : PropertyColumns) : Option DriverError :=
  if columns.valueInt.any fun n ↦ n < -2 ^ 31 ∨ 2 ^ 31 ≤ n then some ⟨"integer out of range"⟩
  else if columns.valueLong.any fun n ↦ n < -2 ^ 63 ∨ 2 ^ 63 ≤ n then some ⟨"bigint out of range"⟩
  else none

/-- A value's columns pass the range check when an `int` fits 32 bits and a `long` 64. -/
theorem rangeError_propertyColumnValues_eq_none (v : PropertyValue) :
    (propertyColumnValues v).rangeError = none ↔
      (∀ n, v = .int n → -2 ^ 31 ≤ n ∧ n < 2 ^ 31) ∧ (∀ n, v = .long n → -2 ^ 63 ≤ n ∧ n < 2 ^ 63) := by
  cases v <;> simp only [propertyColumnValues, PropertyColumns.rangeError, Option.any_some, Option.any_none,
    Bool.decide_or, Bool.or_eq_true, decide_eq_true_eq, Bool.false_eq_true, ↓reduceIte, ite_eq_right_iff,
    reduceCtorEq, imp_false, not_or, not_lt, not_le, PropertyValue.int.injEq, PropertyValue.long.injEq, forall_eq',
    IsEmpty.forall_iff, implies_true, and_true, true_and, and_self]

/-- `SELECT ... FROM uns_meta.metric_properties WHERE metric_id = %s AND key = %s`. -/
def selectProperty (metricId : Nat) (key : String) : Statement Tables (Option PropertyRow) := fun t ↦
  .ok (t.properties.find? (fun r ↦ r.metricId == metricId && r.key == key), t)

/-- `UPDATE uns_meta.metric_properties SET type = %s, value_int = %s, ... WHERE metric_id = %s AND
key = %s RETURNING ...`; PostgreSQL refuses a value out of its column's range. -/
def updateProperty (metricId : Nat) (key type : String) (columns : PropertyColumns) :
    Statement Tables (Option PropertyRow) := fun t ↦
  match columns.rangeError with
  | some e => .error e
  | none =>
    .ok ((t.properties.find? fun r ↦ r.metricId == metricId && r.key == key).map
        ({ · with type, columns }),
      { t with properties := t.properties.map fun r ↦
          if r.metricId == metricId && r.key == key then { r with type, columns } else r })

/-- `INSERT INTO uns_meta.metric_properties (...) VALUES (...) RETURNING ...`. -/
def insertProperty (row : PropertyRow) : Statement Tables (Option PropertyRow) := fun t ↦
  match row.columns.rangeError with
  | some e => .error e
  | none => .ok (some row, { t with properties := t.properties ++ [row] })

/-- Python's `==` on two floats given by their `repr`: a NaN equals nothing, `0.0 == -0.0`, and
other floats are equal exactly when their `repr`s are. -/
def pyFloatEq (a b : String) : Bool :=
  (a == b && a != "nan") || (a == "0.0" && b == "-0.0") || (a == "-0.0" && b == "0.0")

/-- `==` on two values that are each `None` or a float. -/
def pyOptFloatEq : Option String → Option String → Bool
  | some a, some b => pyFloatEq a b
  | a, b => a.isNone && b.isNone

/-- `_property_rows_equal`: the type and each value column compared with Python's `==`, the
float columns as floats. -/
def propertyRowsEqual (existing : PropertyRow) (type : String) (columns : PropertyColumns) : Bool :=
  existing.type == type && existing.columns.valueInt == columns.valueInt &&
    existing.columns.valueLong == columns.valueLong &&
    pyOptFloatEq existing.columns.valueFloat columns.valueFloat &&
    pyOptFloatEq existing.columns.valueDouble columns.valueDouble &&
    existing.columns.valueString == columns.valueString && existing.columns.valueBool == columns.valueBool

/-- `upsert_metric_property`: the row of `(metric_id, key)` is returned as it is when
`_property_rows_equal` holds and updated otherwise; with no such row one is inserted. -/
def upsertMetricProperty (p : MetricPropertyPayload) : Sql Tables RepoError (UpsertResult PropertyRow) :=
  let columns := propertyColumnValues p.value
  mapError (wrap "metric property upsert failed") <| transaction <|
    andThen (execute (selectProperty p.metricId p.key)) fun
    | some existing =>
      if propertyRowsEqual existing p.value.typeName columns then ret ⟨.noop, some existing⟩
      else andThen (execute (updateProperty p.metricId p.key p.value.typeName columns)) fun updated ↦
        ret ⟨.updated, updated⟩
    | none => andThen (execute (insertProperty p.toRow)) fun inserted ↦ ret ⟨.inserted, inserted⟩

/-- The bulk properties `INSERT`; its `rowcount`.  PostgreSQL refuses one that would update a row
twice, or that holds a value out of its column's range. -/
def upsertPropertyRows (rows : List PropertyRow) : Statement Tables Nat := fun t ↦
  if (rows.map fun r ↦ (r.metricId, r.key)).Nodup then
    match rows.findSome? (·.columns.rangeError) with
    | some e => .error e
    | none => .ok (rows.foldl upsertPropertyRow (0, t))
  else .error ⟨"ON CONFLICT DO UPDATE command cannot affect row a second time"⟩

/-- `grouped.setdefault(payload.metric_id, {})[payload.key] = payload` over the payloads. -/
def groupProperties (payloads : List MetricPropertyPayload) :
    List (Nat × List (String × MetricPropertyPayload)) :=
  payloads.foldl (fun grouped p ↦
    setItem grouped p.metricId (setItem ((grouped.lookup p.metricId).getD []) p.key p)) []

/-- The batches of `upsert_metric_properties_bulk`, adding up the row counts. -/
def upsertPropertyBatches (total : Nat) : List (List PropertyRow) → Sql Tables DriverError Nat
  | [] => ret total
  | batch :: rest => andThen (run (upsertPropertyRows batch)) fun count ↦
      upsertPropertyBatches (total + count) rest

/-- `upsert_metric_properties_bulk`; with `manage_transaction=False` it opens no transaction
block of its own, which under autocommit makes no difference. -/
def upsertMetricPropertiesBulk (payloads : List MetricPropertyPayload) (batchSize : Nat := 10000) :
    Sql Tables RepoError Nat :=
  if batchSize = 0 then fun c ↦ (.error (.value "batch_size must be positive"), c)
  else if payloads.isEmpty then ret 0
  else
    let rows := (groupProperties payloads).flatMap fun (_, byKey) ↦ byKey.map (·.2.toRow)
    mapError (wrap "metric property bulk upsert failed")
      (upsertPropertyBatches 0 (batches batchSize rows))

/-- A property whose value is out of its column's range makes the bulk upsert of it raise the
column's error as a `RepositoryError`, and nothing is written. -/
theorem upsertMetricPropertiesBulk_of_rangeError {p : MetricPropertyPayload} {e : DriverError}
    (he : (propertyColumnValues p.value).rangeError = some e) {c : Connection Tables} (hc : c.failAt = none) :
    (upsertMetricPropertiesBulk [p] 10000 c).1 =
        .error (.repository ("metric property bulk upsert failed: " ++ e.message)) ∧
      (upsertMetricPropertiesBulk [p] 10000 c).2.committed = c.committed := by
  have hrow : upsertPropertyRows [p.toRow] c.committed = .error e := by
    simp [upsertPropertyRows, MetricPropertyPayload.toRow, he]
  have hbulk : upsertMetricPropertiesBulk [p] 10000 c =
      mapError (wrap "metric property bulk upsert failed") (upsertPropertyBatches 0 [[p.toRow]]) c := rfl
  simp only [hbulk, mapError, upsertPropertyBatches, andThen, run, hc, hrow, reduceCtorEq, if_false, wrap]
  exact ⟨rfl, trivial⟩


/-! ## Upserting twice -/

section Find

variable {α : Type} {l : List α} {q : α → Bool}

/-- The row a lookup finds is the only one it could find. -/
theorem find?_eq_some_of_unique {x : α} (hx : x ∈ l) (hq : q x = true)
    (huniq : ∀ y ∈ l, q y = true → y = x) : l.find? q = some x := by
  cases h : l.find? q with
  | none => exact absurd hq (by simpa using List.find?_eq_none.1 h x hx)
  | some y => rw [huniq y (List.mem_of_find?_eq_some h) (List.find?_some h)]

/-- An update of some rows, the found one among them, that keeps what the lookup reads leaves the
lookup on the updated row. -/
theorem find?_update_of_find? {c : α → Bool} {f : α → α} {x : α} (hx : l.find? q = some x)
    (hc : c x = true) (hf : ∀ r, c r = true → q (f r) = q r) :
    (l.map fun r ↦ if c r then f r else r).find? q = some (f x) := by
  have hq : (q ∘ fun r ↦ if c r then f r else r) = q := by
    funext r; by_cases h : c r <;> simp [h, hf]
  rw [List.find?_map, hq, hx]
  simp [hc]

/-- An update of the rows with the id of `x`, when no row is found and `x` is the only row with
its id, leaves the lookup on the updated `x`. -/
theorem find?_update_of_none {key : α → Nat} {f : α → α} (hkey : (l.map key).Nodup) {x : α}
    (hx : x ∈ l) (hfx : q (f x) = true) (hnone : l.find? q = none) :
    (l.map fun r ↦ if key r == key x then f r else r).find? q = some (f x) := by
  have hfind : l.find? (q ∘ fun r ↦ if key r == key x then f r else r) = some x := by
    refine find?_eq_some_of_unique hx (by simp [hfx]) fun y hy hqy ↦ ?_
    by_cases hk : key y = key x
    · exact List.inj_on_of_nodup_map hkey hy hx hk
    · simp only [Function.comp, hk, beq_iff_eq, if_false] at hqy
      exact absurd hqy (by simpa using List.find?_eq_none.1 hnone y hy)
  rw [List.find?_map, hfind]
  simp

/-- An update of rows the lookup does not find, into rows it does not find, leaves the lookup as
it was. -/
theorem find?_update_of_other {c : α → Bool} {f : α → α} {x : α} (hx : l.find? q = some x)
    (hf : ∀ r, c r = true → q r = false ∧ q (f r) = false) :
    (l.map fun r ↦ if c r then f r else r).find? q = some x := by
  have hq : (q ∘ fun r ↦ if c r then f r else r) = q := by
    funext r; by_cases h : c r <;> simp [h, hf]
  have hcx : c x = false := by
    by_contra hcx
    simpa [(hf x (by simpa using hcx)).1] using List.find?_some hx
  rw [List.find?_map, hq, hx]
  simp [hcx]

end Find

/-- After a write: the first row with the payload's path is one `_rows_equal` accepts. -/
def Settled {ρ : Type} (view : Tables → List ρ) (atPath rowsEqual : ρ → Bool) (t : Tables) : Prop :=
  ∃ row, (view t).find? atPath = some row ∧ rowsEqual row = true

/-- What the statements of an upsert by path do to its table, seen as `view`, on tables where
`wf` holds: the selects write nothing, the one by path finds the first row with the path, and each
write leaves the table `Settled`. -/
structure PathUpsert {ρ : Type} (view : Tables → List ρ) (atPath rowsEqual : ρ → Bool)
    (wf : Tables → Prop) (byPath : Statement Tables (Option ρ))
    (updateExisting : ρ → Statement Tables (Option ρ)) (byIdentity : Statement Tables (Option ρ))
    (updateIdentity : ρ → Statement Tables (Option ρ)) (insert : Statement Tables (Option ρ)) : Prop where
  byPath_eq : ∀ t, byPath t = .ok ((view t).find? atPath, t)
  byIdentity_eq : ∀ t, ∃ r, byIdentity t = .ok (r, t)
  updateExisting_settles : ∀ t existing, (view t).find? atPath = some existing →
    ∃ r t', updateExisting existing t = .ok (r, t') ∧ Settled view atPath rowsEqual t'
  updateIdentity_settles : ∀ t identity, wf t → (view t).find? atPath = none →
    byIdentity t = .ok (some identity, t) →
    ∃ r t', updateIdentity identity t = .ok (r, t') ∧ Settled view atPath rowsEqual t'
  insert_settles : ∀ t, (view t).find? atPath = none → byIdentity t = .ok (none, t) →
    ∃ r t', insert t = .ok (r, t') ∧ Settled view atPath rowsEqual t'

section ByPath

variable {ρ : Type} {view : Tables → List ρ} {atPath rowsEqual : ρ → Bool} {wf : Tables → Prop}
  {byPath byIdentity insert : Statement Tables (Option ρ)}
  {updateExisting updateIdentity : ρ → Statement Tables (Option ρ)} (context : String)

/-- With no driver failure, an upsert by path leaves its table settled, whichever branch it
takes. -/
theorem upsertByPath_settles
    (h : PathUpsert view atPath rowsEqual wf byPath updateExisting byIdentity updateIdentity insert)
    {c : Connection Tables} (hwf : wf c.committed) (hc : c.failAt = none) :
    let c' := (upsertByPath context byPath rowsEqual updateExisting byIdentity updateIdentity insert c).2
    Settled view atPath rowsEqual c'.committed ∧ c'.failAt = none := by
  simp only [upsertByPath, mapError, transaction_eq, andThen, execute_eq, run, hc, h.byPath_eq, reduceCtorEq, if_false]
  cases hfind : (view c.committed).find? atPath with
  | some existing =>
    by_cases heq : rowsEqual existing = true
    · simp only [heq, if_true, ret]
      exact ⟨⟨existing, hfind, heq⟩, trivial⟩
    · obtain ⟨r, t', hupd, hset⟩ := h.updateExisting_settles _ _ hfind
      simp only [heq, Bool.false_eq_true, if_false, andThen, execute_eq, run, reduceCtorEq, hupd, ret]
      exact ⟨hset, trivial⟩
  | none =>
    obtain ⟨r, hid⟩ := h.byIdentity_eq c.committed
    cases r with
    | some identity =>
      obtain ⟨r', t', hupd, hset⟩ := h.updateIdentity_settles _ _ hwf hfind hid
      simp only [andThen, execute_eq, run, reduceCtorEq, if_false, hid, hupd, ret]
      exact ⟨hset, trivial⟩
    | none =>
      obtain ⟨r', t', hins, hset⟩ := h.insert_settles _ hfind hid
      simp only [andThen, execute_eq, run, reduceCtorEq, if_false, hid, hins, ret]
      exact ⟨hset, trivial⟩

/-- On a settled table an upsert by path returns `noop` with the row it finds, and writes
nothing. -/
theorem upsertByPath_of_settled
    (h : PathUpsert view atPath rowsEqual wf byPath updateExisting byIdentity updateIdentity insert)
    {c : Connection Tables} {row : ρ} (hfind : (view c.committed).find? atPath = some row)
    (heq : rowsEqual row = true) (hc : c.failAt = none) :
    upsertByPath context byPath rowsEqual updateExisting byIdentity updateIdentity insert c =
      (.ok ⟨.noop, some row⟩, { c with executed := c.executed + 1 }) := by
  simp only [upsertByPath, mapError, transaction_eq, andThen, execute_eq, run, hc, h.byPath_eq,
    reduceCtorEq, if_false, hfind, heq, if_true, ret]

/-- An upsert by path repeated at once returns `noop` and writes nothing. -/
theorem upsertByPath_twice
    (h : PathUpsert view atPath rowsEqual wf byPath updateExisting byIdentity updateIdentity insert)
    {c : Connection Tables} (hwf : wf c.committed) (hc : c.failAt = none) :
    let upsert := upsertByPath context byPath rowsEqual updateExisting byIdentity updateIdentity insert
    ∃ row, (upsert (upsert c).2).1 = .ok ⟨.noop, some row⟩ ∧
      (upsert (upsert c).2).2.committed = (upsert c).2.committed := by
  obtain ⟨⟨row, hfind, heq⟩, hc'⟩ := upsertByPath_settles context h hwf hc
  exact ⟨row, by rw [upsertByPath_of_settled context h hfind heq hc'], by
    rw [upsertByPath_of_settled context h hfind heq hc']⟩

end ByPath

/-- `upsert_device` on the devices table, whose `device_id` is its primary key. -/
theorem devicePathUpsert (p : DevicePayload) :
    PathUpsert (·.devices) (·.unsPath == p.unsPath) (deviceRowsEqual · p)
      (fun t ↦ (t.devices.map (·.deviceId)).Nodup) (selectDeviceByPath p.unsPath)
      (fun existing ↦ updateDevice existing.deviceId fun r ↦
        { r with groupId := p.groupId, country := p.country, businessUnit := p.businessUnit,
                 plant := p.plant, edge := p.edge, device := p.device })
      (selectDeviceByIdentity p.groupId p.edge p.device)
      (fun identity ↦ updateDevice identity.deviceId fun r ↦
        { r with country := p.country, businessUnit := p.businessUnit, plant := p.plant,
                 unsPath := p.unsPath })
      (insertDevice p) where
  byPath_eq _ := rfl
  byIdentity_eq _ := ⟨_, rfl⟩
  updateExisting_settles t existing hfind := by
    have hpath : existing.unsPath = p.unsPath := by simpa using List.find?_some hfind
    refine ⟨_, _, rfl, ?_⟩
    exact ⟨_, find?_update_of_find? hfind (by simp) (by intros; rfl), by simp [deviceRowsEqual, hpath]⟩
  updateIdentity_settles t identity hwf hnone hid := by
    have hfind : t.devices.find? (fun r ↦ r.groupId == p.groupId && r.edge == p.edge &&
        r.device == p.device) = some identity := by simpa [selectDeviceByIdentity] using hid
    have hkey := List.find?_some hfind
    simp only [Bool.and_eq_true, beq_iff_eq] at hkey
    refine ⟨_, _, rfl, ?_⟩
    exact ⟨_, find?_update_of_none hwf (List.mem_of_find?_eq_some hfind) (by simp) hnone,
      by simp [deviceRowsEqual, hkey]⟩
  insert_settles t hnone _ :=
    ⟨_, _, rfl, _, by simp [insertDevice, hnone]; rfl, by simp [deviceRowsEqual]⟩

/-- `upsert_metric` on the metrics table, whose `metric_id` is its primary key. -/
theorem metricPathUpsert (p : MetricPayload) :
    PathUpsert (·.metrics) (·.unsPath == p.unsPath) (metricRowsEqual · p)
      (fun t ↦ (t.metrics.map (·.metricId)).Nodup) (selectMetricByPath p.unsPath)
      (fun existing ↦ updateMetric existing.metricId fun r ↦
        { r with deviceId := p.deviceId, name := p.name, datatype := p.datatype })
      (selectMetricByIdentity p.deviceId p.name)
      (fun identity ↦ updateMetric identity.metricId fun r ↦
        { r with unsPath := p.unsPath, datatype := p.datatype })
      (insertMetric p) where
  byPath_eq _ := rfl
  byIdentity_eq _ := ⟨_, rfl⟩
  updateExisting_settles t existing hfind := by
    have hpath : existing.unsPath = p.unsPath := by simpa using List.find?_some hfind
    refine ⟨_, _, rfl, ?_⟩
    exact ⟨_, find?_update_of_find? hfind (by simp) (by intros; rfl), by simp [metricRowsEqual, hpath]⟩
  updateIdentity_settles t identity hwf hnone hid := by
    have hfind : t.metrics.find? (fun r ↦ r.deviceId == p.deviceId && r.name == p.name) =
        some identity := by simpa [selectMetricByIdentity] using hid
    have hkey := List.find?_some hfind
    simp only [Bool.and_eq_true, beq_iff_eq] at hkey
    refine ⟨_, _, rfl, ?_⟩
    exact ⟨_, find?_update_of_none hwf (List.mem_of_find?_eq_some hfind) (by simp) hnone,
      by simp [metricRowsEqual, hkey]⟩
  insert_settles t hnone _ :=
    ⟨_, _, rfl, _, by simp [insertMetric, hnone]; rfl, by simp [metricRowsEqual]⟩
/-! ## Upserting a property twice -/

section Property

variable {p : MetricPropertyPayload}

/-- A value's columns are `==` to themselves unless the value is a NaN double. -/
theorem propertyRowsEqual_self {row : PropertyRow} (htype : row.type = p.value.typeName)
    (hcolumns : row.columns = propertyColumnValues p.value) :
    propertyRowsEqual row p.value.typeName (propertyColumnValues p.value) = true ↔
      p.value ≠ .double "nan" := by
  unfold propertyRowsEqual
  rw [htype, hcolumns]
  cases p.value with
  | double r =>
    by_cases hr : r = "nan"
    · subst hr; decide
    · simp [propertyColumnValues, pyOptFloatEq, pyFloatEq, hr]
  | _ => simp [propertyColumnValues, pyOptFloatEq]

/-- A NaN is `==` to no stored value. -/
theorem propertyRowsEqual_nan (row : PropertyRow) :
    propertyRowsEqual row "double" (propertyColumnValues (.double "nan")) = false := by
  rcases h : row.columns.valueDouble with _ | a <;>
    simp [propertyRowsEqual, propertyColumnValues, pyOptFloatEq, pyFloatEq, h]

/-- The second call, on a table holding a row for the payload's key: `noop` when
`_property_rows_equal` holds, an update otherwise. -/
theorem upsertMetricProperty_of_found {c : Connection Tables} (hc : c.failAt = none) {row : PropertyRow}
    (hfind : c.committed.properties.find? (fun r ↦ r.metricId == p.metricId && r.key == p.key) = some row) :
    (propertyRowsEqual row p.value.typeName (propertyColumnValues p.value) = true →
      upsertMetricProperty p c = (.ok ⟨.noop, some row⟩, { c with executed := c.executed + 1 })) ∧
    (propertyRowsEqual row p.value.typeName (propertyColumnValues p.value) = false →
      (propertyColumnValues p.value).rangeError = none →
      (upsertMetricProperty p c).1 =
        .ok ⟨.updated, some { row with type := p.value.typeName, columns := propertyColumnValues p.value }⟩) := by
  refine ⟨fun heq ↦ ?_, fun hne hrange ↦ ?_⟩ <;>
    simp only [upsertMetricProperty, mapError, transaction_eq, andThen, execute_eq, run, hc, selectProperty,
      reduceCtorEq, if_false, hfind]
  · simp only [heq, if_true, ret]
  · simp [hne, andThen, execute_eq, run, updateProperty, hrange, hfind, ret]

/-- A first call that returns leaves a row for the payload's key that is `==` to the payload, or
holds its type and columns as written. -/
theorem upsertMetricProperty_settles {c : Connection Tables} (hc : c.failAt = none)
    {r : UpsertResult PropertyRow} (hok : (upsertMetricProperty p c).1 = .ok r) :
    let c' := (upsertMetricProperty p c).2
    c'.failAt = none ∧ ∃ row,
      c'.committed.properties.find? (fun r ↦ r.metricId == p.metricId && r.key == p.key) = some row ∧
      (propertyRowsEqual row p.value.typeName (propertyColumnValues p.value) = true ∨
        row.type = p.value.typeName ∧ row.columns = propertyColumnValues p.value) := by
  simp only [upsertMetricProperty, mapError, transaction_eq, andThen, execute_eq, run, hc, selectProperty,
    reduceCtorEq, if_false] at hok ⊢
  cases hfind : c.committed.properties.find? (fun r ↦ r.metricId == p.metricId && r.key == p.key) with
  | some existing =>
    simp only [hfind] at hok ⊢
    by_cases heq : propertyRowsEqual existing p.value.typeName (propertyColumnValues p.value) = true
    · simp only [heq, if_true, ret]
      exact ⟨trivial, existing, hfind, .inl heq⟩
    · cases hrange : (propertyColumnValues p.value).rangeError with
      | some e => simp [heq, andThen, execute_eq, run, updateProperty, hrange, ret] at hok
      | none =>
        simp only [heq, Bool.false_eq_true, if_false, andThen, execute_eq, run, reduceCtorEq,
          updateProperty, hrange, ret]
        refine ⟨trivial, _, find?_update_of_find? hfind ?_ (by intros; rfl), .inr ⟨rfl, rfl⟩⟩
        have hkey := List.find?_some hfind
        exact hkey
  | none =>
    simp only [hfind] at hok ⊢
    cases hrange : (propertyColumnValues p.value).rangeError with
    | some e =>
      simp [andThen, execute_eq, run, insertProperty, MetricPropertyPayload.toRow, hrange, ret] at hok
    | none =>
      simp only [andThen, execute_eq, run, reduceCtorEq, if_false, insertProperty,
        MetricPropertyPayload.toRow, hrange, ret]
      exact ⟨trivial, ⟨p.metricId, p.key, p.value.typeName, propertyColumnValues p.value⟩,
        by simp [hfind], .inr ⟨rfl, rfl⟩⟩

/-- `upsert_metric_property` repeated at once after a call that returned: `noop`, with nothing
written, for every value but a NaN double, which the second call updates again. -/
theorem upsertMetricProperty_twice {c : Connection Tables} (hc : c.failAt = none)
    {r : UpsertResult PropertyRow} (hok : (upsertMetricProperty p c).1 = .ok r) :
    let c' := (upsertMetricProperty p c).2
    (p.value ≠ .double "nan" → ∃ row, (upsertMetricProperty p c').1 = .ok ⟨.noop, some row⟩ ∧
      (upsertMetricProperty p c').2.committed = c'.committed) ∧
    (p.value = .double "nan" → ∃ row, (upsertMetricProperty p c').1 = .ok ⟨.updated, some row⟩) := by
  obtain ⟨hc', row, hfind, hrow⟩ := upsertMetricProperty_settles hc hok
  refine ⟨fun hnan ↦ ?_, fun hnan ↦ ?_⟩
  · have heq : propertyRowsEqual row p.value.typeName (propertyColumnValues p.value) = true :=
      hrow.elim id fun ⟨htype, hcolumns⟩ ↦ (propertyRowsEqual_self htype hcolumns).2 hnan
    rw [(upsertMetricProperty_of_found hc' hfind).1 heq]
    exact ⟨row, rfl, rfl⟩
  · have hne : propertyRowsEqual row p.value.typeName (propertyColumnValues p.value) = false := by
      rw [hnan]; exact propertyRowsEqual_nan row
    exact ⟨_, (upsertMetricProperty_of_found hc' hfind).2 hne (by rw [hnan]; rfl)⟩

end Property

/-! ## Upserting properties in bulk twice -/

/-- `items[i : i + size]` over all `i` gives back the items. -/
theorem flatten_batchesAux {α : Type} {size : Nat} (hsize : 0 < size) :
    ∀ fuel (items : List α), items.length ≤ fuel → (batchesAux size fuel items).flatten = items
  | 0, items, h => by simp_all [batchesAux]
  | fuel + 1, items, h => by
    unfold batchesAux
    split
    · next hempty => simp [List.isEmpty_iff.1 hempty]
    · next hne =>
      have : (items.drop size).length ≤ fuel := by
        simp only [List.length_drop]
        have := List.length_pos.2 fun h ↦ hne (List.isEmpty_iff.2 h)
        omega
      rw [List.flatten_cons, flatten_batchesAux hsize fuel _ this, List.take_append_drop]

theorem flatten_batches {α : Type} {size : Nat} (hsize : 0 < size) (items : List α) :
    (batches size items).flatten = items :=
  flatten_batchesAux hsize _ _ le_rfl

/-- The rows of `grouped`: its metric ids once each, and under each id its keys once each, with
the payloads of that id and key. -/
def GroupedWell (grouped : List (Nat × List (String × MetricPropertyPayload))) : Prop :=
  (grouped.map Prod.fst).Nodup ∧ ∀ m byKey, (m, byKey) ∈ grouped →
    (byKey.map Prod.fst).Nodup ∧ ∀ k q, (k, q) ∈ byKey → q.metricId = m ∧ q.key = k

theorem groupedWell_foldl (payloads : List MetricPropertyPayload) :
    ∀ grouped, GroupedWell grouped → GroupedWell (payloads.foldl (fun grouped p ↦
      setItem grouped p.metricId (setItem ((grouped.lookup p.metricId).getD []) p.key p)) grouped) := by
  induction payloads with
  | nil => exact fun _ h ↦ h
  | cons p payloads ih =>
    refine fun grouped h ↦ ih _ ⟨nodup_keys_setItem h.1 _ _, fun m byKey hmem ↦ ?_⟩
    rcases mem_setItem hmem with hmem | hmem
    · exact h.2 m byKey hmem
    · obtain ⟨rfl, rfl⟩ := Prod.mk.inj hmem
      have hold : (((grouped.lookup p.metricId).getD []).map Prod.fst).Nodup ∧
          ∀ k q, (k, q) ∈ (grouped.lookup p.metricId).getD [] → q.metricId = p.metricId ∧ q.key = k := by
        cases hl : grouped.lookup p.metricId with
        | none => simp
        | some byKey => exact h.2 _ _ (mem_of_lookup_eq_some hl)
      refine ⟨nodup_keys_setItem hold.1 _ _, fun k q hq ↦ ?_⟩
      rcases mem_setItem hq with hq | hq
      · exact hold.2 k q hq
      · obtain ⟨rfl, rfl⟩ := Prod.mk.inj hq
        exact ⟨rfl, rfl⟩

/-- Grouping leaves one row per `(metric_id, key)`. -/
theorem nodup_keys_groupProperties (payloads : List MetricPropertyPayload) :
    (((groupProperties payloads).flatMap fun (_, byKey) ↦ byKey.map (·.2.toRow)).map
      fun r ↦ (r.metricId, r.key)).Nodup := by
  obtain ⟨hids, hkeys⟩ := groupedWell_foldl payloads [] ⟨List.nodup_nil, fun _ _ h ↦ by cases h⟩
  have hrows : ∀ m byKey, (m, byKey) ∈ groupProperties payloads →
      (byKey.map (·.2.toRow)).map (fun r ↦ (r.metricId, r.key)) = (byKey.map Prod.fst).map (m, ·) := by
    intro m byKey hx
    simp only [List.map_map]
    exact List.map_congr_left fun ⟨k, q⟩ hq ↦ by
      obtain ⟨hm, hk⟩ := (hkeys m byKey hx).2 k q hq
      simp [MetricPropertyPayload.toRow, hm, hk]
  rw [List.map_flatMap]
  refine List.nodup_flatMap.2 ⟨fun ⟨m, byKey⟩ hx ↦ ?_, ?_⟩
  · show ((byKey.map (·.2.toRow)).map _).Nodup
    rw [hrows m byKey hx]
    exact (hkeys m byKey hx).1.map fun _ _ h ↦ (Prod.mk.inj h).2
  · refine (List.pairwise_map.1 hids).imp_of_mem fun {x y} hx hy hne ↦ ?_
    obtain ⟨m, byKey⟩ := x
    obtain ⟨m', byKey'⟩ := y
    show List.Disjoint ((byKey.map (·.2.toRow)).map _) ((byKey'.map (·.2.toRow)).map _)
    rw [hrows m byKey hx, hrows m' byKey' hy]
    simp only [List.disjoint_left, List.mem_map]
    rintro _ ⟨_, _, rfl⟩ ⟨_, _, h⟩
    exact hne (Prod.mk.inj h).1.symm

/-- Each row of `rows` is the one a lookup of its `(metric_id, key)` finds. -/
def Written (rows : List PropertyRow) (t : Tables) : Prop :=
  ∀ r ∈ rows, t.properties.find? (fun x ↦ x.metricId == r.metricId && x.key == r.key) = some r

/-- After one row of the bulk `INSERT` the lookup of its key finds it. -/
theorem upsertPropertyRow_find? (acc : Nat × Tables) (row : PropertyRow) :
    (upsertPropertyRow acc row).2.properties.find?
      (fun x ↦ x.metricId == row.metricId && x.key == row.key) = some row := by
  obtain ⟨count, t⟩ := acc
  unfold upsertPropertyRow
  cases hfind : t.properties.find? fun x ↦ x.metricId == row.metricId && x.key == row.key with
  | none => simp [hfind]
  | some existing =>
    have hkey := List.find?_some hfind
    simp only [Bool.and_eq_true, beq_iff_eq] at hkey
    simp only [hfind]
    split_ifs with heq
    · simp only [Bool.and_eq_true, beq_iff_eq] at heq
      rw [hfind]
      obtain ⟨m, k, ty, cols⟩ := existing
      simp_all
    · exact find?_update_of_find? hfind (by simp [hkey]) fun _ h ↦ by simpa using h

/-- One row of the bulk `INSERT` leaves the lookups of other keys as they were. -/
theorem upsertPropertyRow_find?_other (acc : Nat × Tables) (row : PropertyRow) {r x : PropertyRow}
    (hne : (r.metricId, r.key) ≠ (row.metricId, row.key))
    (hx : acc.2.properties.find? (fun y ↦ y.metricId == r.metricId && y.key == r.key) = some x) :
    (upsertPropertyRow acc row).2.properties.find?
      (fun y ↦ y.metricId == r.metricId && y.key == r.key) = some x := by
  obtain ⟨count, t⟩ := acc
  unfold upsertPropertyRow
  cases hfind : t.properties.find? fun y ↦ y.metricId == row.metricId && y.key == row.key with
  | none => simp [hfind, hx]
  | some existing =>
    simp only [hfind]
    split_ifs
    · exact hx
    · refine find?_update_of_other hx fun y hy ↦ ?_
      simp only [Bool.and_eq_true, beq_iff_eq] at hy
      simp only [hy, Bool.and_eq_false_iff, beq_eq_false_iff_ne, and_self]
      by_contra h
      push_neg at h
      exact hne (Prod.ext h.1.symm h.2.symm)

/-- Rows with distinct keys written one after another are each found afterwards. -/
theorem written_foldl : ∀ (batch : List PropertyRow) {done : List PropertyRow} (acc : Nat × Tables),
    Written done acc.2 → ((done ++ batch).map fun r ↦ (r.metricId, r.key)).Nodup →
      Written (done ++ batch) (batch.foldl upsertPropertyRow acc).2
  | [], _, _, hw, _ => by simpa using hw
  | row :: rest, done, acc, hw, hnd => by
    have hdisj := (List.nodup_append.1 (List.map_append _ done (row :: rest) ▸ hnd)).2.2
    have hdone : Written (done ++ [row]) (upsertPropertyRow acc row).2 := by
      intro r hr
      rcases List.mem_append.1 hr with hr | hr
      · refine upsertPropertyRow_find?_other acc row (fun h ↦ ?_) (hw r hr)
        exact hdisj (List.mem_map_of_mem _ hr) (h ▸ List.mem_map_of_mem _ (List.mem_cons_self _ _))
      · rw [List.mem_singleton.1 hr]; exact upsertPropertyRow_find? acc row
    simpa using written_foldl rest _ hdone (by simpa using hnd)

/-- Rows that are each found already change nothing and count nothing. -/
theorem foldl_upsertPropertyRow_of_written :
    ∀ (batch : List PropertyRow) (n : Nat) {t : Tables}, Written batch t →
      batch.foldl upsertPropertyRow (n, t) = (n, t)
  | [], _, _, _ => rfl
  | row :: rest, n, t, hw => by
    have hrow : upsertPropertyRow (n, t) row = (n, t) := by
      simp [upsertPropertyRow, hw row (List.mem_cons_self _ _)]
    rw [List.foldl_cons, hrow]
    exact foldl_upsertPropertyRow_of_written rest n fun r hr ↦ hw r (List.mem_cons_of_mem _ hr)

/-- A batch PostgreSQL accepts: no key twice, no value out of its column's range. -/
def Passes (batch : List PropertyRow) : Prop :=
  (batch.map fun r ↦ (r.metricId, r.key)).Nodup ∧ batch.findSome? (·.columns.rangeError) = none

theorem upsertPropertyRows_eq_ok {batch : List PropertyRow} {t : Tables} {x : Nat × Tables}
    (h : upsertPropertyRows batch t = .ok x) : Passes batch ∧ x = batch.foldl upsertPropertyRow (0, t) := by
  unfold upsertPropertyRows at h
  split_ifs at h with hnd
  split at h
  · cases h
  · next hr => exact ⟨⟨hnd, hr⟩, (Except.ok.inj h).symm⟩

theorem upsertPropertyRows_of_passes {batch : List PropertyRow} (h : Passes batch) (t : Tables) :
    upsertPropertyRows batch t = .ok (batch.foldl upsertPropertyRow (0, t)) := by
  simp [upsertPropertyRows, h.1, h.2]

/-- Batches that all returned leave their rows found, each batch accepted. -/
theorem upsertPropertyBatches_written : ∀ (bs : List (List PropertyRow)) (total : Nat)
    (done : List PropertyRow) {c : Connection Tables} {n : Nat}, c.failAt = none →
    Written done c.committed → ((done ++ bs.flatten).map fun r ↦ (r.metricId, r.key)).Nodup →
    (upsertPropertyBatches total bs c).1 = .ok n →
    Written (done ++ bs.flatten) (upsertPropertyBatches total bs c).2.committed ∧
      (upsertPropertyBatches total bs c).2.failAt = none ∧ ∀ b ∈ bs, Passes b
  | [], _, _, _, _, hc, hw, _, _ => ⟨by simpa using hw, hc, by simp⟩
  | b :: rest, total, done, c, n, hc, hw, hnd, hok => by
    cases hb : upsertPropertyRows b c.committed with
    | error e => simp [upsertPropertyBatches, andThen, run, hc, hb] at hok
    | ok x =>
      obtain ⟨count, t⟩ := x
      obtain ⟨hpass, hx⟩ := upsertPropertyRows_eq_ok hb
      simp only [upsertPropertyBatches, andThen, run, hc, reduceCtorEq, if_false, hb] at hok ⊢
      have hw' : Written (done ++ b) t := by
        have := written_foldl b (0, c.committed) hw
          (hnd.sublist (by simp))
        rwa [← hx] at this
      obtain ⟨hw'', hc'', hpass'⟩ := upsertPropertyBatches_written rest _ _ rfl hw' (by simpa using hnd) hok
      exact ⟨by simpa using hw'', hc'', List.forall_mem_cons.2 ⟨hpass, hpass'⟩⟩

/-- Batches whose rows are all found already return the total as it was and write nothing. -/
theorem upsertPropertyBatches_of_written : ∀ (bs : List (List PropertyRow)) (total : Nat)
    {c : Connection Tables}, c.failAt = none → Written bs.flatten c.committed → (∀ b ∈ bs, Passes b) →
    (upsertPropertyBatches total bs c).1 = .ok total ∧
      (upsertPropertyBatches total bs c).2.committed = c.committed
  | [], _, _, _, _, _ => ⟨rfl, rfl⟩
  | b :: rest, total, c, hc, hw, hpass => by
    have hb : upsertPropertyRows b c.committed = .ok (0, c.committed) := by
      rw [upsertPropertyRows_of_passes (hpass b (List.mem_cons_self _ _)),
        foldl_upsertPropertyRow_of_written b 0 fun r hr ↦ hw r (by simp [hr])]
    simp only [upsertPropertyBatches, andThen, run, hc, reduceCtorEq, if_false, hb, Nat.add_zero]
    exact upsertPropertyBatches_of_written rest total rfl (fun r hr ↦ hw r (by simp_all))
      fun b hb ↦ hpass b (List.mem_cons_of_mem _ hb)

/-- `upsert_metric_properties_bulk` repeated at once after a call that returned changes no row
and returns 0. -/
theorem upsertMetricPropertiesBulk_twice {payloads : List MetricPropertyPayload} {batchSize : Nat}
    {c : Connection Tables} (hc : c.failAt = none) {n : Nat}
    (hok : (upsertMetricPropertiesBulk payloads batchSize c).1 = .ok n) :
    let c' := (upsertMetricPropertiesBulk payloads batchSize c).2
    (upsertMetricPropertiesBulk payloads batchSize c').1 = .ok 0 ∧
      (upsertMetricPropertiesBulk payloads batchSize c').2.committed = c'.committed := by
  unfold upsertMetricPropertiesBulk at hok ⊢
  by_cases hsize : batchSize = 0
  · simp [hsize] at hok
  by_cases hempty : payloads.isEmpty = true
  · simp only [hsize, hempty, if_true, if_false]
    exact ⟨rfl, rfl⟩
  simp only [hsize, hempty, if_false, Bool.false_eq_true] at hok ⊢
  rw [mapError_fst] at hok
  obtain ⟨n', hok'⟩ : ∃ n', (upsertPropertyBatches 0 (batches batchSize
      ((groupProperties payloads).flatMap fun (_, byKey) ↦ byKey.map (·.2.toRow))) c).1 = .ok n' := by
    revert hok; cases (upsertPropertyBatches _ _ c).1 <;> intro hok
    · cases hok
    · exact ⟨_, rfl⟩
  obtain ⟨hw, hc', hpass⟩ := upsertPropertyBatches_written _ 0 [] hc (fun _ h ↦ by cases h)
    (by simpa [flatten_batches (Nat.pos_of_ne_zero hsize)] using nodup_keys_groupProperties payloads) hok'
  obtain ⟨h1, h2⟩ := upsertPropertyBatches_of_written _ 0 (by simpa using hc') (by simpa using hw) hpass
  exact ⟨by simp only [mapError_fst, mapError_snd, h1]; rfl, by simp only [mapError_snd, h2]⟩

/-! ## Repeated upserts -/

/-- With no driver failure, each upsert repeated at once returns `noop` and writes nothing:
`upsert_device` and `upsert_metric` whichever branch the first call took, on tables whose primary
keys are unique, and `upsert_metric_property` after a call that returned, for every value but a
NaN double, which the second call updates again because `nan == nan` is false in Python.
`upsert_metric_properties_bulk` repeated after a call that returned changes no row and returns 0. -/
theorem upserts_repeat_as_noop_except_nan :
    (∀ (p : DevicePayload) (c : Connection Tables), (c.committed.devices.map (·.deviceId)).Nodup →
      c.failAt = none → ∃ row, (upsertDevice p (upsertDevice p c).2).1 = .ok ⟨.noop, some row⟩ ∧
        (upsertDevice p (upsertDevice p c).2).2.committed = (upsertDevice p c).2.committed) ∧
    (∀ (p : MetricPayload) (c : Connection Tables), (c.committed.metrics.map (·.metricId)).Nodup →
      c.failAt = none → ∃ row, (upsertMetric p (upsertMetric p c).2).1 = .ok ⟨.noop, some row⟩ ∧
        (upsertMetric p (upsertMetric p c).2).2.committed = (upsertMetric p c).2.committed) ∧
    (∀ (p : MetricPropertyPayload) (c : Connection Tables) (r : UpsertResult PropertyRow),
      c.failAt = none → (upsertMetricProperty p c).1 = .ok r →
      (p.value ≠ .double "nan" → ∃ row,
        (upsertMetricProperty p (upsertMetricProperty p c).2).1 = .ok ⟨.noop, some row⟩ ∧
        (upsertMetricProperty p (upsertMetricProperty p c).2).2.committed =
          (upsertMetricProperty p c).2.committed) ∧
      (p.value = .double "nan" → ∃ row,
        (upsertMetricProperty p (upsertMetricProperty p c).2).1 = .ok ⟨.updated, some row⟩)) ∧
    (∀ (payloads : List MetricPropertyPayload) (batchSize : Nat) (c : Connection Tables) (n : Nat),
      c.failAt = none → (upsertMetricPropertiesBulk payloads batchSize c).1 = .ok n →
      let c' := (upsertMetricPropertiesBulk payloads batchSize c).2
      (upsertMetricPropertiesBulk payloads batchSize c').1 = .ok 0 ∧
        (upsertMetricPropertiesBulk payloads batchSize c').2.committed = c'.committed) :=
  ⟨fun p _ hid hc ↦ by unfold upsertDevice; exact upsertByPath_twice _ (devicePathUpsert p) hid hc,
    fun p _ hid hc ↦ by unfold upsertMetric; exact upsertByPath_twice _ (metricPathUpsert p) hid hc,
    fun _ _ _ hc hok ↦ upsertMetricProperty_twice hc hok,
    fun _ _ _ _ hc hok ↦ upsertMetricPropertiesBulk_twice hc hok⟩

/-- A `double` property whose value is `float('nan')`. -/
def nanProperty : MetricPropertyPayload := ⟨42, "displayHigh", .double "nan"⟩

/-- Upserting it into empty tables inserts it, and upserting it again updates it again. -/
theorem nan_property_updated_again :
    (upsertMetricProperty nanProperty ⟨Tables.empty, 0, none⟩).1 = .ok ⟨.inserted, some nanProperty.toRow⟩ ∧
      ∃ row, (upsertMetricProperty nanProperty (upsertMetricProperty nanProperty ⟨Tables.empty, 0, none⟩).2).1 =
        .ok ⟨.updated, some row⟩ :=
  have hfirst : (upsertMetricProperty nanProperty ⟨Tables.empty, 0, none⟩).1 =
      .ok ⟨.inserted, some nanProperty.toRow⟩ := rfl
  ⟨hfirst, (upserts_repeat_as_noop_except_nan.2.2.1 nanProperty _ _ rfl hfirst).2 rfl⟩

end UnsMetadataSync.Db.Repository
