import UnsMetadataSync.Cdc.Service

/-!
# The JSON change decoder, and messages that stop the stream

`JsonChangeDecoder.decode` reads wal2json output: a change object, a list of them, or objects
whose `change` list holds them.  Each becomes a `ChangeRecord`, its columns taken from a
`columns` list of objects or from the parallel lists `columnnames`, `columnvalues` and
`columntypes` (`oldkeys` likewise for the old row).  The parallel lists are read with
`enumerate`, `len` and indexing, which raise on values that are not lists, strings or dicts;
`_extract_metric_id` then calls `int` on the `metric_id` column, which raises on `None`.

An exception from the decoder or the handler leaves the checkpoint where it was, so the next
call of `process` reads the same message first and raises again: one such message stops the
stream for good (`null_metric_id_poisons_stream`).

A message's data is the value `json.loads` returns for it: the invalid UTF-8 and invalid JSON
that raise before any of this code runs are outside the model.  The type oids and flags of the
columns are not kept, as nothing reads them; the `kind` and `relation` of a record are kept as
`str` of their values.
-/

namespace UnsMetadataSync.Cdc.Decoder

open Json LogicalReplication Checkpoint Service

/-! ## Python's sequences -/

/-- What `enumerate(value)` walks: a list's items, a string's characters, a dict's keys. -/
def pyIter : JsonValue → Except String (List JsonValue)
  | .arr items => .ok items
  | .str s => .ok (s.toList.map fun c ↦ .str c.toString)
  | .obj entries => .ok (entries.map fun e ↦ .str e.1)
  | v => .error (pyReprStr (pyTypeName v) ++ " object is not iterable")

/-- `len(value)`. -/
def pyLen : JsonValue → Except String Nat
  | .arr items => .ok items.length
  | .str s => .ok s.length
  | .obj entries => .ok entries.length
  | v => .error ("object of type " ++ pyReprStr (pyTypeName v) ++ " has no len()")

/-- `value[index] if index < len(value) else None`; a dict, keyed by strings, raises the
`KeyError` of the index. -/
def pyItemOrNone (value : JsonValue) (index : Nat) : Except String JsonValue := do
  if index < (← pyLen value) then
    match value with
    | .arr items => pure (items.getD index .null)
    | .str s => pure (.str (s.toList.getD index ' ').toString)
    | _ => throw (toString index)
  else pure .null

/-! ## Decoding -/

/-- The columns of a `columns` list: its objects that have a `name`, as
`(str(col["name"]), col.get("value"))`. -/
def listColumns (raw : List JsonValue) : List (String × JsonValue) :=
  raw.filterMap fun
    | .obj col => (col.lookup "name").map fun name ↦ (pyStr name, pyGet col "value")
    | _ => none

/-- The columns of the parallel lists `names`, `values` and `types`, each read `or []`. -/
def namedColumns (names values types : JsonValue) : Except String (List (String × JsonValue)) := do
  let names ← pyIter (pyOr names (.arr []))
  let values := pyOr values (.arr [])
  let types := pyOr types (.arr [])
  names.enum.mapM fun (index, name) ↦ do
    let value ← pyItemOrNone values index
    let _ ← pyItemOrNone types index
    pure (pyStr name, value)

/-- `None` for no columns. -/
def nonEmpty (columns : List (String × JsonValue)) : Option (List (String × JsonValue)) :=
  if columns.isEmpty then none else some columns

/-- The record of one change object. -/
def decodeItem (lsn : Int) (item : List (String × JsonValue)) : Except String ChangeRecord := do
  let columns ← match pyGet item "columns" with
    | .arr raw => pure (listColumns raw)
    | _ => namedColumns (pyGet item "columnnames") (pyGet item "columnvalues") (pyGet item "columntypes")
  let oldColumns ← match pyGet item "old_columns" with
    | .arr raw => pure (nonEmpty (listColumns raw))
    | _ => match pyGet item "oldkeys" with
      | .obj keys =>
        nonEmpty <$> namedColumns (pyGet keys "keynames") (pyGet keys "keyvalues") (pyGet keys "keytypes")
      | _ => pure none
  let relation := pyOr (pyGet item "relation") (.str "")
  let relation :=
    if pyTruthy relation then pyStr relation
    else if pyTruthy (pyGet item "schema") && pyTruthy (pyGet item "table") then
      pyStr (pyGet item "schema") ++ "." ++ pyStr (pyGet item "table")
    else ""
  pure ⟨pyStr ((item.lookup "kind").getD (.str "update")), relation, columns, oldColumns, lsn⟩

/-- The change objects of an object: its `change` list's objects, or the object itself. -/
def changeItems (payload : List (String × JsonValue)) : List (List (String × JsonValue)) :=
  match pyGet payload "change" with
  | .arr changes => changes.filterMap fun
    | .obj change => some change
    | _ => none
  | _ => [payload]

/-- `JsonChangeDecoder.decode`. -/
def decode (message : ReplicationStreamMessage JsonValue) : Except String (List ChangeRecord) :=
  let items := match message.data with
    | .obj payload => changeItems payload
    | .arr entries => entries.flatMap fun
      | .obj entry => changeItems entry
      | _ => []
    | _ => []
  items.mapM (decodeItem message.lsn)

/-! ## A message that fails on every retry -/

section Poison

variable {δ σ : Type} (cfg : ServiceConfig) (store : MetadataStore)

/-- A record whose `metric_id` the handler cannot convert fails in every state. -/
theorem handleChange_of_extractMetricId_error {change : ChangeRecord} {e : String}
    (h : extractMetricId change = .error e) (now : ℚ) (m : CdcMemory) :
    handleChange store now change m = .error e := by
  simp [handleChange, h]

/-- When the first record of the first message after the checkpoint fails, `process_once`
counts an error and changes neither the checkpoint store nor the memory, and sends nothing. -/
theorem processOnce_of_first_record_error {client : ClientConfig δ ChangeRecord σ}
    {s : ServiceState σ} {message : ReplicationStreamMessage δ} {rest : List (ReplicationStreamMessage δ)}
    {change : ChangeRecord} {changes : List ChangeRecord} {e : String}
    (hstream : client.streamFactory (client.checkpointStore.load s.process.store client.slotName) =
      message :: rest)
    (hdecode : client.decoder message = .ok (change :: changes))
    (hfail : extractMetricId change = .error e) (now draw : ℚ) :
    let s' := processOnce cfg store client now draw s
    s'.process.store = s.process.store ∧ s'.sent = s.sent ∧
      s'.process.handlerState = { s.process.handlerState with errors := s.process.handlerState.errors + 1 } := by
  have hproc : ∃ e' w, process client (handleChange store now) (some cfg.maxBatchMessages) draw s.process =
      (.error e', w) ∧ w.store = s.process.store ∧ w.handlerState = s.process.handlerState := by
    simp only [process, hstream, processMessages, hdecode, handleChanges,
      handleChange_of_extractMetricId_error store hfail]
    split <;> exact ⟨_, _, rfl, rfl, rfl⟩
  obtain ⟨e', w, hw, hstore, hstate⟩ := hproc
  simp [processOnce, hw, hstore, hstate]

/-- Retried `process_once` calls at any clock readings and back-off draws. -/
def retries (client : ClientConfig δ ChangeRecord σ) (runs : List (ℚ × ℚ)) (s : ServiceState σ) :
    ServiceState σ :=
  runs.foldl (fun s (now, draw) ↦ processOnce cfg store client now draw s) s

/-- Every retry reads the same message first and fails on it. -/
theorem retries_of_first_record_error {client : ClientConfig δ ChangeRecord σ}
    {message : ReplicationStreamMessage δ} {change : ChangeRecord} {changes : List ChangeRecord}
    {e : String} (hdecode : client.decoder message = .ok (change :: changes))
    (hfail : extractMetricId change = .error e) (runs : List (ℚ × ℚ)) {s : ServiceState σ}
    (hstream : ∃ rest, client.streamFactory (client.checkpointStore.load s.process.store client.slotName) =
      message :: rest) :
    let s' := retries cfg store client runs s
    s'.process.store = s.process.store ∧ s'.sent = s.sent ∧
      s'.process.handlerState = { s.process.handlerState with
        errors := s.process.handlerState.errors + runs.length } := by
  induction runs generalizing s with
  | nil => exact ⟨rfl, rfl, rfl⟩
  | cons run runs ih =>
    obtain ⟨rest, hrest⟩ := hstream
    obtain ⟨hstore, hsent, hstate⟩ :=
      processOnce_of_first_record_error cfg store hrest hdecode hfail run.1 run.2
    obtain ⟨hstore', hsent', hstate'⟩ := ih (s := processOnce cfg store client run.1 run.2 s)
      ⟨rest, by rw [hstore]; exact hrest⟩
    refine ⟨hstore'.trans hstore, hsent'.trans hsent, ?_⟩
    simp only [retries, List.foldl_cons] at hstate' ⊢
    rw [hstate', hstate]
    congr 1
    simp only [List.length_cons]
    omega

end Poison

/-- A change whose `metric_id` column is `null`, at position 1. -/
def nullMetricIdMessage : ReplicationStreamMessage JsonValue :=
  ⟨1, .obj [("columns", .arr [.obj [("name", .str "metric_id"), ("value", .null)]])], 0⟩

/-- The record the decoder makes of it. -/
def nullMetricIdRecord : ChangeRecord := ⟨"update", "", [("metric_id", .null)], none, 1⟩

/-- The service's client reading a stream whose only message is `nullMetricIdMessage`. -/
def poisonedClient (cfg : ServiceConfig) : ClientConfig JsonValue ChangeRecord InMemoryCheckpointStore :=
  clientConfig cfg (suffixFactory [nullMetricIdMessage]) decode inMemoryStore

/-- A service constructed at clock reading `now` with an empty checkpoint store. -/
def freshService (cfg : ServiceConfig) (now : ℚ) : ServiceState InMemoryCheckpointStore :=
  ⟨⟨⟨none, none, none, ⟨1 / 2, 2, 30, none, true, 0⟩⟩, ⟨[]⟩, CdcMemory.fresh cfg now⟩, []⟩

/-- The decoder raises on `{"columnnames": 5}`; and for every configuration, metadata store and
sequence of retries, a service whose stream starts with a change whose `metric_id` is `null`
never advances its checkpoint, never sends a diff and counts one error per retry. -/
theorem null_metric_id_poisons_stream :
    decode ⟨1, .obj [("columnnames", .int 5)], 0⟩ = .error "'int' object is not iterable" ∧
    ∀ (cfg : ServiceConfig) (store : MetadataStore) (now : ℚ) (runs : List (ℚ × ℚ)),
      let s := retries cfg store (poisonedClient cfg) runs (freshService cfg now)
      s.process.store.load cfg.slotName = none ∧ s.sent = [] ∧
        s.process.handlerState.errors = runs.length := by
  refine ⟨by with_unfolding_all rfl, fun cfg store now runs ↦ ?_⟩
  have hdecode : (poisonedClient cfg).decoder nullMetricIdMessage = .ok [nullMetricIdRecord] := by
    with_unfolding_all rfl
  have hfail : extractMetricId nullMetricIdRecord =
      .error "int() argument must be a string, a bytes-like object or a real number, not 'NoneType'" := by
    with_unfolding_all rfl
  obtain ⟨hstore, hsent, hstate⟩ := retries_of_first_record_error cfg store hdecode hfail runs
    (s := freshService cfg now) ⟨[], by with_unfolding_all rfl⟩
  refine ⟨by rw [hstore]; rfl, hsent, ?_⟩
  rw [hstate]
  simp [freshService, CdcMemory.fresh]

end UnsMetadataSync.Cdc.Decoder
