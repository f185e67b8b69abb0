import UnsMetadataSync.Db.Repository
import UnsMetadataSync.PathNormalizer
import Mathlib.Data.List.Sort

/-!
# Version history and path lineage

`db/lineage_writers.py`'s `LineageVersionWriter.apply` records a change of a metric.  Inside
`with conn.transaction()` it inserts the diff into `uns_meta.metric_versions` when the diff is not
empty, and, when the metric moved from a previous path that is not blank, inserts the move into
`uns_meta.metric_path_lineage` with `ON CONFLICT (metric_id, old_uns_path, new_uns_path) DO
NOTHING RETURNING lineage_id`.  After the block it increments its lineage counter when that
insert returned a row.

Under autocommit the block groups nothing (`Connection.transaction_eq`), so a failed lineage
insert leaves the version row of the same call in place.  What one call can do to the tables is
said once (`Extends`): both tables are only appended to, every version row has a diff, every
lineage row records a move to another path from a path that is not blank, no move is recorded
twice, and the ids drawn from the sequence increase along the table.  Over every run of calls,
whichever statements fail, the tables keep these properties and the counter counts the lineage
rows appended (`apply_run_extends`).

The tables keep the columns `apply` writes; `version_id` and the timestamps the columns default to
are left out.  The lineage id is drawn from the sequence before the conflict is checked, as
PostgreSQL does, so a move already recorded still uses up an id.  `_NullCounter`, the counter of a
writer built without one, drops its increments; the model keeps the count a counter would hold.
-/

namespace UnsMetadataSync.Db.Lineage

open Json CanaryId Connection Repository PathNormalizer

/-! ## Tables and statements -/

/-- A row of `uns_meta.metric_versions`, with the columns `apply` writes. -/
structure VersionRow where
  metricId : Int
  changedBy : String
  diff : List (String × JsonValue)

/-- A row of `uns_meta.metric_path_lineage`. -/
structure LineageRow where
  lineageId : Nat
  metricId : Int
  oldUnsPath : String
  newUnsPath : String

/-- The conflict target of the lineage insert. -/
def LineageRow.edge (r : LineageRow) : Int × String × String := (r.metricId, r.oldUnsPath, r.newUnsPath)

/-- The two tables and the last value of the lineage id sequence. -/
structure LineageTables where
  versions : List VersionRow
  lineage : List LineageRow
  lineageSeq : Nat

/-- `INSERT INTO uns_meta.metric_versions (metric_id, changed_by, diff) VALUES (%s, %s, %s)`. -/
def insertVersion (metricId : Int) (changedBy : String) (diff : List (String × JsonValue)) :
    Statement LineageTables Unit := fun t ↦
  .ok ((), { t with versions := t.versions ++ [⟨metricId, changedBy, diff⟩] })

/-- The lineage insert with `ON CONFLICT ... DO NOTHING RETURNING lineage_id`, and `fetchone()`
of its cursor: the id drawn from the sequence when the move is new, else `None`. -/
def insertLineage (metricId : Int) (oldUnsPath newUnsPath : String) : Statement LineageTables (Option Nat) :=
  fun t ↦
    let t := { t with lineageSeq := t.lineageSeq + 1 }
    if (metricId, oldUnsPath, newUnsPath) ∈ t.lineage.map LineageRow.edge then .ok (none, t)
    else .ok (some t.lineageSeq,
      { t with lineage := t.lineage ++ [⟨t.lineageSeq, metricId, oldUnsPath, newUnsPath⟩] })

/-! ## The writer -/

section Writer

variable (u : UnicodeData)

/-- The `with self.conn.transaction()` block of `apply`, returning `lineage_inserted`. -/
def writeEntries (metricId : Int) (newUnsPath : String) (diff : Option (List (String × JsonValue)))
    (previousUnsPath : Option String) (changedBy : String) : Sql LineageTables DriverError Bool :=
  let diffPayload := diff.getD []
  transaction <|
    andThen (if diffPayload.isEmpty then ret () else execute (insertVersion metricId changedBy diffPayload))
      fun _ ↦ match previousUnsPath with
        | some previous =>
          if !previous.isEmpty && previous != newUnsPath && !(strip u.isSpace previous.toList).isEmpty then
            andThen (execute (insertLineage metricId previous newUnsPath)) fun row ↦ ret row.isSome
          else ret false
        | none => ret false

/-- A writer: its connection and the count of its lineage counter. -/
structure LineageVersionWriter where
  conn : Connection LineageTables
  lineageCount : Nat

/-- `LineageVersionWriter.apply`: the block, then the counter incremented when the lineage insert
returned a row; a raise skips the counter. -/
def LineageVersionWriter.apply (w : LineageVersionWriter) (metricId : Int) (newUnsPath : String)
    (diff : Option (List (String × JsonValue))) (previousUnsPath : Option String := none)
    (changedBy : String := "system") : Except DriverError Unit × LineageVersionWriter :=
  match writeEntries u metricId newUnsPath diff previousUnsPath changedBy w.conn with
  | (.ok lineageInserted, c) => (.ok (), ⟨c, if lineageInserted then w.lineageCount + 1 else w.lineageCount⟩)
  | (.error e, c) => (.error e, ⟨c, w.lineageCount⟩)

/-- The arguments of one call of `apply`. -/
structure ApplyCall where
  metricId : Int
  newUnsPath : String
  diff : Option (List (String × JsonValue))
  previousUnsPath : Option String
  changedBy : String

/-- The writer after a call on a connection where the environment fails the statement `failAt`. -/
def step (w : LineageVersionWriter) (call : ApplyCall) (failAt : Option Nat) : LineageVersionWriter :=
  (LineageVersionWriter.apply u { w with conn := { w.conn with failAt := failAt } } call.metricId
    call.newUnsPath call.diff call.previousUnsPath call.changedBy).2

/-- The writers a run of calls reaches from `w`, whichever statements the environment fails. -/
inductive Reachable (w : LineageVersionWriter) : LineageVersionWriter → Prop where
  | init : Reachable w w
  | step {w' : LineageVersionWriter} (call : ApplyCall) (failAt : Option Nat) :
      Reachable w w' → Reachable w (step u w' call failAt)

end Writer

/-! ## What a call can do to the tables -/

section Extends

variable (u : UnicodeData)

/-- Tables `apply` can leave: every version row has a diff, every lineage row records a move to
another path from a path that is not blank, no move twice, and increasing ids drawn from the
sequence. -/
structure WellFormed (t : LineageTables) : Prop where
  diffs : ∀ v ∈ t.versions, v.diff ≠ []
  moves : ∀ r ∈ t.lineage, r.oldUnsPath ≠ r.newUnsPath ∧ strip u.isSpace r.oldUnsPath.toList ≠ []
  edges_nodup : (t.lineage.map LineageRow.edge).Nodup
  ids_sorted : (t.lineage.map LineageRow.lineageId).Sorted (· < ·)
  ids_le : ∀ r ∈ t.lineage, r.lineageId ≤ t.lineageSeq

/-- `t'` extends `t` by `k` lineage rows: both tables appended to, and `t'` well formed. -/
structure Extends (t t' : LineageTables) (k : Nat) : Prop where
  wellFormed : WellFormed u t'
  versions : t.versions <+: t'.versions
  lineage : t.lineage <+: t'.lineage
  appended : t'.lineage.length = t.lineage.length + k

variable {u}

theorem Extends.refl {t : LineageTables} (ht : WellFormed u t) : Extends u t t 0 :=
  ⟨ht, List.prefix_refl _, List.prefix_refl _, rfl⟩

theorem Extends.trans {t t' t'' : LineageTables} {k k' : Nat} (h : Extends u t t' k)
    (h' : Extends u t' t'' k') : Extends u t t'' (k + k') :=
  ⟨h'.wellFormed, h.versions.trans h'.versions, h.lineage.trans h'.lineage, by
    rw [h'.appended, h.appended, Nat.add_assoc]⟩

theorem insertVersion_extends {t t' : LineageTables} (ht : WellFormed u t) {metricId : Int}
    {changedBy : String} {diff : List (String × JsonValue)} (hdiff : diff ≠ [])
    (h : insertVersion metricId changedBy diff t = .ok ((), t')) : Extends u t t' 0 := by
  cases h
  refine ⟨⟨fun v hv ↦ ?_, ht.moves, ht.edges_nodup, ht.ids_sorted, ht.ids_le⟩,
    List.prefix_append _ _, List.prefix_refl _, rfl⟩
  rcases List.mem_append.1 hv with hv | hv
  · exact ht.diffs v hv
  · rw [List.mem_singleton.1 hv]
    exact hdiff

/-- The lineage insert of a move appends one row exactly when it returns one. -/
theorem insertLineage_extends {t t' : LineageTables} (ht : WellFormed u t) {metricId : Int}
    {oldUnsPath newUnsPath : String} (hmove : oldUnsPath ≠ newUnsPath)
    (hblank : strip u.isSpace oldUnsPath.toList ≠ []) {row : Option Nat}
    (h : insertLineage metricId oldUnsPath newUnsPath t = .ok (row, t')) :
    Extends u t t' (if row.isSome then 1 else 0) := by
  have hle : ∀ r ∈ t.lineage, r.lineageId ≤ t.lineageSeq + 1 := fun r hr ↦ (ht.ids_le r hr).trans (by omega)
  dsimp only [insertLineage] at h
  split_ifs at h with hmem
  · cases h
    exact ⟨⟨ht.diffs, ht.moves, ht.edges_nodup, ht.ids_sorted, hle⟩,
      List.prefix_refl _, List.prefix_refl _, rfl⟩
  · cases h
    refine ⟨⟨ht.diffs, fun r hr ↦ ?_, ?_, ?_, fun r hr ↦ ?_⟩, List.prefix_refl _,
      List.prefix_append _ _, by simp⟩
    · rcases List.mem_append.1 hr with hr | hr
      · exact ht.moves r hr
      · rw [List.mem_singleton.1 hr]
        exact ⟨hmove, hblank⟩
    · rw [List.map_append, List.nodup_append]
      exact ⟨ht.edges_nodup, List.nodup_singleton _, List.disjoint_singleton.2 hmem⟩
    · rw [List.map_append, List.Sorted, List.pairwise_append]
      refine ⟨ht.ids_sorted, List.pairwise_singleton _ _, fun a ha b hb ↦ ?_⟩
      obtain ⟨r, hr, rfl⟩ := List.mem_map.1 ha
      rw [List.mem_singleton.1 hb]
      exact Nat.lt_succ_of_le (ht.ids_le r hr)
    · rcases List.mem_append.1 hr with hr | hr
      · exact hle r hr
      · rw [List.mem_singleton.1 hr]

/-- The lineage count of a result: one when the block returned `lineage_inserted` true. -/
def insertedCount : Except DriverError Bool → Nat
  | .ok true => 1
  | _ => 0

variable (u)

/-- Code whose every run from well-formed tables extends them by `count` of its result. -/
def Writes {α : Type} (x : Sql LineageTables DriverError α) (count : Except DriverError α → Nat) : Prop :=
  ∀ c, WellFormed u c.committed → Extends u c.committed (x c).2.committed (count (x c).1)

variable {u}

theorem writes_ret {α : Type} (a : α) : Writes u (ret a) fun _ ↦ 0 := fun _ hc ↦ Extends.refl hc

theorem writes_andThen {α β : Type} {x : Sql LineageTables DriverError α}
    {k : α → Sql LineageTables DriverError β} {count : Except DriverError β → Nat}
    (hx : Writes u x fun _ ↦ 0) (hk : ∀ a, Writes u (k a) count) (herr : ∀ e, count (.error e) = 0) :
    Writes u (andThen x k) count := by
  intro c hc
  rcases hr : (x c).1 with e | a
  · rw [andThen_of_error hr]
    dsimp only
    rw [herr]
    exact hx c hc
  · rw [andThen_of_ok hr]
    have h := (hx c hc).trans (hk a _ (hx c hc).wellFormed)
    rwa [Nat.zero_add] at h

theorem writes_insertVersion {metricId : Int} {changedBy : String} {diff : List (String × JsonValue)}
    (hdiff : diff ≠ []) : Writes u (execute (insertVersion metricId changedBy diff)) fun _ ↦ 0 := by
  intro c hc
  rw [execute_eq]
  rcases run_cases (insertVersion metricId changedBy diff) c with ⟨e, h⟩ | ⟨r, t, hs, h⟩ <;> rw [h]
  · exact Extends.refl hc
  · exact insertVersion_extends hc hdiff hs

theorem writes_insertLineage {metricId : Int} {oldUnsPath newUnsPath : String}
    (hmove : oldUnsPath ≠ newUnsPath) (hblank : strip u.isSpace oldUnsPath.toList ≠ []) :
    Writes u (andThen (execute (insertLineage metricId oldUnsPath newUnsPath)) fun row ↦ ret row.isSome)
      insertedCount := by
  intro c hc
  rcases run_cases (insertLineage metricId oldUnsPath newUnsPath) c with ⟨e, h⟩ | ⟨r, t, hs, h⟩
  · rw [andThen_of_error (by rw [execute_eq, h]), execute_eq, h]
    exact Extends.refl hc
  · rw [andThen_of_ok (by rw [execute_eq, h]), execute_eq, h]
    have he := insertLineage_extends hc hmove hblank hs
    cases r <;> exact he

/-- The block of `apply` extends the tables by one lineage row exactly when it returns
`lineage_inserted` true. -/
theorem writes_writeEntries (metricId : Int) (newUnsPath : String)
    (diff : Option (List (String × JsonValue))) (previousUnsPath : Option String) (changedBy : String) :
    Writes u (writeEntries u metricId newUnsPath diff previousUnsPath changedBy) insertedCount := by
  intro c hc
  simp only [writeEntries, transaction_eq]
  refine writes_andThen ?_ (fun _ ↦ ?_) (fun _ ↦ rfl) c hc
  · split_ifs with hd
    · exact writes_ret ()
    · exact writes_insertVersion fun h ↦ hd (List.isEmpty_iff.2 h)
  · split
    · split_ifs with hg
      · simp only [Bool.and_eq_true, Bool.not_eq_true', bne_iff_ne, ne_eq] at hg
        exact writes_insertLineage hg.1.2 fun h ↦ by rw [h] at hg; simp at hg
      · exact writes_ret false
    · exact writes_ret false

end Extends

/-! ## Runs -/

section Runs

variable {u : UnicodeData}

/-- A call extends the writer's tables by the lineage rows it counts. -/
theorem step_extends (w : LineageVersionWriter) (call : ApplyCall) (failAt : Option Nat)
    (hw : WellFormed u w.conn.committed) :
    ∃ k, Extends u w.conn.committed (step u w call failAt).conn.committed k ∧
      (step u w call failAt).lineageCount = w.lineageCount + k := by
  have h := writes_writeEntries (u := u) call.metricId call.newUnsPath call.diff call.previousUnsPath
    call.changedBy { w.conn with failAt := failAt } hw
  unfold step LineageVersionWriter.apply
  split
  · next b c hr =>
    rw [hr] at h
    cases b <;> exact ⟨_, h, rfl⟩
  · next e c hr =>
    rw [hr] at h
    exact ⟨0, h, rfl⟩

/-- Over every run of calls of `apply` from well-formed tables, whichever statements fail, the
tables stay well formed and are only appended to, and the counter grows by the number of lineage
rows appended. -/
theorem apply_run_extends {w₀ w : LineageVersionWriter} (hw : WellFormed u w₀.conn.committed)
    (hr : Reachable u w₀ w) :
    ∃ k, Extends u w₀.conn.committed w.conn.committed k ∧ w.lineageCount = w₀.lineageCount + k := by
  induction hr with
  | init => exact ⟨0, Extends.refl hw, rfl⟩
  | step call failAt _ ih =>
    obtain ⟨k, hk, hc⟩ := ih
    obtain ⟨k', hk', hc'⟩ := step_extends _ call failAt hk.wellFormed
    exact ⟨k + k', hk.trans hk', by rw [hc', hc, Nat.add_assoc]⟩

/-- Empty tables with a fresh sequence. -/
def emptyTables : LineageTables := ⟨[], [], 0⟩

theorem wellFormed_empty : WellFormed u emptyTables :=
  ⟨(fun _ h ↦ by cases h), (fun _ h ↦ by cases h), List.nodup_nil, List.sorted_nil, (fun _ h ↦ by cases h)⟩

/-- A writer on empty tables. -/
def freshWriter : LineageVersionWriter := ⟨⟨emptyTables, 0, none⟩, 0⟩

/-- The move of `Plant/Kiln/temp` to `Plant/Kiln/temperature` with a rename diff. -/
def renameCall : ApplyCall :=
  ⟨7, "Plant/Kiln/temperature", some [("uns_path", .str "Plant/Kiln/temperature")],
    some "Plant/Kiln/temp", "system"⟩

theorem apply_run_extends_rename :
    WellFormed asciiTables freshWriter.conn.committed ∧
      ∃ k, Extends asciiTables freshWriter.conn.committed
          (step asciiTables (step asciiTables freshWriter renameCall none) renameCall none).conn.committed k ∧
        (step asciiTables (step asciiTables freshWriter renameCall none) renameCall none).lineageCount =
          freshWriter.lineageCount + k :=
  ⟨wellFormed_empty, apply_run_extends wellFormed_empty (.step renameCall none (.step renameCall none .init))⟩

end Runs

end UnsMetadataSync.Db.Lineage
