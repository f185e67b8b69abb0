import UnsMetadataSync.Db.Repository
import UnsMetadataSync.JsonScanner
import Mathlib.Data.List.Sort

/-!
# The migration runner

`migrations/runner.py` applies the packaged SQL migrations in the order of their version numbers
and records each one in the ledger table `public.schema_migrations` as its version and the
SHA-256 checksum of its up script.  `rollback_last` runs the down script of the recorded
migration with the greatest version number and deletes its row.

The package directory is a list of file names and texts, in the order `iterdir` yields them.
The database runs a script as one statement (`exec`), with any effect on the database; the
checksum is a function of the script's text (`sha256`).  The ledger is absent until a script
creates it.  The runner's connection has autocommit on, as every `Connection` of the service does
(`Db.Connection`): each statement commits as it completes, and the `with connection.transaction()`
around a migration's two statements groups nothing.

The loop of `apply_migrations` decides from the ledger, read once before it, which migrations
it runs (`plan`); a real run executes them one after another and a dry run reports them
(`applyLoop_eq_runPlanned`, `applyLoop_dryRun`).  Since the migrations are sorted, the `break`
at the target version is a filter: the run executes the migrations up to the target that the
ledger does not record.  Whichever statement fails, the ledger then holds its old rows followed by
those of a prefix of that list.  A second run after a successful one does nothing, and a dry
run after a rollback reports the rolled-back migration alone.

The version text of a migration is read as a number by its digits; non-ASCII digits, which
`str.isdigit` also accepts, are outside the model.
-/

namespace UnsMetadataSync.Db.Migrations

open Json Connection Repository

/-! ## Migrations on disk -/

/-- `MigrationError`, `MigrationChecksumMismatch` and `MigrationNotFound`, with their messages. -/
inductive MigrationError where
  | error (message : String)
  | checksumMismatch (message : String)
  | notFound (message : String)
  deriving DecidableEq

/-- `Migration`: a pair of scripts and the checksum of the up script. -/
structure Migration where
  version : String
  name : String
  upSql : String
  downSql : String
  checksum : String
  deriving DecidableEq

/-- The ledger row that records a migration. -/
def Migration.row (m : Migration) : String × String := (m.version, m.checksum)

/-- `int(version)`, for a version of decimal digits. -/
def versionNumber (version : String) : Nat := JsonScanner.digitsValue version.toList

/-- `str.isdigit()` on ASCII text: not empty, and all digits. -/
def isDigits (s : String) : Bool := !s.isEmpty && s.all Char.isDigit

/-- `stem.partition("_")` without the separator: the text before the first underscore, and the
text after it. -/
def partitionUnderscore (stem : String) : String × String :=
  (String.mk (stem.toList.takeWhile (· != '_')),
    String.mk ((stem.toList.dropWhile (· != '_')).drop 1))

/-- The key `load_migrations` sorts by, as a comparison. -/
def versionLE (a b : Migration) : Bool := versionNumber a.version ≤ versionNumber b.version

section Load

variable (sha256 : String → String) (directory : List (String × String))

/-- The loop body of `load_migrations` for one entry of the package directory, a file's name and
text: a migration for a `.up.sql` file, nothing for any other file. -/
def loadEntry (entry : String × String) : Except MigrationError (Option Migration) :=
  if entry.1.endsWith ".up.sql" then
    let stem := entry.1.dropRight 7
    match directory.lookup (stem ++ ".down.sql") with
    | none => .error (.notFound ("Missing down script for migration '" ++ stem ++ "'"))
    | some downSql =>
      if isDigits (partitionUnderscore stem).1 then
        .ok (some ⟨(partitionUnderscore stem).1, (partitionUnderscore stem).2, entry.2, downSql,
          sha256 entry.2⟩)
      else .error (.error ("Migration '" ++ stem ++ "' does not start with a numeric version prefix"))
  else .ok none

/-- The loop of `load_migrations` over the entries, in the order `iterdir` yields them. -/
def loadEntries : List (String × String) → Except MigrationError (List Migration)
  | [] => .ok []
  | entry :: rest => do
    let m ← loadEntry sha256 directory entry
    let ms ← loadEntries rest
    pure (m.toList ++ ms)

/-- `load_migrations`: the migrations of the package directory, stably sorted by version number. -/
def loadMigrations : Except MigrationError (List Migration) :=
  (loadEntries sha256 directory directory).map fun ms ↦ ms.mergeSort versionLE

/-- The loaded migrations are in the order of their version numbers. -/
theorem loadMigrations_sorted {ms : List Migration} (h : loadMigrations sha256 directory = .ok ms) :
    ms.Pairwise fun a b ↦ versionNumber a.version ≤ versionNumber b.version := by
  unfold loadMigrations at h
  cases hl : loadEntries sha256 directory directory with
  | error e => simp [hl, Except.map] at h
  | ok l =>
    simp only [hl, Except.map, Except.ok.injEq] at h
    subst h
    refine (@List.sorted_mergeSort _ versionLE (fun a b c hab hbc ↦ ?_) (fun a b ↦ ?_) l).imp ?_
    · simp only [versionLE, decide_eq_true_eq] at hab hbc ⊢
      omega
    · simp only [versionLE, Bool.or_eq_true, decide_eq_true_eq]
      omega
    · simp [versionLE]

end Load

/-! ## The ledger -/

/-- The database the runner sees: the objects the scripts create, of any type `σ`, and the rows
of `public.schema_migrations`, `none` while the table does not exist. -/
structure Database (σ : Type) where
  schema : σ
  ledger : Option (List (String × String))

section Statements

variable {σ : Type}

/-- The ledger's rows, none while the table does not exist. -/
def ledgerRows (t : Database σ) : List (String × String) := t.ledger.getD []

/-- The driver's error for a statement on the ledger while it does not exist. -/
def undefinedLedger : DriverError := ⟨"relation \"public.schema_migrations\" does not exist"⟩

/-- `SELECT to_regclass('public.schema_migrations')`, read as `bool(row and row[0])`. -/
def selectLedgerExists : Statement (Database σ) Bool := fun t ↦ .ok (t.ledger.isSome, t)

/-- `SELECT version, checksum FROM public.schema_migrations ORDER BY version`. -/
def selectApplied : Statement (Database σ) (List (String × String)) := fun t ↦
  match t.ledger with
  | some rows => .ok (rows.mergeSort fun a b ↦ a.1 ≤ b.1, t)
  | none => .error undefinedLedger

/-- `INSERT INTO public.schema_migrations (version, checksum) VALUES (%s, %s)`. -/
def insertApplied (version checksum : String) : Statement (Database σ) Unit := fun t ↦
  match t.ledger with
  | some rows => .ok ((), { t with ledger := some (rows ++ [(version, checksum)]) })
  | none => .error undefinedLedger

/-- `DELETE FROM public.schema_migrations WHERE version = %s`. -/
def deleteApplied (version : String) : Statement (Database σ) Unit := fun t ↦
  match t.ledger with
  | some rows => .ok ((), { t with ledger := some (rows.filter (·.1 != version)) })
  | none => .error undefinedLedger

/-- The row of the greatest version number, the first of those that share it. -/
def lastRow : List (String × String) → Option (String × String)
  | [] => none
  | r :: rest =>
    match lastRow rest with
    | some best => if versionNumber r.1 < versionNumber best.1 then some best else some r
    | none => some r

/-- The error of `(version)::int` for a ledger version: PostgreSQL reads ASCII decimal digits
into a 32-bit integer.  The blanks and the sign the cast also accepts, which the runner never
writes, count as unreadable here. -/
def castError (version : String) : Option DriverError :=
  if !isDigits version then some ⟨"invalid input syntax for type integer: \"" ++ version ++ "\""⟩
  else if 2 ^ 31 ≤ versionNumber version then
    some ⟨"value \"" ++ version ++ "\" is out of range for type integer"⟩
  else none

/-- `SELECT version, checksum FROM public.schema_migrations ORDER BY (version)::int DESC
LIMIT 1`: the cast is evaluated on every row, and the first row it cannot read fails the
statement. -/
def selectLast : Statement (Database σ) (Option (String × String)) := fun t ↦
  match t.ledger with
  | some rows =>
    match rows.findSome? fun row ↦ castError row.1 with
    | some e => .error e
    | none => .ok (lastRow rows, t)
  | none => .error undefinedLedger

/-- A script that leaves the ledger's rows as they are; it may create the table empty. -/
def KeepsLedger (exec : String → Statement (Database σ) Unit) (script : String) : Prop :=
  ∀ t u, exec script t = .ok ((), u) → ledgerRows u = ledgerRows t

end Statements

/-! ## The runner -/

/-- What the runner raises: a `MigrationError`, or the driver's error. -/
inductive RunnerError where
  | migration (e : MigrationError)
  | driver (e : DriverError)

section Runner

variable {σ : Type} (exec : String → Statement (Database σ) Unit) (sha256 : String → String)
  (directory : List (String × String))

/-- Raising a `MigrationError`. -/
def raise {α : Type} (e : MigrationError) : Sql (Database σ) RunnerError α := fun c ↦
  (.error (.migration e), c)

/-- `_schema_migrations_exists`. -/
def schemaMigrationsExists : Sql (Database σ) RunnerError Bool :=
  mapError .driver (transaction (execute selectLedgerExists))

/-- `_fetch_applied`: the ledger's rows as a dict from version to checksum, each row assigned in
the order of the query. -/
def fetchApplied : Sql (Database σ) RunnerError (List (String × String)) :=
  andThen schemaMigrationsExists fun present ↦
    if present then
      andThen (mapError .driver (transaction (execute selectApplied))) fun rows ↦ ret (setItems [] rows)
    else ret []

/-- Whether a migration lies past the target version, where the loop breaks. -/
def pastTarget (target : Option Int) (m : Migration) : Bool :=
  target.any fun v ↦ v < (versionNumber m.version : Int)

/-- The error of a migration whose recorded checksum differs from its own. -/
def checksumMismatch (m : Migration) : MigrationError :=
  .checksumMismatch ("Checksum mismatch for migration " ++ m.version ++ "_" ++ m.name)

/-- The `with connection.transaction()` block of `apply_migrations`: the up script, then the
ledger row. -/
def applyOne (m : Migration) : Sql (Database σ) RunnerError Unit :=
  mapError .driver (transaction
    (andThen (execute (exec m.upSql)) fun _ ↦ execute (insertApplied m.version m.checksum)))

/-- The loop of `apply_migrations` over the loaded migrations, with the dict `applied` read
before it: the migrations it executed, or would execute in a dry run. -/
def applyLoop (applied : List (String × String)) (target : Option Int) (dryRun : Bool) :
    List Migration → Sql (Database σ) RunnerError (List Migration)
  | [] => ret []
  | m :: rest =>
    if pastTarget target m then ret []
    else
      match applied.lookup m.version with
      | some checksum =>
        if checksum ≠ m.checksum then raise (checksumMismatch m)
        else applyLoop applied target dryRun rest
      | none =>
        andThen (if dryRun then ret () else applyOne exec m) fun _ ↦
          andThen (applyLoop applied target dryRun rest) fun executed ↦ ret (m :: executed)

/-- `apply_migrations` on a given connection, with the target version read by `int`. -/
def applyMigrations (target : Option Int) (dryRun : Bool) :
    Sql (Database σ) RunnerError (List Migration) :=
  match loadMigrations sha256 directory with
  | .error e => raise e
  | .ok migrations =>
    andThen fetchApplied fun applied ↦ applyLoop exec applied target dryRun migrations

/-- The `with connection.transaction()` block of `rollback_last`: the ledger row is deleted
first, then the down script runs. -/
def revertOne (m : Migration) (version : String) : Sql (Database σ) RunnerError Unit :=
  mapError .driver (transaction
    (andThen (execute (deleteApplied version)) fun _ ↦ execute (exec m.downSql)))

/-- What `rollback_last` does with the row it selected, from the loaded migrations by version. -/
def rollbackRow (byVersion : List (String × Migration)) (dryRun : Bool) (row : String × String) :
    Sql (Database σ) RunnerError (Option Migration) :=
  match byVersion.lookup row.1 with
  | none => raise (.notFound ("No migration files found for version " ++ row.1))
  | some m =>
    if m.checksum ≠ row.2 then
      raise (.checksumMismatch
        ("Checksum mismatch for migration " ++ row.1 ++ "_" ++ m.name ++ " during rollback"))
    else if dryRun then ret (some m)
    else andThen (revertOne exec m row.1) fun _ ↦ ret (some m)

/-- `rollback_last` on a given connection. -/
def rollbackLast (dryRun : Bool) : Sql (Database σ) RunnerError (Option Migration) :=
  match loadMigrations sha256 directory with
  | .error e => raise e
  | .ok migrations =>
    andThen schemaMigrationsExists fun present ↦
      if !present then ret none
      else
        andThen (mapError .driver (execute selectLast)) fun
          | none => ret none
          | some row => rollbackRow exec (setItems [] (migrations.map fun m ↦ (m.version, m))) dryRun row

end Runner

/-! ## What the loop decides -/

section Plan

variable {applied : List (String × String)} {target : Option Int} {ms : List Migration}

/-- The migrations the loop of `apply_migrations` runs, from the dict `applied` read before it,
and the checksum mismatch that stops it, if one does. -/
def plan (applied : List (String × String)) (target : Option Int) :
    List Migration → List Migration × Option MigrationError
  | [] => ([], none)
  | m :: rest =>
    if pastTarget target m then ([], none)
    else
      match applied.lookup m.version with
      | some checksum =>
        if checksum ≠ m.checksum then ([], some (checksumMismatch m)) else plan applied target rest
      | none => (m :: (plan applied target rest).1, (plan applied target rest).2)

/-- A migration the loop runs when it reaches it: within the target, and not in `applied`. -/
def pending (applied : List (String × String)) (target : Option Int) (m : Migration) : Bool :=
  !pastTarget target m && (applied.lookup m.version).isNone

/-- Sorted by version number: whatever follows a migration past the target is past it too. -/
theorem pastTarget_of_le {a b : Migration} (hab : versionNumber a.version ≤ versionNumber b.version)
    (ha : pastTarget target a) : pastTarget target b := by
  cases target <;> simp_all [pastTarget]
  omega

/-- On sorted migrations the `break` is a filter: the loop runs a prefix of the pending
migrations, and all of them when no mismatch stops it. -/
theorem plan_fst_append (hs : ms.Pairwise fun a b ↦ versionNumber a.version ≤ versionNumber b.version) :
    ∃ rest, ms.filter (pending applied target) = (plan applied target ms).1 ++ rest ∧
      ((plan applied target ms).2 = none → rest = []) := by
  induction ms with
  | nil => exact ⟨[], rfl, fun _ ↦ rfl⟩
  | cons m ms ih =>
    obtain ⟨hm, hs⟩ := List.pairwise_cons.1 hs
    obtain ⟨rest, hrest, hnone⟩ := ih hs
    by_cases hp : pastTarget target m
    · refine ⟨[], ?_, fun _ ↦ rfl⟩
      simp only [plan, hp, pending, List.filter_cons, if_true, Bool.not_true, Bool.false_and,
        Bool.false_eq_true, if_false, List.append_nil, List.filter_eq_nil_iff, Bool.and_eq_true,
        Bool.not_eq_true', not_and, Bool.not_eq_false]
      exact fun m' hm' hm'p ↦ absurd (pastTarget_of_le (hm m' hm') hp) (by simp [hm'p])
    · cases hl : applied.lookup m.version with
      | none =>
        exact ⟨rest, by simp [plan, hp, hl, pending, List.filter_cons, hrest],
          by simpa [plan, hp, hl] using hnone⟩
      | some checksum =>
        by_cases hc : checksum ≠ m.checksum
        · exact ⟨ms.filter (pending applied target), by simp [plan, hp, hl, hc, pending, List.filter_cons],
            by simp [plan, hp, hl, hc]⟩
        · exact ⟨rest, by simp [plan, hp, hl, hc, pending, List.filter_cons, hrest],
            by simpa [plan, hp, hl, hc] using hnone⟩

/-- When no mismatch stops the loop, every migration it reaches that `applied` records is
recorded with its own checksum. -/
theorem lookup_of_plan_snd (hs : ms.Pairwise fun a b ↦ versionNumber a.version ≤ versionNumber b.version)
    (h : (plan applied target ms).2 = none) {m : Migration} (hm : m ∈ ms)
    (hp : pastTarget target m = false) {checksum : String} (hl : applied.lookup m.version = some checksum) :
    checksum = m.checksum := by
  induction ms with
  | nil => cases hm
  | cons m' ms ih =>
    obtain ⟨hle, hs⟩ := List.pairwise_cons.1 hs
    by_cases hp' : pastTarget target m'
    · rcases List.mem_cons.1 hm with rfl | hm
      · simp [hp'] at hp
      · simp [pastTarget_of_le (hle m hm) hp'] at hp
    · cases hl' : applied.lookup m'.version with
      | none =>
        simp only [plan, hp', hl', if_false, Bool.false_eq_true] at h
        rcases List.mem_cons.1 hm with rfl | hm
        · simp [hl] at hl'
        · exact ih hs h hm
      | some checksum' =>
        by_cases hc : checksum' ≠ m'.checksum
        · simp [plan, hp', hl', hc] at h
        · simp only [plan, hp', hl', hc, if_false, Bool.false_eq_true] at h
          rcases List.mem_cons.1 hm with rfl | hm
          · rw [hl, Option.some.injEq] at hl'
            exact hl' ▸ not_not.1 hc
          · exact ih hs h hm

/-- The loop stops at no mismatch when `applied` records every migration it reaches, if at all,
with the migration's own checksum. -/
theorem plan_snd_eq_none
    (h : ∀ m ∈ ms, pastTarget target m = false → ∀ checksum,
      applied.lookup m.version = some checksum → checksum = m.checksum) :
    (plan applied target ms).2 = none := by
  induction ms with
  | nil => rfl
  | cons m ms ih =>
    have ih := ih fun m' hm' ↦ h m' (.tail _ hm')
    by_cases hp : pastTarget target m
    · simp [plan, hp]
    · cases hl : applied.lookup m.version with
      | none => simpa [plan, hp, hl] using ih
      | some checksum => simpa [plan, hp, hl, h m (.head _) (by simpa using hp) checksum hl] using ih

/-- The loop runs nothing when `applied` records every migration it reaches with its checksum. -/
theorem plan_eq_nil
    (h : ∀ m ∈ ms, pastTarget target m = false → applied.lookup m.version = some m.checksum) :
    plan applied target ms = ([], none) := by
  induction ms with
  | nil => rfl
  | cons m ms ih =>
    by_cases hp : pastTarget target m
    · simp [plan, hp]
    · simpa [plan, hp, h m (.head _) (by simpa using hp)] using ih fun m' hm' ↦ h m' (.tail _ hm')

/-- Of migrations with distinct versions, the one of a given version is the only one a filter
by that version keeps. -/
theorem filter_eq_singleton (hnodup : (ms.map Migration.version).Nodup) {m : Migration} (hm : m ∈ ms)
    {p : Migration → Bool} (hp : ∀ m' ∈ ms, p m' = true ↔ m'.version = m.version) : ms.filter p = [m] := by
  induction ms with
  | nil => cases hm
  | cons a ms ih =>
    obtain ⟨ha, hnodup⟩ := List.nodup_cons.1 hnodup
    have hother : ∀ m' ∈ ms, m'.version ≠ a.version := fun m' hm' h ↦ ha (h ▸ List.mem_map_of_mem _ hm')
    rcases List.mem_cons.1 hm with rfl | hm
    · rw [List.filter_cons_of_pos ((hp _ (.head _)).2 rfl),
        List.filter_eq_nil_iff.2 fun m' hm' h ↦ hother m' hm' ((hp m' (.tail _ hm')).1 h)]
    · have hpa : ¬p a = true := fun h ↦ hother m hm ((hp a (.head _)).1 h).symm
      rw [List.filter_cons_of_neg hpa, ih hnodup hm fun m' hm' ↦ hp m' (.tail _ hm')]

end Plan

/-! ## Sequencing and the ledger statements -/

section Steps

variable {σ : Type} {τ ε α β : Type}

theorem andThen_ret_fst (x : Sql τ ε α) (f : α → β) (c : Connection τ) :
    (andThen x (fun a ↦ ret (f a)) c).1 = (x c).1.map f := by
  rcases hx : x c with ⟨_ | a, c'⟩ <;> simp [andThen, ret, hx, Except.map]

theorem andThen_ret_snd (x : Sql τ ε α) (f : α → β) (c : Connection τ) :
    (andThen x (fun a ↦ ret (f a)) c).2 = (x c).2 := by
  rcases hx : x c with ⟨_ | a, c'⟩ <;> simp [andThen, ret, hx]

theorem keepsFailAt_ret (a : α) : KeepsFailAt (ret a : Sql τ ε α) := fun _ ↦ rfl

theorem keepsFailAt_raise (e : MigrationError) : KeepsFailAt (raise e : Sql (Database σ) RunnerError α) :=
  fun _ ↦ rfl

theorem insertApplied_rows {version checksum : String} {t u : Database σ}
    (h : insertApplied version checksum t = .ok ((), u)) :
    ledgerRows u = ledgerRows t ++ [(version, checksum)] := by
  unfold insertApplied at h
  split at h <;> cases h
  simp_all [ledgerRows]

theorem deleteApplied_rows {version : String} {t u : Database σ}
    (h : deleteApplied version t = .ok ((), u)) :
    ledgerRows u = (ledgerRows t).filter (·.1 != version) := by
  unfold deleteApplied at h
  split at h <;> cases h
  simp_all [ledgerRows]

theorem lastRow_cons_isSome (r : String × String) (rest : List (String × String)) :
    (lastRow (r :: rest)).isSome := by
  unfold lastRow
  split
  · split <;> rfl
  · rfl

/-- The row `selectLast` returns is a ledger row of the greatest version number. -/
theorem lastRow_spec {rows : List (String × String)} {row : String × String}
    (h : lastRow rows = some row) : row ∈ rows ∧ ∀ r ∈ rows, versionNumber r.1 ≤ versionNumber row.1 := by
  induction rows generalizing row with
  | nil => cases h
  | cons r rest ih =>
    unfold lastRow at h
    cases hb : lastRow rest with
    | none =>
      simp only [hb, Option.some.injEq] at h
      subst h
      cases rest with
      | nil => simp
      | cons r' rest => simpa [hb] using lastRow_cons_isSome r' rest
    | some best =>
      obtain ⟨hmem, hmax⟩ := ih hb
      simp only [hb] at h
      split at h <;> cases h
      · next hlt => exact ⟨.tail _ hmem, List.forall_mem_cons.2 ⟨hlt.le, hmax⟩⟩
      · next hge => exact ⟨.head _, List.forall_mem_cons.2 ⟨le_rfl, fun r' hr' ↦ (hmax r' hr').trans (by omega)⟩⟩

/-- When every version casts, `selectLast` returns the last row and changes nothing. -/
theorem selectLast_of_ok {t u : Database σ} {rows : List (String × String)} {r : Option (String × String)}
    (hl : t.ledger = some rows) (h : selectLast t = .ok (r, u)) : r = lastRow rows ∧ u = t := by
  cases hf : rows.findSome? fun row ↦ castError row.1 with
  | some e => simp [selectLast, hl, hf] at h
  | none =>
    simp only [selectLast, hl, hf, Except.ok.injEq, Prod.mk.injEq] at h
    exact ⟨h.1.symm, h.2.symm⟩

end Steps

/-! ## Runs of the loop -/

section Runs

variable {σ : Type} (exec : String → Statement (Database σ) Unit)

/-- The planned migrations run one after another, each by `applyOne`, then the mismatch raised if
the plan stops at one. -/
def runPlanned (stop : Option MigrationError) :
    List Migration → Sql (Database σ) RunnerError (List Migration)
  | [] =>
    match stop with
    | none => ret []
    | some e => raise e
  | m :: rest =>
    andThen (applyOne exec m) fun _ ↦
      andThen (runPlanned stop rest) fun executed ↦ ret (m :: executed)

/-- What a dry run returns for a plan. -/
def planResult (p : List Migration × Option MigrationError) : Except RunnerError (List Migration) :=
  match p.2 with
  | none => .ok p.1
  | some e => .error (.migration e)

/-- A real run of the loop executes the plan. -/
theorem applyLoop_eq_runPlanned (applied : List (String × String)) (target : Option Int)
    (ms : List Migration) :
    applyLoop exec applied target false ms =
      runPlanned exec (plan applied target ms).2 (plan applied target ms).1 := by
  induction ms with
  | nil => rfl
  | cons m ms ih =>
    by_cases hp : pastTarget target m
    · simp [applyLoop, plan, hp, runPlanned]
    · cases hl : applied.lookup m.version with
      | none => simp [applyLoop, plan, hp, hl, ih, runPlanned]
      | some checksum =>
        by_cases hc : checksum ≠ m.checksum <;> simp [applyLoop, plan, hp, hl, hc, ih, runPlanned]

/-- A dry run of the loop runs no statement and returns the plan. -/
theorem applyLoop_dryRun (applied : List (String × String)) (target : Option Int)
    (ms : List Migration) (c : Connection (Database σ)) :
    applyLoop exec applied target true ms c = (planResult (plan applied target ms), c) := by
  induction ms with
  | nil => rfl
  | cons m ms ih =>
    by_cases hp : pastTarget target m
    · simp [applyLoop, plan, hp, ret, planResult]
    · cases hl : applied.lookup m.version with
      | none =>
        simp only [applyLoop, plan, hp, hl, if_true, Bool.false_eq_true, if_false]
        rw [andThen_of_ok rfl, Prod.ext_iff, andThen_ret_fst, andThen_ret_snd]
        dsimp only [ret]
        rw [ih]
        obtain ⟨ps, _ | e⟩ := plan applied target ms <;> exact ⟨rfl, rfl⟩
      | some checksum =>
        by_cases hc : checksum ≠ m.checksum <;> simp [applyLoop, plan, hp, hl, hc, ih, raise, planResult]

/-- The one statement of `applyOne` that can fail is the script or the insert after it. -/
theorem applyOne_cases (m : Migration) (c : Connection (Database σ)) :
    (∃ e, (applyOne exec m c).1 = .error e ∧ ((applyOne exec m c).2.committed = c.committed ∨
      exec m.upSql c.committed = .ok ((), (applyOne exec m c).2.committed))) ∨
    (applyOne exec m c).1 = .ok () ∧ ∃ t, exec m.upSql c.committed = .ok ((), t) ∧
      insertApplied m.version m.checksum t = .ok ((), (applyOne exec m c).2.committed) := by
  unfold applyOne
  simp only [mapError_fst, mapError_snd, transaction_eq]
  rcases run_cases (exec m.upSql) c with ⟨e, h⟩ | ⟨r, t, hs, h⟩
  · rw [andThen_of_error (by rw [execute_eq, h])]
    exact .inl ⟨_, rfl, .inl (by rw [execute_eq, h])⟩
  · rw [andThen_of_ok (by rw [execute_eq, h]), execute_eq, execute_eq, h]
    rcases run_cases (insertApplied m.version m.checksum) { c with executed := c.executed + 1, committed := t }
      with ⟨e', h'⟩ | ⟨r', u, hs', h'⟩ <;> rw [h']
    · exact .inl ⟨_, rfl, .inr hs⟩
    · exact .inr ⟨rfl, t, hs, hs'⟩

/-- With a script that keeps the ledger, `applyOne` appends the migration's row, or raises and
leaves the rows as they were. -/
theorem applyOne_ledger {m : Migration} (hkeep : KeepsLedger exec m.upSql) (c : Connection (Database σ)) :
    (applyOne exec m c).1 = .ok () ∧
        ledgerRows (applyOne exec m c).2.committed = ledgerRows c.committed ++ [m.row] ∨
      (∃ e, (applyOne exec m c).1 = .error e) ∧
        ledgerRows (applyOne exec m c).2.committed = ledgerRows c.committed := by
  rcases applyOne_cases exec m c with ⟨e, he, hc | hs⟩ | ⟨hok, t, hs, hi⟩
  · exact .inr ⟨⟨e, he⟩, by rw [hc]⟩
  · exact .inr ⟨⟨e, he⟩, hkeep _ _ hs⟩
  · exact .inl ⟨hok, by rw [insertApplied_rows hi, hkeep _ _ hs]; rfl⟩

theorem keepsFailAt_applyOne (m : Migration) : KeepsFailAt (applyOne exec m) :=
  keepsFailAt_mapError (keepsFailAt_transaction
    (keepsFailAt_andThen (keepsFailAt_execute _) fun _ ↦ keepsFailAt_execute _))

theorem keepsFailAt_runPlanned (stop : Option MigrationError) (ps : List Migration) :
    KeepsFailAt (runPlanned exec stop ps) := by
  induction ps with
  | nil => cases stop <;> exact fun _ ↦ rfl
  | cons m ps ih =>
    exact keepsFailAt_andThen (keepsFailAt_applyOne exec m) fun _ ↦
      keepsFailAt_andThen ih fun _ ↦ keepsFailAt_ret _

/-- A run of the plan returns only when it ran every planned migration and no mismatch stopped
it; it returns them. -/
theorem runPlanned_ok {stop : Option MigrationError} {ps done : List Migration}
    {c : Connection (Database σ)} (h : (runPlanned exec stop ps c).1 = .ok done) :
    stop = none ∧ done = ps := by
  induction ps generalizing c done with
  | nil => cases stop <;> simp_all [runPlanned, ret, raise]
  | cons m ps ih =>
    unfold runPlanned at h
    cases ha : (applyOne exec m c).1 with
    | error e => rw [andThen_of_error ha] at h; cases h
    | ok u =>
      rw [andThen_of_ok ha, andThen_ret_fst] at h
      cases hr : (runPlanned exec stop ps (applyOne exec m c).2).1 with
      | error e => simp [hr, Except.map] at h
      | ok rest =>
        simp only [hr, Except.map, Except.ok.injEq] at h
        obtain ⟨hs, rfl⟩ := ih hr
        exact ⟨hs, h.symm⟩

/-- Whichever statement fails, a run of the plan appends the rows of a prefix of the planned
migrations to the ledger, and all of them when it returns. -/
theorem runPlanned_ledger {ps : List Migration} (hkeep : ∀ m ∈ ps, KeepsLedger exec m.upSql)
    (stop : Option MigrationError) (c : Connection (Database σ)) :
    ∃ k ≤ ps.length, ledgerRows (runPlanned exec stop ps c).2.committed =
        ledgerRows c.committed ++ (ps.take k).map Migration.row ∧
      ∀ done, (runPlanned exec stop ps c).1 = .ok done → k = ps.length := by
  induction ps generalizing c with
  | nil => exact ⟨0, le_rfl, by cases stop <;> simp [runPlanned, ret, raise]⟩
  | cons m ps ih =>
    rcases applyOne_ledger exec (hkeep m (.head _)) c with ⟨hok, hrows⟩ | ⟨⟨e, herr⟩, hrows⟩
    · obtain ⟨k, hk, hk', hlen⟩ := ih (fun m' h ↦ hkeep m' (.tail _ h)) (applyOne exec m c).2
      refine ⟨k + 1, by simpa using hk, ?_, fun done h ↦ ?_⟩
      · rw [runPlanned, andThen_of_ok hok, andThen_ret_snd, hk', hrows]
        simp
      · rw [runPlanned, andThen_of_ok hok, andThen_ret_fst] at h
        cases hr : (runPlanned exec stop ps (applyOne exec m c).2).1 with
        | error e => simp [hr, Except.map] at h
        | ok rest => simpa using hlen rest hr
    · refine ⟨0, Nat.zero_le _, ?_, fun done h ↦ ?_⟩
      · rw [runPlanned, andThen_of_error herr, hrows]
        simp
      · rw [runPlanned, andThen_of_error herr] at h
        cases h

end Runs

/-! ## Reading the ledger -/

section Fetch

variable {σ : Type}

/-- The dict `_fetch_applied` builds from a database's ledger. -/
def appliedOf (t : Database σ) : List (String × String) :=
  setItems [] ((ledgerRows t).mergeSort fun a b ↦ a.1 ≤ b.1)

/-- `_fetch_applied` returns the dict of the ledger, or raises when the environment makes one of
its statements fail. -/
theorem fetchApplied_fst (c : Connection (Database σ)) :
    (fetchApplied c).1 = .ok (appliedOf c.committed) ∨
      c.failAt.isSome ∧ ∃ e, (fetchApplied c).1 = .error e := by
  unfold fetchApplied schemaMigrationsExists
  by_cases h0 : c.failAt = some c.executed
  · simp [andThen, mapError, run, h0]
  · cases hl : c.committed.ledger with
    | none => simp [andThen, mapError, run, h0, selectLedgerExists, hl, ret, appliedOf, ledgerRows, setItems]
    | some rows =>
      by_cases h1 : c.failAt = some (c.executed + 1)
      · simp [andThen, mapError, run, h0, h1, selectLedgerExists, hl]
      · simp [andThen, mapError, run, h0, h1, selectLedgerExists, selectApplied, hl, ret, appliedOf,
          ledgerRows]

theorem fetchApplied_of_failAt_none {c : Connection (Database σ)} (hc : c.failAt = none) :
    (fetchApplied c).1 = .ok (appliedOf c.committed) :=
  (fetchApplied_fst c).resolve_right fun h ↦ by simp [hc] at h

theorem keeps_fetchApplied : Keeps id (fetchApplied : Sql (Database σ) RunnerError _) := by
  refine keeps_andThen (keeps_mapError (keeps_transaction (keeps_execute fun _ _ _ h ↦ by cases h; rfl)))
    fun present ↦ ?_
  cases present
  · exact keeps_ret _
  · refine keeps_andThen (keeps_mapError (keeps_transaction (keeps_execute fun t _ _ h ↦ ?_))) fun _ ↦
      keeps_ret _
    unfold selectApplied at h
    split at h <;> cases h
    rfl

theorem keepsFailAt_fetchApplied : KeepsFailAt (fetchApplied : Sql (Database σ) RunnerError _) := by
  refine keepsFailAt_andThen (keepsFailAt_mapError (keepsFailAt_transaction (keepsFailAt_execute _)))
    fun present ↦ ?_
  cases present
  · exact keepsFailAt_ret _
  · exact keepsFailAt_andThen (keepsFailAt_mapError (keepsFailAt_transaction (keepsFailAt_execute _)))
      fun _ ↦ keepsFailAt_ret _

/-- The dict misses exactly the versions the ledger does not record. -/
theorem lookup_appliedOf_eq_none (t : Database σ) (version : String) :
    (appliedOf t).lookup version = none ↔ (ledgerRows t).lookup version = none := by
  rw [appliedOf, lookup_setItems, List.lookup_nil, Option.or_none, lookup_eq_none, lookup_eq_none,
    List.map_reverse, List.mem_reverse, ((List.mergeSort_perm _ _).map _).mem_iff]

/-- Over a ledger of distinct versions the dict answers as the ledger. -/
theorem lookup_appliedOf {t : Database σ} (hd : ((ledgerRows t).map Prod.fst).Nodup) (version : String) :
    (appliedOf t).lookup version = (ledgerRows t).lookup version :=
  lookup_setItems_of_perm (List.mergeSort_perm _ _) hd version

theorem pending_appliedOf (t : Database σ) : pending (appliedOf t) = pending (ledgerRows t) := by
  funext target m
  have h := lookup_appliedOf_eq_none t m.version
  unfold pending
  cases h1 : (appliedOf t).lookup m.version <;> cases h2 : (ledgerRows t).lookup m.version <;> simp_all

end Fetch

/-! ## Runs of `apply_migrations` -/

section Apply

variable {σ : Type} (exec : String → Statement (Database σ) Unit) (sha256 : String → String)
  (directory : List (String × String)) {ms : List Migration}

theorem planResult_eq_ok {p : List Migration × Option MigrationError} {done : List Migration}
    (h : planResult p = .ok done) : p.2 = none ∧ done = p.1 := by
  obtain ⟨ps, _ | e⟩ := p <;> simp [planResult] at h ⊢
  exact h.symm

theorem keepsFailAt_applyMigrations (target : Option Int) (dryRun : Bool) :
    KeepsFailAt (applyMigrations exec sha256 directory target dryRun) := by
  unfold applyMigrations
  split
  · exact keepsFailAt_raise _
  · refine keepsFailAt_andThen keepsFailAt_fetchApplied fun applied ↦ ?_
    cases dryRun
    · rw [applyLoop_eq_runPlanned]
      exact keepsFailAt_runPlanned exec _ _
    · intro c
      rw [applyLoop_dryRun]

/-- When `apply_migrations` returns, it returns the pending migrations of the ledger it read, and
no migration it reached is recorded with another checksum. -/
theorem applyMigrations_ok (hload : loadMigrations sha256 directory = .ok ms) {target : Option Int}
    {dryRun : Bool} {c : Connection (Database σ)} {done : List Migration}
    (h : (applyMigrations exec sha256 directory target dryRun c).1 = .ok done) :
    done = ms.filter (pending (ledgerRows c.committed) target) ∧
      ∀ m ∈ ms, pastTarget target m = false → ∀ checksum,
        (appliedOf c.committed).lookup m.version = some checksum → checksum = m.checksum := by
  simp only [applyMigrations, hload] at h
  rcases fetchApplied_fst c with hok | ⟨-, e, herr⟩
  · rw [andThen_of_ok hok] at h
    have hplan : (plan (appliedOf c.committed) target ms).2 = none ∧
        done = (plan (appliedOf c.committed) target ms).1 := by
      cases dryRun
      · rw [applyLoop_eq_runPlanned] at h
        exact runPlanned_ok exec h
      · rw [applyLoop_dryRun] at h
        exact planResult_eq_ok h
    have hs := loadMigrations_sorted sha256 directory hload
    obtain ⟨rest, happ, hnone⟩ := @plan_fst_append (appliedOf c.committed) target ms hs
    refine ⟨?_, fun m hm hp checksum hl ↦ lookup_of_plan_snd hs hplan.1 hm hp hl⟩
    rw [hplan.2, ← pending_appliedOf, happ, hnone hplan.1, List.append_nil]
  · rw [andThen_of_error herr] at h
    cases h

/-- On a connection that fails no statement, with a ledger that records no loaded migration up to
the target under another checksum, a dry run reports exactly the pending migrations. -/
theorem applyMigrations_dryRun_pending (hload : loadMigrations sha256 directory = .ok ms)
    {target : Option Int} {c : Connection (Database σ)} (hc : c.failAt = none)
    (hnd : ((ledgerRows c.committed).map Prod.fst).Nodup)
    (hmatch : ∀ m ∈ ms, pastTarget target m = false → ∀ checksum,
      (ledgerRows c.committed).lookup m.version = some checksum → checksum = m.checksum) :
    (applyMigrations exec sha256 directory target true c).1 =
      .ok (ms.filter (pending (ledgerRows c.committed) target)) := by
  have hstop : (plan (appliedOf c.committed) target ms).2 = none :=
    plan_snd_eq_none fun m hm hp checksum h ↦ hmatch m hm hp checksum (by rwa [lookup_appliedOf hnd] at h)
  obtain ⟨rest, happ, hnone⟩ :=
    @plan_fst_append (appliedOf c.committed) target ms (loadMigrations_sorted sha256 directory hload)
  simp only [applyMigrations, hload]
  rw [andThen_of_ok (fetchApplied_of_failAt_none hc), applyLoop_dryRun, ← pending_appliedOf, happ,
    hnone hstop, List.append_nil]
  unfold planResult
  rw [hstop]

/-- Whichever statement fails, a real run appends to the ledger the rows of a prefix of the
pending migrations, and of all of them when it returns. -/
theorem applyMigrations_ledger_spec (hload : loadMigrations sha256 directory = .ok ms)
    (hkeep : ∀ m ∈ ms, KeepsLedger exec m.upSql) (target : Option Int) (c : Connection (Database σ)) :
    ∃ k ≤ (ms.filter (pending (ledgerRows c.committed) target)).length,
      ledgerRows (applyMigrations exec sha256 directory target false c).2.committed =
        ledgerRows c.committed ++ ((ms.filter (pending (ledgerRows c.committed) target)).take k).map Migration.row ∧
      ∀ done, (applyMigrations exec sha256 directory target false c).1 = .ok done →
        k = (ms.filter (pending (ledgerRows c.committed) target)).length := by
  simp only [applyMigrations, hload]
  have hfetch : (fetchApplied c).2.committed = c.committed := keeps_fetchApplied c
  rcases fetchApplied_fst c with hok | ⟨-, e, herr⟩
  · rw [andThen_of_ok hok, applyLoop_eq_runPlanned, ← pending_appliedOf]
    obtain ⟨rest, happ, hnone⟩ :=
      @plan_fst_append (appliedOf c.committed) target ms (loadMigrations_sorted sha256 directory hload)
    have hsub : ∀ m ∈ (plan (appliedOf c.committed) target ms).1, m ∈ ms := fun m hm ↦
      (List.mem_filter.1 (happ ▸ List.mem_append_left rest hm)).1
    obtain ⟨k, hk, hrows, hlen⟩ := runPlanned_ledger exec (fun m hm ↦ hkeep m (hsub m hm))
      (plan (appliedOf c.committed) target ms).2 (fetchApplied c).2
    refine ⟨k, by rw [happ, List.length_append]; omega, ?_, fun done h ↦ ?_⟩
    · rw [hrows, hfetch, happ, List.take_append_of_le_length hk]
    · obtain ⟨hstop, -⟩ := runPlanned_ok exec h
      rw [hlen done h, happ, hnone hstop, List.append_nil]
  · rw [andThen_of_error herr]
    exact ⟨0, Nat.zero_le _, by simp [hfetch], fun done h ↦ by cases h⟩

end Apply

/-! ## Runs of `rollback_last` -/

section Rollback

variable {σ : Type} (exec : String → Statement (Database σ) Unit) (sha256 : String → String)
  (directory : List (String × String)) {ms : List Migration}

theorem schemaMigrationsExists_eq (c : Connection (Database σ)) :
    schemaMigrationsExists c = (if c.failAt = some c.executed then .error (.driver injectedError)
      else .ok c.committed.ledger.isSome, { c with executed := c.executed + 1 }) := by
  unfold schemaMigrationsExists
  by_cases h : c.failAt = some c.executed <;> simp [mapError, run, h, selectLedgerExists]

/-- The loaded migration a version names in the dict of `rollback_last` has that version. -/
theorem lookup_byVersion {version : String} {m : Migration}
    (h : (setItems [] (ms.map fun m ↦ (m.version, m))).lookup version = some m) :
    m ∈ ms ∧ m.version = version := by
  rw [lookup_setItems, List.lookup_nil, Option.or_none] at h
  obtain ⟨m', hm', heq⟩ := List.mem_map.1 (List.mem_reverse.1 (mem_of_lookup_eq_some h))
  simp only [Prod.mk.injEq] at heq
  obtain ⟨rfl, rfl⟩ := heq
  exact ⟨hm', rfl⟩

/-- The block of `rollback_last` fails before the delete, after it, or deletes the row and runs
the down script. -/
theorem revertOne_cases (m : Migration) (version : String) (c : Connection (Database σ)) :
    ((revertOne exec m version c).2.committed = c.committed ∧ ∃ e, (revertOne exec m version c).1 = .error e) ∨
    ∃ t, deleteApplied version c.committed = .ok ((), t) ∧
      (((revertOne exec m version c).2.committed = t ∧ ∃ e, (revertOne exec m version c).1 = .error e) ∨
        exec m.downSql t = .ok ((), (revertOne exec m version c).2.committed) ∧
          (revertOne exec m version c).1 = .ok ()) := by
  unfold revertOne
  simp only [mapError_fst, mapError_snd, transaction_eq]
  rcases run_cases (deleteApplied version) c with ⟨e, h⟩ | ⟨r, t, hs, h⟩
  · rw [andThen_of_error (by rw [execute_eq, h])]
    exact .inl ⟨by rw [execute_eq, h], _, rfl⟩
  · rw [andThen_of_ok (by rw [execute_eq, h]), execute_eq, execute_eq, h]
    refine .inr ⟨t, hs, ?_⟩
    rcases run_cases (exec m.downSql) { c with executed := c.executed + 1, committed := t }
      with ⟨e', h'⟩ | ⟨r', u, hs', h'⟩ <;> rw [h']
    · exact .inl ⟨rfl, _, rfl⟩
    · exact .inr ⟨hs', rfl⟩

/-- `rollback_last` on the row it selected: it raises or returns leaving the database as it was
(a dry run returns the row's migration), or it deletes the row of a loaded migration with the
row's checksum, and runs that migration's down script before it returns. -/
theorem rollbackRow_spec (dryRun : Bool) (row : String × String) (c : Connection (Database σ)) :
    ((rollbackRow exec (setItems [] (ms.map fun m ↦ (m.version, m))) dryRun row c).2.committed = c.committed ∧
      ∀ m, (rollbackRow exec (setItems [] (ms.map fun m ↦ (m.version, m))) dryRun row c).1 = .ok (some m) →
        dryRun = true ∧ m ∈ ms ∧ m.row = row) ∨
    dryRun = false ∧ ∃ m t, m ∈ ms ∧ m.row = row ∧ deleteApplied m.version c.committed = .ok ((), t) ∧
      (((rollbackRow exec (setItems [] (ms.map fun m ↦ (m.version, m))) dryRun row c).2.committed = t ∧
          ∃ e, (rollbackRow exec (setItems [] (ms.map fun m ↦ (m.version, m))) dryRun row c).1 = .error e) ∨
        exec m.downSql t = .ok ((), (rollbackRow exec (setItems [] (ms.map fun m ↦ (m.version, m))) dryRun row c).2.committed) ∧
          (rollbackRow exec (setItems [] (ms.map fun m ↦ (m.version, m))) dryRun row c).1 = .ok (some m)) := by
  unfold rollbackRow
  cases hl : (setItems [] (ms.map fun m ↦ (m.version, m))).lookup row.1 with
  | none => exact .inl ⟨rfl, fun m h ↦ by cases h⟩
  | some m =>
    obtain ⟨hm, hv⟩ := lookup_byVersion hl
    dsimp only
    by_cases hc : m.checksum ≠ row.2
    · rw [if_pos hc]
      exact .inl ⟨rfl, fun m h ↦ by cases h⟩
    · have hrow : m.row = row := Prod.ext hv (not_not.1 hc)
      rw [if_neg hc]
      cases dryRun
      · rw [if_neg Bool.false_ne_true, andThen_ret_fst, andThen_ret_snd]
        rcases revertOne_cases exec m row.1 c with ⟨hc', e, he⟩ | ⟨t, ht, ⟨hc', e, he⟩ | ⟨hd, hok⟩⟩
        · exact .inl ⟨hc', fun m' h ↦ by simp [he, Except.map] at h⟩
        · exact .inr ⟨rfl, m, t, hm, hrow, hv ▸ ht, .inl ⟨hc', e, by rw [he]; rfl⟩⟩
        · exact .inr ⟨rfl, m, t, hm, hrow, hv ▸ ht, .inr ⟨hd, by rw [hok]; rfl⟩⟩
      · rw [if_pos rfl]
        refine .inl ⟨rfl, fun m' h ↦ ?_⟩
        simp only [ret, Except.ok.injEq, Option.some.injEq] at h
        exact ⟨rfl, h ▸ hm, h ▸ hrow⟩

/-- `rollback_last`: it raises or returns leaving the database as it was (a dry run returns the
migration of the ledger's last row), or it deletes the ledger's last row, which records a loaded
migration with its checksum, and runs that migration's down script before it returns. -/
theorem rollbackLast_spec (hload : loadMigrations sha256 directory = .ok ms) (dryRun : Bool)
    (c : Connection (Database σ)) :
    ((rollbackLast exec sha256 directory dryRun c).2.committed = c.committed ∧
      ∀ m, (rollbackLast exec sha256 directory dryRun c).1 = .ok (some m) →
        dryRun = true ∧ m ∈ ms ∧ lastRow (ledgerRows c.committed) = some m.row) ∨
    dryRun = false ∧ ∃ m t, m ∈ ms ∧ lastRow (ledgerRows c.committed) = some m.row ∧
      deleteApplied m.version c.committed = .ok ((), t) ∧
      (((rollbackLast exec sha256 directory dryRun c).2.committed = t ∧
          ∃ e, (rollbackLast exec sha256 directory dryRun c).1 = .error e) ∨
        exec m.downSql t = .ok ((), (rollbackLast exec sha256 directory dryRun c).2.committed) ∧
          (rollbackLast exec sha256 directory dryRun c).1 = .ok (some m)) := by
  simp only [rollbackLast, hload]
  by_cases h0 : c.failAt = some c.executed
  · rw [andThen_of_error (by rw [schemaMigrationsExists_eq, if_pos h0])]
    exact .inl ⟨by rw [schemaMigrationsExists_eq], fun m h ↦ by cases h⟩
  · rw [andThen_of_ok (by rw [schemaMigrationsExists_eq, if_neg h0])]
    simp only [schemaMigrationsExists_eq, if_neg h0]
    cases hl : c.committed.ledger with
    | none => exact .inl ⟨rfl, fun m h ↦ by cases h⟩
    | some rows =>
      have hrows : ledgerRows c.committed = rows := by simp [ledgerRows, hl]
      rw [Option.isSome_some, Bool.not_true, if_neg Bool.false_ne_true]
      rcases run_cases selectLast { c with executed := c.executed + 1 } with ⟨e, h⟩ | ⟨r, t, hs, h⟩
      · rw [andThen_of_error (e := .driver e) (by simp [h, Except.mapError])]
        exact .inl ⟨by simp [h], fun m h' ↦ by cases h'⟩
      · obtain ⟨rfl, rfl⟩ := selectLast_of_ok hl hs
        rw [andThen_of_ok (a := lastRow rows) (by simp [h, Except.mapError]), mapError_snd, execute_eq, h]
        cases hr : lastRow rows with
        | none => exact .inl ⟨rfl, fun m h' ↦ by cases h'⟩
        | some row =>
          rcases rollbackRow_spec exec dryRun row
              { c with executed := c.executed + 1 + 1, committed := c.committed } with
            ⟨hc, hret⟩ | ⟨hd, m, t, hm, hrow, ht, hout⟩
          · exact .inl ⟨hc, fun m h' ↦ (hret m h').imp_right fun ⟨hm, hrow⟩ ↦ ⟨hm, by rw [hrows, hr, hrow]⟩⟩
          · exact .inr ⟨hd, m, t, hm, by rw [hrows, hr, hrow], ht, hout⟩

theorem keepsFailAt_revertOne (m : Migration) (version : String) :
    KeepsFailAt (revertOne exec m version) :=
  keepsFailAt_mapError (keepsFailAt_transaction
    (keepsFailAt_andThen (keepsFailAt_execute _) fun _ ↦ keepsFailAt_execute _))

theorem keepsFailAt_rollbackRow (byVersion : List (String × Migration)) (dryRun : Bool)
    (row : String × String) : KeepsFailAt (rollbackRow exec byVersion dryRun row) := by
  unfold rollbackRow
  split
  · exact keepsFailAt_raise _
  · split_ifs
    · exact keepsFailAt_raise _
    · exact keepsFailAt_ret _
    · exact keepsFailAt_andThen (keepsFailAt_revertOne exec _ _) fun _ ↦ keepsFailAt_ret _

theorem keepsFailAt_rollbackLast (dryRun : Bool) :
    KeepsFailAt (rollbackLast exec sha256 directory dryRun) := by
  unfold rollbackLast
  split
  · exact keepsFailAt_raise _
  · refine keepsFailAt_andThen (keepsFailAt_mapError (keepsFailAt_transaction (keepsFailAt_execute _)))
      fun present ↦ ?_
    cases present
    · exact keepsFailAt_ret _
    · refine keepsFailAt_andThen (keepsFailAt_mapError (keepsFailAt_execute _)) fun row ↦ ?_
      rcases row with _ | row
      · exact keepsFailAt_ret _
      · exact keepsFailAt_rollbackRow exec _ dryRun row

end Rollback

/-! ## A package of one migration

Scripts that create the ledger when it is missing and do nothing else, and a package whose one
migration is `001_init`, run against an empty database.
-/

/-- Every script creates the ledger when it is missing, and changes nothing else. -/
def createsLedger : String → Statement (Database Unit) Unit := fun _ t ↦
  .ok ((), { t with ledger := some (ledgerRows t) })

theorem keepsLedger_createsLedger (script : String) : KeepsLedger createsLedger script := by
  intro t u h
  cases h
  rfl

/-- A package with the up and down scripts of `001_init`. -/
def initPackage : List (String × String) :=
  [("001_init.up.sql", "CREATE TABLE t ()"), ("001_init.down.sql", "DROP TABLE t")]

/-- The migration `load_migrations` reads from `initPackage`, with the identity as checksum. -/
def initMigration : Migration := ⟨"001", "init", "CREATE TABLE t ()", "DROP TABLE t", "CREATE TABLE t ()"⟩

/-- A database without the ledger, on a connection where no statement fails. -/
def emptyDatabase : Connection (Database Unit) := ⟨⟨(), none⟩, 0, none⟩

theorem loadMigrations_initPackage : loadMigrations id initPackage = .ok [initMigration] := by
  with_unfolding_all rfl

/-- The connection after a real run of `apply_migrations` on the empty database. -/
def initApplied : Connection (Database Unit) :=
  (applyMigrations createsLedger id initPackage none false emptyDatabase).2

theorem applyMigrations_initPackage :
    (applyMigrations createsLedger id initPackage none false emptyDatabase).1 = .ok [initMigration] := by
  with_unfolding_all rfl

/-! ## Properties of whole runs -/

section Properties

variable {σ : Type} (exec : String → Statement (Database σ) Unit) (sha256 : String → String)
  (directory : List (String × String)) {ms : List Migration}

/-- After a real run returns, the ledger's versions are distinct and it records every loaded
migration up to the target with its own checksum. -/
theorem applyMigrations_records (hload : loadMigrations sha256 directory = .ok ms)
    (hnodup : (ms.map Migration.version).Nodup) (hkeep : ∀ m ∈ ms, KeepsLedger exec m.upSql)
    {c : Connection (Database σ)} (hledger : ((ledgerRows c.committed).map Prod.fst).Nodup)
    {target : Option Int} {done : List Migration}
    (h : (applyMigrations exec sha256 directory target false c).1 = .ok done) :
    ((ledgerRows (applyMigrations exec sha256 directory target false c).2.committed).map Prod.fst).Nodup ∧
      ∀ m ∈ ms, pastTarget target m = false →
        (ledgerRows (applyMigrations exec sha256 directory target false c).2.committed).lookup m.version =
          some m.checksum := by
  obtain ⟨hdone, hcons⟩ := applyMigrations_ok exec sha256 directory hload h
  obtain ⟨k, -, hrows, hlen⟩ := applyMigrations_ledger_spec exec sha256 directory hload hkeep target c
  rw [hlen done h, List.take_length, ← hdone] at hrows
  have hfresh : ∀ m ∈ done, (ledgerRows c.committed).lookup m.version = none := fun m hm ↦ by
    rw [hdone, List.mem_filter] at hm
    simp only [pending, Bool.and_eq_true, Option.isNone_iff_eq_none] at hm
    exact hm.2.2
  have hkeys : (done.map Migration.row).map Prod.fst = done.map Migration.version := by
    simp [Migration.row, Function.comp_def]
  have hdnodup : ((done.map Migration.row).map Prod.fst).Nodup := by
    rw [hkeys, hdone]
    exact hnodup.sublist ((List.filter_sublist ms).map _)
  refine ⟨?_, fun m hm hp ↦ ?_⟩
  · rw [hrows, List.map_append, List.nodup_append]
    refine ⟨hledger, hdnodup, fun v hv hv' ↦ ?_⟩
    rw [hkeys] at hv'
    obtain ⟨m, hm, rfl⟩ := List.mem_map.1 hv'
    exact lookup_eq_none.1 (hfresh m hm) hv
  · rw [hrows, lookup_append]
    cases hl : (ledgerRows c.committed).lookup m.version with
    | some checksum =>
      rw [hcons m hm hp checksum (by rw [lookup_appliedOf hledger]; exact hl)]
      rfl
    | none =>
      have hmd : m ∈ done := by
        rw [hdone, List.mem_filter]
        simp [pending, hm, hp, hl]
      exact lookup_eq_some_of_mem hdnodup (List.mem_map.2 ⟨m, hmd, rfl⟩)

/-- Whichever statement fails, `apply_migrations` appends to the ledger the rows of a prefix of
the loaded migrations up to the target that the ledger does not record, in version order; when
it returns, it returns all of those and has appended all their rows. -/
theorem applyMigrations_appends_pending (hload : loadMigrations sha256 directory = .ok ms)
    (hkeep : ∀ m ∈ ms, KeepsLedger exec m.upSql) (target : Option Int) (c : Connection (Database σ)) :
    ∃ k, ledgerRows (applyMigrations exec sha256 directory target false c).2.committed =
        ledgerRows c.committed ++ ((ms.filter (pending (ledgerRows c.committed) target)).take k).map Migration.row ∧
      ∀ done, (applyMigrations exec sha256 directory target false c).1 = .ok done →
        done = ms.filter (pending (ledgerRows c.committed) target) ∧
        ledgerRows (applyMigrations exec sha256 directory target false c).2.committed =
          ledgerRows c.committed ++ done.map Migration.row := by
  obtain ⟨k, -, hrows, hlen⟩ := applyMigrations_ledger_spec exec sha256 directory hload hkeep target c
  refine ⟨k, hrows, fun done h ↦ ?_⟩
  obtain ⟨hdone, -⟩ := applyMigrations_ok exec sha256 directory hload h
  refine ⟨hdone, ?_⟩
  rw [hrows, hlen done h, List.take_length, ← hdone]

theorem applyMigrations_appends_pending_init :
    loadMigrations id initPackage = .ok [initMigration] ∧
      ∃ k, ledgerRows initApplied.committed = ledgerRows emptyDatabase.committed ++
        (([initMigration].filter (pending (ledgerRows emptyDatabase.committed) none)).take k).map
          Migration.row :=
  ⟨loadMigrations_initPackage,
    (applyMigrations_appends_pending createsLedger id initPackage loadMigrations_initPackage
      (fun m _ ↦ keepsLedger_createsLedger m.upSql) none emptyDatabase).imp fun _ h ↦ h.1⟩

/-- A dry run changes nothing in the database, and whenever the real run on the same connection
returns, the dry run returns the same migrations. -/
theorem applyMigrations_dryRun_agrees (target : Option Int) (c : Connection (Database σ)) :
    (applyMigrations exec sha256 directory target true c).2.committed = c.committed ∧
      ∀ done, (applyMigrations exec sha256 directory target false c).1 = .ok done →
        (applyMigrations exec sha256 directory target true c).1 = .ok done := by
  cases hload : loadMigrations sha256 directory with
  | error e => simp [applyMigrations, hload, raise]
  | ok ms =>
    simp only [applyMigrations, hload]
    rcases fetchApplied_fst c with hok | ⟨-, e, herr⟩
    · rw [andThen_of_ok hok, andThen_of_ok hok, applyLoop_dryRun, applyLoop_eq_runPlanned]
      refine ⟨keeps_fetchApplied c, fun done h ↦ ?_⟩
      obtain ⟨hstop, rfl⟩ := runPlanned_ok exec h
      simp [planResult, hstop]
    · rw [andThen_of_error herr, andThen_of_error herr]
      exact ⟨keeps_fetchApplied c, fun done h ↦ by cases h⟩

/-- A real run that returns records every loaded migration up to the target with its checksum,
and a second run then executes nothing and leaves the database as it is. -/
theorem applyMigrations_idempotent (hload : loadMigrations sha256 directory = .ok ms)
    (hnodup : (ms.map Migration.version).Nodup) (hkeep : ∀ m ∈ ms, KeepsLedger exec m.upSql)
    {c : Connection (Database σ)} (hledger : ((ledgerRows c.committed).map Prod.fst).Nodup)
    (hc : c.failAt = none) {target : Option Int} {done : List Migration}
    (h : (applyMigrations exec sha256 directory target false c).1 = .ok done) :
    let c' := (applyMigrations exec sha256 directory target false c).2
    (∀ m ∈ ms, pastTarget target m = false → (ledgerRows c'.committed).lookup m.version = some m.checksum) ∧
      (applyMigrations exec sha256 directory target false c').1 = .ok [] ∧
      (applyMigrations exec sha256 directory target false c').2.committed = c'.committed := by
  intro c'
  obtain ⟨hnd, hrec⟩ := applyMigrations_records exec sha256 directory hload hnodup hkeep hledger h
  have hc' : c'.failAt = none := (keepsFailAt_applyMigrations exec sha256 directory target false c).trans hc
  refine ⟨hrec, ?_⟩
  simp only [applyMigrations, hload]
  rw [andThen_of_ok (fetchApplied_of_failAt_none hc'), applyLoop_eq_runPlanned,
    plan_eq_nil fun m hm hp ↦ by rw [lookup_appliedOf hnd]; exact hrec m hm hp]
  exact ⟨rfl, keeps_fetchApplied c'⟩

theorem applyMigrations_idempotent_init :
    (applyMigrations createsLedger id initPackage none false emptyDatabase).1 = .ok [initMigration] ∧
      (applyMigrations createsLedger id initPackage none false initApplied).1 = .ok [] :=
  ⟨applyMigrations_initPackage,
    (applyMigrations_idempotent createsLedger id initPackage loadMigrations_initPackage (by decide)
      (fun m _ ↦ keepsLedger_createsLedger m.upSql) (by decide) rfl applyMigrations_initPackage).2.1⟩

/-- `rollback_last` changes the database only by deleting the ledger's row of greatest version,
which records a loaded migration with its checksum, and then by running that migration's down
script; the migration it returns is that one, and a dry run changes nothing. -/
theorem rollbackLast_effect (hload : loadMigrations sha256 directory = .ok ms) (dryRun : Bool)
    (c : Connection (Database σ)) :
    let r := rollbackLast exec sha256 directory dryRun c
    (∀ m, r.1 = .ok (some m) → m ∈ ms ∧ m.row ∈ ledgerRows c.committed ∧
        ∀ row ∈ ledgerRows c.committed, versionNumber row.1 ≤ versionNumber m.version) ∧
      (r.2.committed = c.committed ∨
        dryRun = false ∧ ∃ m ∈ ms, m.row ∈ ledgerRows c.committed ∧
          (∀ row ∈ ledgerRows c.committed, versionNumber row.1 ≤ versionNumber m.version) ∧
          ∃ t, deleteApplied m.version c.committed = .ok ((), t) ∧
            (r.2.committed = t ∨ exec m.downSql t = .ok ((), r.2.committed))) := by
  intro r
  rcases rollbackLast_spec exec sha256 directory hload dryRun c with ⟨hc, hret⟩ | ⟨hd, m, t, hm, hlast, ht, hout⟩
  · exact ⟨fun m h ↦ ⟨(hret m h).2.1, lastRow_spec (hret m h).2.2⟩, .inl hc⟩
  · obtain ⟨hmem, hmax⟩ := lastRow_spec hlast
    refine ⟨fun m' h ↦ ?_, .inr ⟨hd, m, hm, hmem, hmax, t, ht, hout.imp And.left And.left⟩⟩
    rcases hout with ⟨-, e, he⟩ | ⟨-, hok⟩
    · exact absurd (he.symm.trans h) (by simp)
    · obtain rfl : m = m' := by simpa using hok.symm.trans h
      exact ⟨hm, hmem, hmax⟩

theorem rollbackLast_effect_init :
    loadMigrations id initPackage = .ok [initMigration] ∧
      ∀ m, (rollbackLast createsLedger id initPackage false initApplied).1 = .ok (some m) →
        m ∈ [initMigration] ∧ m.row ∈ ledgerRows initApplied.committed ∧
          ∀ row ∈ ledgerRows initApplied.committed, versionNumber row.1 ≤ versionNumber m.version :=
  ⟨loadMigrations_initPackage,
    (rollbackLast_effect createsLedger id initPackage loadMigrations_initPackage false initApplied).1⟩

/-- After a complete real run, a rollback that returns a migration whose down script leaves the
ledger's rows alone has rolled back the loaded migration of greatest version and deleted its row
alone, and a dry run then reports that migration alone as pending. -/
theorem rollbackLast_after_apply (hload : loadMigrations sha256 directory = .ok ms)
    (hnodup : (ms.map Migration.version).Nodup) (hup : ∀ m ∈ ms, KeepsLedger exec m.upSql)
    {c : Connection (Database σ)} (hledger : ((ledgerRows c.committed).map Prod.fst).Nodup)
    (hc : c.failAt = none) {done : List Migration} {m : Migration} (hdown : KeepsLedger exec m.downSql)
    (happly : (applyMigrations exec sha256 directory none false c).1 = .ok done)
    (hroll : (rollbackLast exec sha256 directory false
      (applyMigrations exec sha256 directory none false c).2).1 = .ok (some m)) :
    let c' := (applyMigrations exec sha256 directory none false c).2
    let c'' := (rollbackLast exec sha256 directory false c').2
    m ∈ ms ∧ (∀ m' ∈ ms, versionNumber m'.version ≤ versionNumber m.version) ∧
      ledgerRows c''.committed = (ledgerRows c'.committed).filter (·.1 != m.version) ∧
      (applyMigrations exec sha256 directory none true c'').1 = .ok [m] := by
  intro c' c''
  obtain ⟨hnd, hrec⟩ := applyMigrations_records exec sha256 directory hload hnodup hup hledger happly
  rcases rollbackLast_spec exec sha256 directory hload false c' with ⟨-, hret⟩ | ⟨-, m0, t, hm0, hlast, ht, hout⟩
  · exact absurd (hret m hroll).1 Bool.false_ne_true
  rcases hout with ⟨-, e, he⟩ | ⟨hd, hok⟩
  · exact absurd (he.symm.trans hroll) (by simp)
  obtain rfl : m0 = m := by simpa using hok.symm.trans hroll
  have hmax := (lastRow_spec hlast).2
  have hrows : ledgerRows c''.committed = (ledgerRows c'.committed).filter (·.1 != m0.version) := by
    rw [← deleteApplied_rows ht]
    exact hdown _ _ hd
  refine ⟨hm0, fun m' hm' ↦ hmax _ (mem_of_lookup_eq_some (hrec m' hm' rfl)), hrows, ?_⟩
  have hc'' : c''.failAt = none := (keepsFailAt_rollbackLast exec sha256 directory false c').trans
    ((keepsFailAt_applyMigrations exec sha256 directory none false c).trans hc)
  have hnd'' : ((ledgerRows c''.committed).map Prod.fst).Nodup := by
    rw [hrows]
    exact hnd.sublist ((List.filter_sublist _).map _)
  have hl : ∀ m' ∈ ms, (ledgerRows c''.committed).lookup m'.version =
      if m'.version = m0.version then none else some m'.checksum := fun m' hm' ↦ by
    rw [hrows, lookup_filter_key, hrec m' hm' rfl]
  rw [applyMigrations_dryRun_pending exec sha256 directory hload hc'' hnd'' fun m' hm' _ checksum h ↦ by
    rw [hl m' hm'] at h
    split_ifs at h
    exact (Option.some.inj h).symm]
  refine congrArg _ (filter_eq_singleton hnodup hm0 fun m' hm' ↦ ?_)
  simp only [pending, hl m' hm']
  split_ifs with hv <;> simp [pastTarget, hv]

theorem rollbackLast_after_apply_init :
    (applyMigrations createsLedger id initPackage none false emptyDatabase).1 = .ok [initMigration] ∧
      (rollbackLast createsLedger id initPackage false initApplied).1 = .ok (some initMigration) ∧
      (applyMigrations createsLedger id initPackage none true
        (rollbackLast createsLedger id initPackage false initApplied).2).1 = .ok [initMigration] :=
  have hroll : (rollbackLast createsLedger id initPackage false initApplied).1 = .ok (some initMigration) := by
    with_unfolding_all rfl
  ⟨applyMigrations_initPackage, hroll,
    (rollbackLast_after_apply createsLedger id initPackage loadMigrations_initPackage (by decide)
      (fun m _ ↦ keepsLedger_createsLedger m.upSql) (by decide) rfl (keepsLedger_createsLedger _)
      applyMigrations_initPackage hroll).2.2.2⟩

end Properties

end UnsMetadataSync.Db.Migrations
