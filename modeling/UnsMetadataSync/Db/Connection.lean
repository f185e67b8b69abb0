import Mathlib.Data.List.Basic

/-!
# Database connections

`db/__init__.py` wraps a psycopg2 connection.  Its constructor turns `autocommit` on, and nothing
in the service turns it off.  The server then runs every statement in a transaction of its own
and commits it when the statement completes, and psycopg2's `commit()` and `rollback()` find no
open transaction to act on.  `_Transaction`, the context manager `transaction()` returns, calls
one of the two on exit; under autocommit the block it opens groups nothing.

The database is its committed contents, of any type `τ` of tables.  A statement is a function of
the tables that returns rows and new tables, or fails and leaves them as they were.  The
environment can make any one statement fail with a driver error, named by its index in the order
the connection runs statements.  Code that runs statements returns its result together with the
connection, as a raised exception leaves behind what the statements before it committed.
-/

namespace UnsMetadataSync.Db

/-- `psycopg2.Error`, with its message. -/
structure DriverError where
  message : String

/-- A statement over tables `τ` that returns `ρ`. -/
abbrev Statement (τ ρ : Type) := τ → Except DriverError (ρ × τ)

/-- A connection with autocommit on: the committed tables, the number of statements run so far,
and the index of the statement the environment makes fail, if any. -/
structure Connection (τ : Type) where
  committed : τ
  executed : Nat
  failAt : Option Nat

/-- Code that runs statements on a connection and returns `α` or raises `ε`. -/
abbrev Sql (τ ε α : Type) := Connection τ → Except ε α × Connection τ

namespace Connection

variable {τ ρ ε α β : Type}

/-- The driver error the environment injects. -/
def injectedError : DriverError := ⟨"injected driver error"⟩

/-- One statement through a cursor: it commits when it completes. -/
def run (stmt : Statement τ ρ) : Sql τ DriverError ρ := fun c ↦
  let c' := { c with executed := c.executed + 1 }
  if c.failAt = some c.executed then (.error injectedError, c')
  else match stmt c.committed with
    | .ok (rows, tables) => (.ok rows, { c' with committed := tables })
    | .error e => (.error e, c')

/-- `commit()` with autocommit on: no transaction is open. -/
def commit (c : Connection τ) : Connection τ := c

/-- `rollback()` with autocommit on: no transaction is open. -/
def rollback (c : Connection τ) : Connection τ := c

/-- `Connection.execute`: commit, run the statement, and commit again (the code does so when
the statement returns no rows; both commits find nothing to commit). -/
def execute (stmt : Statement τ ρ) : Sql τ DriverError ρ := fun c ↦
  match run stmt c.commit with
  | (.ok rows, c) => (.ok rows, c.commit)
  | (.error e, c) => (.error e, c)

/-- `with conn.transaction(): body`: `_Transaction.__exit__` commits after a normal exit and
rolls back after a raise, then lets the exception through. -/
def transaction (body : Sql τ ε α) : Sql τ ε α := fun c ↦
  match body c with
  | (.ok a, c) => (.ok a, c.commit)
  | (.error e, c) => (.error e, c.rollback)

/-- The sequencing of two pieces of code: the second runs only if the first returned. -/
def andThen (x : Sql τ ε α) (k : α → Sql τ ε β) : Sql τ ε β := fun c ↦
  match x c with
  | (.ok a, c) => k a c
  | (.error e, c) => (.error e, c)

/-- A raised error translated into another: the code's `except Error as exc: raise ...`. -/
def mapError (f : ε → ε') (x : Sql τ ε α) : Sql τ ε' α := fun c ↦
  match x c with
  | (.ok a, c) => (.ok a, c)
  | (.error e, c) => (.error (f e), c)

/-- Under autocommit a transaction block is its body. -/
@[simp] theorem transaction_eq (body : Sql τ ε α) (c : Connection τ) : transaction body c = body c := by
  unfold transaction commit rollback
  split <;> next h => exact h.symm

@[simp] theorem execute_eq (stmt : Statement τ ρ) (c : Connection τ) : execute stmt c = run stmt c := by
  unfold execute commit
  split <;> next h => exact h.symm

/-- The result of translated code is the translated result. -/
@[simp] theorem mapError_fst (f : ε → ε') (x : Sql τ ε α) (c : Connection τ) :
    (mapError f x c).1 = (x c).1.mapError f := by
  unfold mapError
  split <;> next h => simp [h, Except.mapError]

/-- Translating the error leaves the connection as the code left it. -/
@[simp] theorem mapError_snd (f : ε → ε') (x : Sql τ ε α) (c : Connection τ) :
    (mapError f x c).2 = (x c).2 := by
  unfold mapError
  split <;> next h => simp [h]

/-! ## What one statement does -/

/-- A statement either raises, leaving the committed tables as they were, or commits the tables
it returns. -/
theorem run_cases (stmt : Statement τ ρ) (c : Connection τ) :
    (∃ e, run stmt c = (.error e, { c with executed := c.executed + 1 })) ∨
      ∃ r t, stmt c.committed = .ok (r, t) ∧
        run stmt c = (.ok r, { c with executed := c.executed + 1, committed := t }) := by
  unfold run
  split_ifs
  · exact .inl ⟨_, rfl⟩
  · split
    · next r t h => exact .inr ⟨r, t, h, rfl⟩
    · exact .inl ⟨_, rfl⟩

theorem andThen_of_ok {x : Sql τ ε α} {k : α → Sql τ ε β} {c : Connection τ} {a : α}
    (h : (x c).1 = .ok a) : andThen x k c = k a (x c).2 := by
  unfold andThen
  rcases hx : x c with ⟨_ | a', c'⟩ <;> simp_all

theorem andThen_of_error {x : Sql τ ε α} {k : α → Sql τ ε β} {c : Connection τ} {e : ε}
    (h : (x c).1 = .error e) : andThen x k c = (.error e, (x c).2) := by
  unfold andThen
  rcases hx : x c with ⟨_ | a', c'⟩ <;> simp_all

/-! ## Code that leaves part of the tables alone -/

/-- `x` leaves `f` of the committed tables as it is, whether it returns or raises. -/
def Keeps (f : τ → β) (x : Sql τ ε α) : Prop := ∀ c, f (x c).2.committed = f c.committed

theorem keeps_run {f : τ → β} {stmt : Statement τ ρ}
    (h : ∀ t rows t', stmt t = .ok (rows, t') → f t' = f t) : Keeps f (run stmt) := by
  intro c
  unfold run
  split_ifs
  · rfl
  · split
    · next hstmt => exact h _ _ _ hstmt
    · rfl

theorem keeps_execute {f : τ → β} {stmt : Statement τ ρ}
    (h : ∀ t rows t', stmt t = .ok (rows, t') → f t' = f t) : Keeps f (execute stmt) := by
  intro c
  rw [execute_eq]
  exact keeps_run h c

theorem keeps_transaction {f : τ → β} {body : Sql τ ε α} (h : Keeps f body) :
    Keeps f (transaction body) := by
  intro c
  rw [transaction_eq]
  exact h c

theorem keeps_andThen {f : τ → β} {x : Sql τ ε α} {k : α → Sql τ ε γ} (hx : Keeps f x)
    (hk : ∀ a, Keeps f (k a)) : Keeps f (andThen x k) := by
  intro c
  unfold andThen
  split
  · next a c' h => rw [hk a c', ← hx c, h]
  · next e c' h => rw [← hx c, h]

theorem keeps_mapError {f : τ → β} {g : ε → ε'} {x : Sql τ ε α} (h : Keeps f x) :
    Keeps f (mapError g x) := by
  intro c
  unfold mapError
  split <;> next h' => rw [← h c, h']

/-! ## Code that leaves the environment's failure point alone -/

/-- `x` leaves the index of the statement the environment makes fail as it is. -/
def KeepsFailAt (x : Sql τ ε α) : Prop := ∀ c, (x c).2.failAt = c.failAt

theorem keepsFailAt_run (stmt : Statement τ ρ) : KeepsFailAt (run stmt) := by
  intro c
  rcases run_cases stmt c with ⟨e, h⟩ | ⟨r, t, -, h⟩ <;> rw [h]

theorem keepsFailAt_execute (stmt : Statement τ ρ) : KeepsFailAt (execute stmt) := by
  intro c
  rw [execute_eq]
  exact keepsFailAt_run stmt c

theorem keepsFailAt_transaction {body : Sql τ ε α} (h : KeepsFailAt body) :
    KeepsFailAt (transaction body) := by
  intro c
  rw [transaction_eq]
  exact h c

theorem keepsFailAt_andThen {x : Sql τ ε α} {k : α → Sql τ ε γ} (hx : KeepsFailAt x)
    (hk : ∀ a, KeepsFailAt (k a)) : KeepsFailAt (andThen x k) := by
  intro c
  unfold andThen
  split
  · next a c' h => rw [hk a c', ← hx c, h]
  · next e c' h => rw [← hx c, h]

theorem keepsFailAt_mapError {g : ε → ε'} {x : Sql τ ε α} (h : KeepsFailAt x) :
    KeepsFailAt (mapError g x) := by
  intro c
  rw [mapError_snd]
  exact h c

end Connection

end UnsMetadataSync.Db
