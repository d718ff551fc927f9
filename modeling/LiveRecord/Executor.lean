import LiveRecord.Error
import LiveRecord.Sql.Rendering

/-!
# Executors

A statement is run by an executor, which speaks one dialect. The record layer knows executors
by handles only; what they do is up to the pool that holds them. `Pool` is the interface: every
call names the executor, gives the request and may change the pool.
-/

namespace LiveRecord

/-- A handle on an executor of a pool. -/
structure Executor where
  /-- The place of the executor in its pool. -/
  place : Nat
  dialect : Sql.Dialect
  deriving Repr, DecidableEq

/-- What an executor is asked to run. -/
inductive Request where
  | statement (s : Sql.Statement)
  /-- A text from the caller, with its parameters. -/
  | raw (sql : String) (bounds : List Sql.Bound)

/-- The text and the parameters that are sent. -/
def Request.render (dialect : Sql.Dialect) : Request → Sql.Rendered
  | .statement s => s.render dialect
  | .raw sql bounds => ⟨sql, bounds⟩

/-- The executors behind the connections. -/
class Pool (σ : Type) where
  /-- Run a request and count the affected rows. -/
  execute : Executor → Request → σ → Except DatabaseError Nat × σ
  /-- Run a request and return all its rows. -/
  queryAll : Executor → Request → σ → Except DatabaseError (List Row) × σ
  /-- Run an insertion and return the generated value of a column. -/
  insertGetKey : Executor → Request → String → σ → Except DatabaseError Value × σ

namespace Pool

/-- The first of some rows. -/
def firstRow : List Row → Except DatabaseError Row
  | row :: _ => .ok row
  | [] => .error (.query "no rows returned")

/-- The generated value in a returned row. -/
def keyOf (key : String) (row : Row) : Except DatabaseError Value :=
  match row.get? key with
  | some v => .ok v
  | none => .error (.parse ("generated key \x60" ++ key ++ "\x60 missing from result"))

variable {σ : Type} [Pool σ]

/-- Run a request and return its first row. -/
def queryOne (executor : Executor) (request : Request) (pool : σ) :
    Except DatabaseError Row × σ :=
  let (answer, pool) := queryAll executor request pool
  (answer.bind firstRow, pool)

end Pool

end LiveRecord
