import LiveRecord.Record
import LiveRecord.Session

/-!
# Queries

A query of a model is an executor together with conditions, an order and a limit, added one
after another. A reading call makes a selection of it, a writing call an insertion, an update
or a deletion; order and limit matter to selections only. Records that a query loads remember
the connection under which it was made.
-/

namespace LiveRecord

open Sql (Assignment Condition Direction Statement)

/-- A query of the table of a model. -/
structure Query (m : Model) where
  executor : Executor
  /-- The connection that loaded records remember. -/
  connection : Option String
  /-- The conditions, which must all hold. -/
  conditions : List Condition
  orders : List (String × Direction)
  limit : Option Nat

namespace Query

variable {m : Model}

/-- A query of all rows on an executor. -/
def on (m : Model) (executor : Executor) (connection : Option String) : Query m :=
  ⟨executor, connection, [], [], none⟩

/-- Add a condition. -/
def having (q : Query m) (condition : Condition) : Query m :=
  { q with conditions := q.conditions ++ [condition] }

/-- Require that a column holds a value. -/
def whereEq (q : Query m) (column : String) (v : Value) : Query m :=
  q.having (.holds column v)

/-- Require that a column equals one of some values. -/
def whereIn (q : Query m) (column : String) (values : List Value) : Query m :=
  q.having (.isIn column values)

/-- Require that the columns of a row hold its values. -/
def whereRow (q : Query m) (row : Row) : Query m :=
  row.entries.foldl (fun q entry => q.whereEq entry.1 entry.2) q

/-- Order by a column, after the orders given before. -/
def orderBy (q : Query m) (column : String) (direction : Direction) : Query m :=
  { q with orders := q.orders ++ [(column, direction)] }

/-- Return so many rows at most. -/
def limitTo (q : Query m) (limit : Nat) : Query m := { q with limit := some limit }

/-- The selection that the query makes. -/
def selection (q : Query m) : Statement :=
  .select m.table q.conditions q.orders q.limit

/-- The update of a column by an amount, with further columns to set. -/
def adjustment (q : Query m) (assignment : Assignment) (extra : Row) : Statement :=
  .update m.table (assignment :: extra.entries.map fun entry => .set entry.1 entry.2)
    q.conditions

variable {σ : Type}

/-- A query on a connection, or on the default connection. -/
def resolve (m : Model) (connection : Option String) : Action σ (Query m) := do
  return on m (← Action.resolve connection) connection

/-- Announce a request on the query's executor. -/
def announce (q : Query m) (request : Request) : Action σ Unit :=
  let rendered := request.render q.executor.dialect
  Action.note (.sending rendered.sql rendered.bounds.length)

variable [Pool σ]

/-- Send a writing statement and count the affected rows. -/
def write (q : Query m) (statement : Statement) : Action σ Nat := do
  q.announce (.statement statement)
  Action.execute q.executor (.statement statement)

/-- Send a request and return its rows. -/
def fetch (q : Query m) (request : Request) : Action σ (List Row) := do
  q.announce request
  Action.queryAll q.executor request

/-- The matching rows. -/
def rows (q : Query m) : Action σ (List Row) := q.fetch (.statement q.selection)

/-- Run a text of the caller's on the query's executor and return the rows. -/
def raw (q : Query m) (sql : String) (values : List Value) : Action σ (List Row) :=
  q.fetch (.raw sql (values.map .ofValue))

/-- The matching rows as persisted records. -/
def records (q : Query m) : Action σ (List (Record m)) := do
  return (← q.rows).map fun row => .ofRow m row q.connection

/-- The first matching record. -/
def first (q : Query m) : Action σ (Option (Record m)) := do
  return (← (q.limitTo 1).records).head?

/-- The record with a primary key. -/
def find (q : Query m) (id : Value) : Action σ (Option (Record m)) :=
  match m.primaryKey with
  | some key => (q.whereEq key id).first
  | none => throw .missingPrimaryKey

/-- Insert a row. -/
def insert (q : Query m) (row : Row) : Action σ Nat :=
  q.write (.insert m.table row.entries none)

/-- Insert a row and return the generated value of a column. -/
def insertGetKey (q : Query m) (row : Row) (key : String) : Action σ Value := do
  let request : Request := .statement (.insert m.table row.entries (some key))
  q.announce request
  Action.insertGetKey q.executor request key

/-- Set the columns of a row in all matching rows. An empty row changes nothing. -/
def update (q : Query m) (row : Row) : Action σ Nat :=
  if row.isEmpty then return 0 else q.write (.updateOf m.table row q.conditions)

/-- Delete the matching rows. -/
def delete (q : Query m) : Action σ Nat := q.write (.delete m.table q.conditions)

/-- Change a column in all matching rows, and set further columns. -/
def adjust (q : Query m) (assignment : Assignment) (extra : Row) : Action σ Nat :=
  q.write (q.adjustment assignment extra)

/-- Add an amount to a column in all matching rows, and set further columns. -/
def increment (q : Query m) (column : String) (amount : Value) (extra : Row) : Action σ Nat :=
  q.adjust (.add column amount) extra

/-- Subtract an amount from a column in all matching rows, and set further columns. -/
def decrement (q : Query m) (column : String) (amount : Value) (extra : Row) : Action σ Nat :=
  q.adjust (.subtract column amount) extra

end Query

end LiveRecord
