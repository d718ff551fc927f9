import LiveRecord.Record.Persistence

/-!
# Finding and creating records

What can be asked of a model as a whole: loading records by key or by attributes, creating and
deleting them.
-/

namespace LiveRecord.Model

variable {σ : Type}

/-- A query on the connection of the model. -/
def query (m : Model) : Action σ (Query m) := Query.resolve m m.connection

/-- A query on a named connection. -/
def queryOn (m : Model) (connection : String) : Action σ (Query m) :=
  Query.resolve m (some connection)

/-- Records for rows that are loaded already. -/
def hydrate (m : Model) (rows : List Row) (connection : Option String) : List (Record m) :=
  rows.map fun row => .ofRow m row connection

variable [Pool σ]

/-- All records. -/
def all (m : Model) : Action σ (List (Record m)) := do (← m.query).records

/-- The record with a primary key. -/
def find (m : Model) (id : Value) : Action σ (Option (Record m)) := do (← m.query).find id

/-- The records with one of some primary keys. Without keys nothing is asked. -/
def findMany (m : Model) (ids : List Value) : Action σ (List (Record m)) := do
  let key ← Action.ofExcept (Record.keyName m)
  if ids.isEmpty then return []
  let q ← m.query
  (q.whereIn key ids).records

/-- The record with a primary key, or a new one. -/
def findOrNew (m : Model) (id : Value) : Action σ (Record m) := do
  return (← m.find id).getD (.new m)

/-- Fill a new record and save it. -/
def create (m : Model) (row : Row) : Action σ (Record m) := do
  let r ← Record.ofFill m row
  return (← Record.save.applyTo r).2

/-- Fill a new record, protection lifted, and save it. -/
def forceCreate (m : Model) (row : Row) : Action σ (Record m) :=
  Action.unguarded m (m.create row)

/-- The first record with the attributes of a row. -/
def firstWith (m : Model) (row : Row) : Action σ (Option (Record m)) := do
  let q ← m.query
  (q.whereRow row).first

/-- The first record with the attributes of a row, or a new one filled with them. -/
def firstOrNew (m : Model) (row : Row) : Action σ (Record m) := do
  match ← m.firstWith row with
  | some r => return r
  | none => Record.ofFill m row

/-- The first record with the attributes of a row, or one created with them. -/
def firstOrCreate (m : Model) (row : Row) : Action σ (Record m) := do
  match ← m.firstWith row with
  | some r => return r
  | none => m.create row

/-- The first record with the attributes of a row, or a new one, filled with values and saved. -/
def updateOrCreate (m : Model) (row values : Row) : Action σ (Record m) := do
  let r ← m.firstOrNew row
  let (_, r) ← (Record.fill values).applyTo r
  return (← Record.save.applyTo r).2

/-- Delete records one after another and count those that were persisted. -/
def deleteAll {m : Model} (count : Nat) : List (Record m) → Action σ Nat
  | [] => return count
  | r :: rest => do
    let (deleted, _) ← Record.delete.applyTo r
    deleteAll (if deleted then count + 1 else count) rest

/-- Load the records with one of some primary keys and delete them. -/
def destroy (m : Model) (ids : List Value) : Action σ Nat := do
  deleteAll 0 (← m.findMany ids)

/-- Run a text of the caller's and make records of the rows. Without a connection the text runs
on the model's. -/
def hydrateRaw (m : Model) (sql : String) (values : List Value) (connection : Option String) :
    Action σ (List (Record m)) := do
  let q ← Query.resolve m (connection.or m.connection)
  return m.hydrate (← q.raw sql values) connection

end LiveRecord.Model
