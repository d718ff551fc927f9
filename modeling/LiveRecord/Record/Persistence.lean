import LiveRecord.Query
import LiveRecord.Record.Fill

/-!
# Saving, changing and deleting a record

A record that is not persisted is saved by an insertion, a persisted one by an update of its
dirty columns. Statements about one record are addressed by its primary key: the update of a
save by the key that the row had at the last snapshot, all others by the current key. Nothing is
tried twice, and a statement that fails leaves the record's standing and its snapshot alone.
-/

namespace LiveRecord

open Sql (Assignment)

namespace Record

variable {m : Model} {σ : Type}

/-- The name of the primary key. -/
def keyName (m : Model) : Except Error String :=
  match m.primaryKey with
  | some key => .ok key
  | none => .error .missingPrimaryKey

/-- The key of the row that an update of the record is about: the one in the snapshot, if there
is one. -/
def keyForUpdate (r : Record m) (key : String) : Except Error Value :=
  match r.snapshot? key with
  | some v => .ok v
  | none => r.attributes.get key

/-- A query on the record's connection. -/
def query (r : Record m) : Action σ (Query m) := Query.resolve m r.connection

/-- Store stamps under their columns. -/
def writeStamps : List (String × Value) → Edit m σ Unit
  | [] => return ()
  | (column, v) :: rest => do
    Edit.write column v
    writeStamps rest

/-- Stamp the timestamp columns for a save, if the model has them. -/
def stamp : Edit m σ Unit := do
  let r ← Edit.current
  match Timestamps.plan m.timestamps (!r.persisted) (fun column => r.isDirty [column]) with
  | none => return ()
  | some stampsAt => writeStamps (stampsAt (← Edit.ofAction (Action.readClock m)))

variable [Pool σ]

/-- Update the row of a persisted record with what is dirty. -/
def saveChanges (q : Query m) (stamping : Bool) : Edit m σ Unit := do
  if (← Edit.current).dirty.isEmpty then
    Edit.note (.nothingToSave m.table)
  else
    if stamping then stamp
    let r ← Edit.current
    if r.dirty.isEmpty then return
    let key ← Edit.ofExcept (keyName m)
    let v ← Edit.ofExcept (r.keyForUpdate key)
    Edit.note (.updating m.table key v r.dirty.size)
    let _ ← Edit.ofAction ((q.whereEq key v).update r.dirty)

/-- Insert a row for a record that is not persisted. -/
def saveNew (q : Query m) (stamping : Bool) : Edit m σ Unit := do
  if stamping then stamp
  let row := (← Edit.current).attributes.current
  match m.primaryKey, m.incrementing with
  | some key, true =>
    let id ← Edit.ofAction (q.insertGetKey row key)
    Edit.note (.insertedKey m.table key id)
    Edit.write key id
  | _, _ =>
    let _ ← Edit.ofAction (q.insert row)
    Edit.note (.inserted m.table)
  Edit.change fun r => { r with persisted := true }

/-- Save the record, stamping the timestamp columns if asked to. -/
def saveWith (stamping : Bool) : Edit m σ Bool := do
  let r ← Edit.current
  let q ← Edit.ofAction r.query
  if r.persisted then saveChanges q stamping else saveNew q stamping
  Edit.change Record.sync
  return true

/-- Save the record. -/
def save : Edit m σ Bool := saveWith true

/-- The outcome of `Record.update`. -/
inductive UpdateOutcome where
  /-- The table was updated in so many rows. -/
  | table (rows : Nat)
  | saved (done : Bool)
  deriving Repr, DecidableEq

/-- Fill a persisted record and save it; of a record that is not persisted, set the columns of
the row in the whole table. -/
def update (row : Row) : Edit m σ UpdateOutcome := do
  let r ← Edit.current
  if r.persisted then
    fill row
    return .saved (← save)
  else
    let q ← Edit.ofAction r.query
    return .table (← Edit.ofAction (q.update row))

/-- Delete the row of the record: was there one? -/
def delete : Edit m σ Bool := do
  let key ← Edit.ofExcept (keyName m)
  let r ← Edit.current
  if r.persisted then
    let v ← Edit.ofExcept (r.attributes.get key)
    Edit.note (.deleting m.table key v)
    let q ← Edit.ofAction r.query
    let _ ← Edit.ofAction (q.whereEq key v).delete
    Edit.change fun r => { r with persisted := false }
    return true
  else return false

/-- Stamp the timestamp columns and save: does the model have them? -/
def touch : Edit m σ Bool := do
  if m.timestamps then
    stamp
    save
  else return false

/-- A change of a column by an amount. -/
inductive Step where
  | increment
  | decrement
  deriving Repr, DecidableEq

/-- The assignment that makes the change. -/
def Step.assignment : Step → String → Value → Assignment
  | .increment => .add
  | .decrement => .subtract

/-- The change of an integer. -/
def Step.ofInt : Step → Int → Int → Int
  | .increment, a, b => a + b
  | .decrement, a, b => a - b

/-- The change of a binary64 number. -/
def Step.ofFloat : Step → Float → Float → Float
  | .increment, a, b => a + b
  | .decrement, a, b => a - b

/-- The change of a value: two integers make an integer, which must be in range, and other
numbers a binary64 number. -/
def Step.ofValue (step : Step) (current amount : Value) : Except CastFailure Value :=
  match current, amount with
  | .int a, .int b =>
    match Integer.toInt64? (step.ofInt a.toInt b.toInt) with
    | some n => .ok (.int n)
    | none => .error .overflow
  | current, amount =>
    match current.asFloat?, amount.asFloat? with
    | some a, some b => .ok (.float (step.ofFloat a b))
    | _, _ => .error (.notNumeric current.kind amount.kind)

/-- The changed value of a column. -/
def Step.ofColumn (step : Step) (column : String) (current amount : Value) :
    Except Error Value :=
  match step.ofValue current amount with
  | .ok v => .ok v
  | .error failure => .error (.invalidCast column "numeric" failure)

/-- Change a column by an amount and count the affected rows: in the row of a persisted record,
else in the whole table. The record then holds the changed value, which counts as saved. -/
def adjust (step : Step) (column : String) (amount : Value) : Edit m σ Nat := do
  let r ← Edit.current
  let q ← Edit.ofAction r.query
  if r.persisted then
    let key ← Edit.ofExcept (keyName m)
    let v ← Edit.ofExcept (r.attributes.get key)
    let current ← Edit.ofExcept (r.read column)
    let adjusted ← Edit.ofExcept (step.ofColumn column current amount)
    let affected ← Edit.ofAction
      ((q.whereEq key v).adjust (step.assignment column amount) .empty)
    Edit.write column adjusted
    Edit.change fun r => r.syncKey column
    return affected
  else Edit.ofAction (q.adjust (step.assignment column amount) .empty)

/-- Add an amount to a column. -/
def increment (column : String) (amount : Value) : Edit m σ Nat := adjust .increment column amount

/-- Subtract an amount from a column. -/
def decrement (column : String) (amount : Value) : Edit m σ Nat := adjust .decrement column amount

/-- The record of the row as it is now, if there is still one. -/
def fresh (r : Record m) : Action σ (Option (Record m)) := do
  if r.persisted then
    let key ← Action.ofExcept (keyName m)
    let v ← Action.ofExcept (r.attributes.get key)
    let q ← r.query
    (q.whereEq key v).first
  else return none

theorem keyName_eq_ok_iff {key : String} : keyName m = .ok key ↔ m.primaryKey = some key := by
  rw [keyName]
  cases m.primaryKey <;> simp

/-- An update of the record finds its row by the saved key, and by the live one if no key is
saved. -/
theorem keyForUpdate_eq_ok_iff {r : Record m} {key : String} {v : Value} :
    r.keyForUpdate key = .ok v ↔
      (r.attributes.snapshot.get? key).or (r.attributes.current.get? key) = some v := by
  rw [keyForUpdate, snapshot?]
  cases r.attributes.snapshot.get? key with
  | some old => rw [Option.some_or, Except.ok.injEq, Option.some.injEq]
  | none => exact Attributes.get_eq_ok_iff

end Record

end LiveRecord
