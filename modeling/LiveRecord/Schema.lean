import LiveRecord.Cast
import LiveRecord.Timestamps

/-!
# Schemas

A schema lists the declared casts and the date columns of a record. Writing applies it in one
direction (`toStorage`: dates are normalised, structured values become JSON text), reading in
the other (`decode`, `readDate`). Nothing is remembered between reads.
-/

namespace LiveRecord

/-- Declared casts and date columns. The two timestamp columns are always date columns. -/
structure Schema where
  casts : List (String × CastKind)
  /-- Date columns besides the timestamp columns. -/
  dates : List String

namespace Schema

/-- The cast declared first for a column. -/
def castOf? (schema : Schema) (key : String) : Option CastKind :=
  Entries.lookup key schema.casts

/-- Has the column a cast? -/
def hasCast (schema : Schema) (key : String) : Bool :=
  (schema.castOf? key).isSome

/-- Has the column a structured cast? -/
def isStructured (schema : Schema) (key : String) : Bool :=
  (schema.castOf? key).any CastKind.isStructured

/-- Is it a date column? -/
def isDate (schema : Schema) (key : String) : Bool :=
  key == Timestamps.createdAt || key == Timestamps.updatedAt || schema.dates.contains key

/-- All date columns as declared, the timestamp columns last. -/
def dateColumns (schema : Schema) : List String :=
  schema.dates ++ [Timestamps.createdAt, Timestamps.updatedAt]

/-- The date-time of a value in a date column. -/
def readDate (key : String) (v : Value) : Except Error DateTime :=
  match v.toDateTime with
  | .ok t => .ok t
  | .error failure => .error (.invalidDate key failure)

/-- The value of a date column, normalised unless it is blank. -/
def normalizeDate (schema : Schema) (key : String) (v : Value) : Except Error Value :=
  if schema.isDate key && !v.isBlank then (readDate key v).map .dateTime else .ok v

/-- The form in which a value is stored under a column. -/
def toStorage (schema : Schema) (key : String) (v : Value) : Except Error Value := do
  let normal ← schema.normalizeDate key v
  return if schema.isStructured key then .text normal.toJson.print else normal

/-- Apply a cast to the stored value of a column. -/
def decodeAs (kind : CastKind) (key : String) (v : Value) : Except Error Value :=
  match v.coerce kind with
  | .ok decoded => .ok decoded
  | .error failure => .error (.invalidCast key kind.name failure)

/-- Apply the declared cast to the stored value of a column. -/
def decode (schema : Schema) (key : String) (v : Value) : Except Error Value :=
  match schema.castOf? key with
  | some kind => decodeAs kind key v
  | none => .ok v

/-- The value of a column as a reader sees it: decoded by its cast, or a date-time. -/
def read (schema : Schema) (key : String) (v : Value) : Except Error Value :=
  if schema.hasCast key then schema.decode key v
  else if schema.isDate key && !v.isBlank then (readDate key v).map .dateTime
  else .ok v

theorem isDate_iff {schema : Schema} {key : String} :
    schema.isDate key = true ↔ key ∈ schema.dateColumns := by
  simp [isDate, dateColumns, or_comm, or_assoc]

end Schema

end LiveRecord
