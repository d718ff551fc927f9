import LiveRecord.Attributes
import LiveRecord.Guard
import LiveRecord.Schema

/-!
# Projection

The externally visible form of a record's attributes. A list of visible keys that is not empty
decides alone; otherwise hidden and internal keys are left out. Date columns that survive are
written in the output format, then cast columns are decoded.
-/

namespace LiveRecord

/-- What is shown of a record, and how. -/
structure Projection where
  schema : Schema
  hidden : List String
  visible : List String
  dateFormat : DateFormat

namespace Projection

/-- Is the key shown? -/
def shows (p : Projection) (key : String) : Bool :=
  if p.visible.isEmpty then !p.hidden.contains key && !isInternalKey key
  else p.visible.contains key

/-- Write the date of a column, if the row holds one that is not blank. -/
def writeDate (p : Projection) (key : String) (row : Row) : Except Error Row :=
  match row.get? key with
  | none => .ok row
  | some v =>
    if v.isBlank then .ok row
    else do
      let date ← Schema.readDate key v
      let text ← p.dateFormat.write date
      return row.insert key (.text text)

/-- Write the dates of columns, one after another. -/
def writeDates (p : Projection) (keys : List String) (row : Row) : Except Error Row :=
  keys.foldlM (fun row key => p.writeDate key row) row

/-- Decode the value of a column, if the row holds one. -/
def decodeColumn (p : Projection) (key : String) (row : Row) : Except Error Row :=
  match row.get? key with
  | none => .ok row
  | some v => (p.schema.decode key v).map fun decoded => row.insert key decoded

/-- Decode columns, one after another. -/
def decodeColumns (p : Projection) (keys : List String) (row : Row) : Except Error Row :=
  keys.foldlM (fun row key => p.decodeColumn key row) row

/-- The shown attributes, dates written and casts decoded. -/
def apply (p : Projection) (a : Attributes) : Except Error Row := do
  let shown := a.current.filter fun key _ => p.shows key
  let dated ← p.writeDates p.schema.dateColumns shown
  p.decodeColumns (p.schema.casts.map Prod.fst) dated

end Projection

end LiveRecord
