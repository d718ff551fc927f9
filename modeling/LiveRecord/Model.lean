import LiveRecord.Guard
import LiveRecord.Naming
import LiveRecord.Schema

/-!
# Record types

A model is what is declared for one type of records: its table and connection, its primary key,
its mass-assignment lists, casts, dates and output format, and its clock. The path of the type
tells models apart. `Model.declared` has the default for everything.
-/

namespace LiveRecord

/-- The declarations of a record type. -/
structure Model where
  /-- The path of the type; state kept per type is kept under it. -/
  path : String
  table : String
  /-- The connection of records that do not pick one; `none` for the resolver's default. -/
  connection : Option String
  /-- The primary key, if the type has one. -/
  primaryKey : Option String
  /-- Does the database generate the primary key? -/
  incrementing : Bool
  fillable : List String
  guarded : List String
  hidden : List String
  visible : List String
  casts : List (String × CastKind)
  /-- Date columns besides the timestamp columns. -/
  dates : List String
  timestamps : Bool
  dateFormat : DateFormat
  /-- The successive readings of the type's clock. -/
  clock : Nat → DateTime

namespace Model

/-- The model of a type that declares nothing, with a clock. -/
def declared (path : String) (clock : Nat → DateTime) : Model where
  path := path
  table := Naming.tableName path
  connection := none
  primaryKey := some "id"
  incrementing := true
  fillable := []
  guarded := ["*"]
  hidden := []
  visible := []
  casts := []
  dates := []
  timestamps := true
  dateFormat := .iso
  clock := clock

/-- The mass-assignment rules of the type while its protection is in the given state. -/
def guardWith (m : Model) (unguarded : Bool) : Guard :=
  ⟨m.fillable, m.guarded, unguarded⟩

/-- The primary key with its table, for use in joined queries. -/
def qualifiedKey? (m : Model) : Option String :=
  m.primaryKey.map fun key => m.table ++ "." ++ key

end Model

end LiveRecord
