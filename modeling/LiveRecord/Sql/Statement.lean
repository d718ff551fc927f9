import LiveRecord.Value

/-!
# Statements

The statements that the record layer sends, before they become text: selections, insertions of
one row, updates and deletions of the rows that meet a list of conditions.
-/

namespace LiveRecord.Sql

/-- A condition on a row; the conditions of a statement must all hold. -/
inductive Condition where
  /-- The column equals a value that is not absent. -/
  | equals (column : String) (value : Value)
  | isNull (column : String)
  /-- The column equals one of the values. -/
  | isIn (column : String) (values : List Value)

/-- The condition that a column holds a value: an absent value is tested by itself. -/
def Condition.holds (column : String) (value : Value) : Condition :=
  if value.isNull then .isNull column else .equals column value

/-- The condition asks for the rows with a value in a column: it compares the column with the value,
or tests for the absent value. -/
inductive Condition.AsksFor (column : String) : Value → Condition → Prop
  | null : AsksFor column .null (.isNull column)
  | value {v : Value} (present : v ≠ .null) : AsksFor column v (.equals column v)

theorem Condition.AsksFor.of_holds (column : String) (v : Value) :
    AsksFor column v (holds column v) := by
  cases v with
  | null => exact .null
  | _ => exact .value nofun

/-- The order of rows by a column. -/
inductive Direction where
  | ascending
  | descending
  deriving Repr, DecidableEq

/-- How an update changes a column. -/
inductive Assignment where
  | set (column : String) (value : Value)
  | add (column : String) (amount : Value)
  | subtract (column : String) (amount : Value)

/-- The column that an assignment writes. -/
def Assignment.column : Assignment → String
  | .set column _ | .add column _ | .subtract column _ => column

/-- A statement. -/
inductive Statement where
  | select (table : String) (conditions : List Condition)
      (orders : List (String × Direction)) (limit : Option Nat)
  /-- Insert one row; a key named in `returning` is asked back. -/
  | insert (table : String) (row : List (String × Value)) (returning : Option String)
  | update (table : String) (assignments : List Assignment) (conditions : List Condition)
  | delete (table : String) (conditions : List Condition)

namespace Statement

/-- The columns that a statement writes, in order. -/
def writtenColumns : Statement → List String
  | .insert _ row _ => row.map Prod.fst
  | .update _ assignments _ => assignments.map Assignment.column
  | .select .. | .delete .. => []

/-- The conditions on the rows that a statement reads or writes. -/
def conditions : Statement → List Condition
  | .select _ conditions _ _ | .update _ _ conditions | .delete _ conditions => conditions
  | .insert .. => []

/-- The update that sets the columns of a row. -/
def updateOf (table : String) (row : Row) (conditions : List Condition) : Statement :=
  .update table (row.entries.map fun entry => .set entry.1 entry.2) conditions

end Statement

end LiveRecord.Sql
