import LiveRecord.Sql.Bound
import LiveRecord.Sql.Statement

/-!
# Rendering statements

A statement is rendered for a dialect into pieces: text and places for bound parameters. The
text of the statement numbers or marks the places, and the parameters are what the places
hold, so that both come from one list and line up by construction. No value ever enters the
text.
-/

namespace LiveRecord.Sql

/-- The dialect that an executor speaks. -/
inductive Dialect where
  | postgres
  | mysql
  | sqlite
  deriving Repr, DecidableEq

namespace Dialect

/-- The dialect with a name. -/
def ofName? : String → Option Dialect
  | "postgres" => some .postgres
  | "mysql" => some .mysql
  | "sqlite" => some .sqlite
  | _ => none

/-- The character around identifiers. -/
def quote : Dialect → Char
  | .postgres | .sqlite => '"'
  | .mysql => '\x60'

/-- Does an insertion report a key by a clause of its own? -/
def hasReturning : Dialect → Bool
  | .postgres | .sqlite => true
  | .mysql => false

/-- Are the places of parameters numbered? -/
def numbersPlaces : Dialect → Bool
  | .postgres => true
  | .mysql | .sqlite => false

/-- The row of defaults in an insertion without columns. -/
def defaultRow : Dialect → String
  | .postgres => " VALUES (DEFAULT)"
  | .mysql => " VALUES ()"
  | .sqlite => " DEFAULT VALUES"

/-- An identifier in quotes, a quote inside it doubled. -/
def identifier (dialect : Dialect) (name : String) : List Char :=
  let q := dialect.quote
  q :: (name.toList.flatMap fun c => if c = q then [q, q] else [c]) ++ [q]

end Dialect

/-- A piece of a rendered statement. -/
inductive Piece where
  | text (cs : List Char)
  | place (bound : Bound)

namespace Piece

/-- The pieces of a literal text. -/
def word (s : String) : List Piece := [.text s.toList]

/-- An identifier as a piece. -/
def name (dialect : Dialect) (s : String) : List Piece := [.text (dialect.identifier s)]

/-- A place for an attribute value. -/
def value (v : Value) : List Piece := [.place (.ofValue v)]

/-- The groups of pieces with a text between them. -/
def separated (separator : String) : List (List Piece) → List Piece
  | [] => []
  | [group] => group
  | group :: rest => group ++ word separator ++ separated separator rest

end Piece

open Piece

/-- A list of pieces in parentheses, separated by commas. -/
def parenthesised (groups : List (List Piece)) : List Piece :=
  word "(" ++ separated ", " groups ++ word ")"

namespace Condition

/-- The pieces of a condition. An empty list of values makes a condition that never holds. -/
def pieces (dialect : Dialect) : Condition → List Piece
  | .equals column v => name dialect column ++ word " = " ++ value v
  | .isNull column => name dialect column ++ word " IS NULL"
  | .isIn _ [] => [.place (.int 1)] ++ word " = " ++ [.place (.int 2)]
  | .isIn column values =>
    name dialect column ++ word " IN " ++ parenthesised (values.map value)

end Condition

/-- The pieces of the clause of conditions. -/
def wherePieces (dialect : Dialect) (conditions : List Condition) : List Piece :=
  if conditions.isEmpty then []
  else word " WHERE " ++ separated " AND " (conditions.map (·.pieces dialect))

/-- The pieces of an assignment. -/
def Assignment.pieces (dialect : Dialect) : Assignment → List Piece
  | .set column v => name dialect column ++ word " = " ++ value v
  | .add column amount =>
    name dialect column ++ word " = " ++ name dialect column ++ word " + " ++ value amount
  | .subtract column amount =>
    name dialect column ++ word " = " ++ name dialect column ++ word " - " ++ value amount

/-- The pieces of the order of rows. -/
def orderPieces (dialect : Dialect) (orders : List (String × Direction)) : List Piece :=
  if orders.isEmpty then []
  else word " ORDER BY " ++ separated ", " (orders.map fun order =>
    name dialect order.1 ++ word (match order.2 with
      | .ascending => " ASC"
      | .descending => " DESC"))

/-- The pieces of a row limit. -/
def limitPieces : Option Nat → List Piece
  | none => []
  | some n => word " LIMIT " ++ [.place (.bigUnsigned n)]

/-- The pieces of the inserted row. -/
def rowPieces (dialect : Dialect) (row : List (String × Value)) : List Piece :=
  if row.isEmpty then word dialect.defaultRow
  else word " " ++ parenthesised (row.map fun entry => name dialect entry.1) ++
    word " VALUES " ++ parenthesised (row.map fun entry => value entry.2)

/-- The pieces of the clause that asks a key back. -/
def returningPieces (dialect : Dialect) : Option String → List Piece
  | none => []
  | some key => if dialect.hasReturning then word " RETURNING " ++ name dialect key else []

namespace Statement

/-- The pieces of a statement. -/
def pieces (dialect : Dialect) : Statement → List Piece
  | .select table conditions orders limit =>
    word "SELECT * FROM " ++ name dialect table ++ wherePieces dialect conditions ++
      orderPieces dialect orders ++ limitPieces limit
  | .insert table row returning =>
    word "INSERT INTO " ++ name dialect table ++ rowPieces dialect row ++
      returningPieces dialect returning
  | .update table assignments conditions =>
    word "UPDATE " ++ name dialect table ++ word " SET " ++
      separated ", " (assignments.map (·.pieces dialect)) ++ wherePieces dialect conditions
  | .delete table conditions =>
    word "DELETE FROM " ++ name dialect table ++ wherePieces dialect conditions

end Statement

/-- The spelling of the place with a number. -/
def placeText (dialect : Dialect) (number : Nat) : List Char :=
  if dialect.numbersPlaces then '$' :: Text.natDigits number else ['?']

/-- The text of pieces whose first place has the given number. -/
def textFrom (dialect : Dialect) (number : Nat) : List Piece → List Char
  | [] => []
  | .text cs :: rest => cs ++ textFrom dialect number rest
  | .place _ :: rest => placeText dialect number ++ textFrom dialect (number + 1) rest

/-- The parameters of pieces, in order. -/
def boundsOf : List Piece → List Bound
  | [] => []
  | .text _ :: rest => boundsOf rest
  | .place bound :: rest => bound :: boundsOf rest

/-- A statement as it is sent: its text and its parameters. -/
structure Rendered where
  sql : String
  bounds : List Bound

/-- Render a statement for a dialect. -/
def Statement.render (dialect : Dialect) (statement : Statement) : Rendered :=
  let pieces := statement.pieces dialect
  ⟨String.ofList (textFrom dialect 1 pieces), boundsOf pieces⟩

@[simp] theorem boundsOf_append (p q : List Piece) :
    boundsOf (p ++ q) = boundsOf p ++ boundsOf q := by
  induction p with
  | nil => rfl
  | cons piece rest ih => cases piece <;> simp [boundsOf, ih]

@[simp] theorem boundsOf_word (s : String) : boundsOf (word s) = [] := rfl

@[simp] theorem boundsOf_name (dialect : Dialect) (s : String) : boundsOf (name dialect s) = [] :=
  rfl

@[simp] theorem boundsOf_value (v : Value) : boundsOf (value v) = [.ofValue v] := rfl

end LiveRecord.Sql
