import LiveRecord.Record
import LiveRecord.Text.Printable

/-!
# Diagnostic text

A text form of records for people who look for a fault. Every value is shown with its variant,
texts are quoted, and what is not printable is shown by its number.
-/

namespace LiveRecord.Diagnostic

/-- A number in hexadecimal digits. -/
def hexDigits (n : Nat) : List Char := Nat.toDigits 16 n

/-- The spelling of one character inside quotes. -/
def escape (c : Char) : List Char :=
  if c = '"' then ['\\', '"']
  else if c = '\\' then ['\\', '\\']
  else if c = '\n' then ['\\', 'n']
  else if c = '\r' then ['\\', 'r']
  else if c = '\t' then ['\\', 't']
  else if c = '\x00' then ['\\', '0']
  else if Text.isPrintable c then [c]
  else ['\\', 'u', '\x7b'] ++ hexDigits c.toNat ++ ['\x7d']

/-- A text in quotes. -/
def quoted (s : String) : String :=
  "\"" ++ String.ofList (s.toList.flatMap escape) ++ "\""

/-- A name with what it holds in parentheses. -/
def tagged (name content : String) : String := name ++ "(" ++ content ++ ")"

/-- Items in brackets. -/
def bracketed (items : List String) : String := "[" ++ ", ".intercalate items ++ "]"

/-- Members in braces. -/
def braced (members : List (String × String)) : String :=
  "\x7b" ++ ", ".intercalate (members.map fun member => quoted member.1 ++ ": " ++ member.2) ++
    "\x7d"

mutual

/-- The text of a JSON tree. -/
def json : Json → String
  | .null => "Null"
  | .bool b => tagged "Bool" (if b then "true" else "false")
  | .num n => tagged "Number" (String.ofList n.text)
  | .str s => tagged "String" (quoted s)
  | .arr items => "Array " ++ bracketed (jsonItems items)
  | .obj members => "Object " ++ braced (jsonMembers members)

/-- The texts of a list of trees. -/
def jsonItems : List Json → List String
  | [] => []
  | item :: rest => json item :: jsonItems rest

/-- The members with the texts of their trees. -/
def jsonMembers : List (String × Json) → List (String × String)
  | [] => []
  | (key, value) :: rest => (key, json value) :: jsonMembers rest

end

/-- The text of a value. -/
def value : Value → String
  | .null => "Null"
  | .bool b => tagged "Bool" (if b then "true" else "false")
  | .int n => tagged "Int" (Value.int n).display
  | .float x => tagged "Float" (Decimal.Layout.diagnostic.format x)
  | .text s => tagged "String" (quoted s)
  | .dateTime t => tagged "DateTime" t.isoText
  | .json d => tagged "Json" (json d.root)

/-- The text of a row. -/
def row (r : Row) : String :=
  braced (r.entries.map fun entry => (entry.1, value entry.2))

/-- The text of a record: its table, its standing and its attributes. -/
def record {m : Model} (r : Record m) : String :=
  "Record \x7b table: " ++ quoted m.table ++ ", exists: " ++
    (if r.persisted then "true" else "false") ++ ", attributes: " ++ row r.attributes.current ++
    " \x7d"

end LiveRecord.Diagnostic
