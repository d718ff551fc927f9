import LiveRecord.Value

/-!
# Bound parameters

The values that travel beside the text of a statement. An absent value is bound as a text that
is absent.
-/

namespace LiveRecord.Sql

/-- A bound parameter. -/
inductive Bound where
  | bool (b : Bool)
  | bigInt (n : Int64)
  /-- A small constant of a rendered condition. -/
  | int (n : Int)
  /-- A row limit. -/
  | bigUnsigned (n : Nat)
  | double (x : Float)
  | text (s : Option String)
  | dateTime (t : DateTime)
  | json (d : Json.Document)

/-- The parameter for an attribute value. -/
def Bound.ofValue : Value → Bound
  | .null => .text none
  | .bool b => .bool b
  | .int n => .bigInt n
  | .float x => .double x
  | .text s => .text (some s)
  | .dateTime t => .dateTime t
  | .json d => .json d

end LiveRecord.Sql
