import LiveRecord.Calendar.Pattern
import LiveRecord.Integer
import LiveRecord.Json.Printer

/-!
# Attribute values

A record keeps its columns in a row: a dictionary of values whose types are known only at run
time. JSON documents and values convert into each other: scalars map to the scalar variants,
arrays and objects stay documents.
-/

namespace LiveRecord

/-- A single attribute value. -/
inductive Value where
  /-- The absent value of a database. -/
  | null
  | bool (b : Bool)
  | int (n : Int64)
  | float (x : Float)
  | text (s : String)
  /-- A date-time in UTC. -/
  | dateTime (t : DateTime)
  /-- A decoded structured value. -/
  | json (d : Json.Document)

/-- A database row or the attributes of a record, in column order. -/
abbrev Row := Dict Value

namespace Value

instance : Inhabited Value := ⟨.null⟩

/-- The variants of values. -/
inductive Kind where
  | null
  | bool
  | int
  | float
  | text
  | dateTime
  | json
  deriving Repr, DecidableEq

/-- The variant of a value. -/
def kind : Value → Kind
  | .null => .null
  | .bool _ => .bool
  | .int _ => .int
  | .float _ => .float
  | .text _ => .text
  | .dateTime _ => .dateTime
  | .json _ => .json

/-- The name of a variant in messages. -/
def Kind.name : Kind → String
  | .null => "null"
  | .bool => "bool"
  | .int => "int"
  | .float => "float"
  | .text => "string"
  | .dateTime => "datetime"
  | .json => "json"

/-- Is the value absent? -/
def isNull : Value → Bool
  | .null => true
  | _ => false

/-- Is the value absent or the empty text? Date columns hold such values as they are. -/
def isBlank : Value → Bool
  | .null => true
  | .text s => s.isEmpty
  | _ => false

/-- The integer held, if the value is one. -/
def asInt? : Value → Option Int64
  | .int n => some n
  | _ => none

/-- The number held, as a binary64 number. -/
def asFloat? : Value → Option Float
  | .int n => some (Integer.toFloat n)
  | .float x => some x
  | _ => none

/-- The text held, if the value is one. -/
def asText? : Value → Option String
  | .text s => some s
  | _ => none

/-- The truth value held, if the value is one. -/
def asBool? : Value → Option Bool
  | .bool b => some b
  | _ => none

/-- The date-time held, if the value is one. -/
def asDateTime? : Value → Option DateTime
  | .dateTime t => some t
  | _ => none

/-- Equality within a variant; different variants are never equal. Binary64 numbers compare as
numbers, so that the one that is no number differs from itself and both zeros are equal. -/
def same : Value → Value → Bool
  | .null, .null => true
  | .bool a, .bool b => a == b
  | .int m, .int n => m == n
  | .float x, .float y => x == y
  | .text s, .text t => s == t
  | .dateTime t, .dateTime u => t == u
  | .json d, .json e => d.same e
  | _, _ => false

/-- The value as a JSON document. Date-times become text, and what is no finite number becomes
`null`. -/
def toJson : Value → Json.Document
  | .null => .null
  | .bool b => .ofBool b
  | .int n => .ofNumber (.integer (.ofInt64 n))
  | .float x =>
    match Json.Real.ofFloat? x with
    | some r => .ofNumber (.real r)
    | none => .null
  | .text s => .ofString s
  | .dateTime t => .ofString t.isoText
  | .json d => d

/-- The value of a JSON number: an integer if it fits a word. -/
def ofNumber : Json.Number → Value
  | .integer n =>
    match Integer.toInt64? n.val with
    | some word => .int word
    | none => .float (Float.ofInt n.val)
  | .real x => .float x.val

/-- The value of a JSON document: scalars map to the matching variant. -/
def ofJson (d : Json.Document) : Value :=
  match d.root with
  | .null => .null
  | .bool b => .bool b
  | .num n => ofNumber n
  | .str s => .text s
  | .arr _ | .obj _ => .json d

/-- The text of a value in messages. -/
def display : Value → String
  | .null => "null"
  | .bool b => if b then "true" else "false"
  | .int n => String.ofList (Json.integerText n.toInt)
  | .float x => Decimal.Layout.plain.format x
  | .text s => s
  | .dateTime t => t.isoText
  | .json d => d.print

end Value

/-- The types whose elements are attribute values in one way. -/
class ToValue (α : Type) where
  /-- The attribute value for an element. -/
  toValue : α → Value

export ToValue (toValue)

instance : ToValue Value := ⟨id⟩
instance : ToValue Bool := ⟨.bool⟩
instance : ToValue Int64 := ⟨.int⟩
instance : ToValue Int32 := ⟨fun n => .int n.toInt64⟩
instance : ToValue Int16 := ⟨fun n => .int n.toInt64⟩
instance : ToValue Int8 := ⟨fun n => .int n.toInt64⟩
instance : ToValue UInt32 := ⟨fun n => .int (Int64.ofNat n.toNat)⟩
instance : ToValue UInt16 := ⟨fun n => .int (Int64.ofNat n.toNat)⟩
instance : ToValue UInt8 := ⟨fun n => .int (Int64.ofNat n.toNat)⟩
instance : ToValue Float := ⟨.float⟩
instance : ToValue Float32 := ⟨fun x => .float x.toFloat⟩
instance : ToValue String := ⟨.text⟩
instance : ToValue DateTime := ⟨.dateTime⟩
instance : ToValue Date := ⟨fun d => .dateTime (.ofDate d)⟩
instance : ToValue Json.Document := ⟨.ofJson⟩

instance {α : Type} [ToValue α] : ToValue (Option α) where
  toValue
    | some a => ToValue.toValue a
    | none => .null

namespace Row

/-- Do both rows hold equal values under the same keys? -/
def same (r s : Row) : Bool := r.agrees Value.same s

/-- The row as a JSON object, in column order. -/
def toJson (r : Row) : Json.Document :=
  ⟨.obj (r.entries.map fun entry => (entry.1, entry.2.toJson.root)), by
    have h := Json.Document.membersDistinct_map_root
      (r.entries.map fun entry => (entry.1, entry.2.toJson))
    have hn := r.nodup
    simp only [List.map_map, Function.comp_def] at h
    exact ⟨by simpa [Entries.keys, Function.comp_def] using hn, h⟩⟩

end Row

end LiveRecord
