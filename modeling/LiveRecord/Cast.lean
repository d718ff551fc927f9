import LiveRecord.Calendar.Reading
import LiveRecord.Error
import LiveRecord.Json.Parser

/-!
# Casts

A cast coerces a stored value when it is read. Structured casts are stored as JSON text and
decoded on every access; an unknown cast passes values through, and the absent value is never
coerced. Date columns read date-times from text in the usual spellings and from seconds since
1970-01-01.
-/

namespace LiveRecord

/-- A declared coercion for one attribute. -/
inductive CastKind where
  | integer
  | float
  | text
  | boolean
  | list
  | mapping
  | json
  | object
  /-- A declaration without meaning here: values pass through. -/
  | other (name : String)
  deriving Repr, DecidableEq

namespace CastKind

/-- Are values under this cast stored as JSON text? -/
def isStructured : CastKind → Bool
  | .list | .mapping | .json | .object => true
  | _ => false

/-- The name of a cast in messages. -/
def name : CastKind → String
  | .integer => "integer"
  | .float => "float"
  | .text => "string"
  | .boolean => "boolean"
  | .list => "list"
  | .mapping => "dict"
  | .json => "json"
  | .object => "object"
  | .other name => name

/-- The cast with a conventional name, whatever its case and the blanks around it. -/
def ofName (declared : String) : CastKind :=
  match Text.asciiLower (Text.trim declared) with
  | "int" | "integer" => .integer
  | "real" | "float" | "double" => .float
  | "str" | "string" => .text
  | "bool" | "boolean" => .boolean
  | "list" | "array" => .list
  | "dict" | "map" | "mapping" => .mapping
  | "json" => .json
  | "object" => .object
  | _ => .other "unknown"

end CastKind

namespace Value

/-- Is the text one of a true value? Blanks, zero and the word for false are not. -/
def textIsTrue (s : String) : Bool :=
  let trimmed := Text.trim s
  !(trimmed.isEmpty || trimmed == "0" || Text.asciiEqIgnoreCase trimmed "false")

/-- The truth value of a value: zero, blank text and empty collections are false. -/
def truthy : Value → Bool
  | .null => false
  | .bool b => b
  | .int n => n != 0
  | .float x => x != 0
  | .text s => textIsTrue s
  | .dateTime _ => true
  | .json d =>
    match d.root with
    | .arr items => !items.isEmpty
    | .obj members => !members.isEmpty
    | _ => true

/-- Coerce to an integer. A binary64 number is cut off and kept in range. -/
def toInteger (v : Value) : Except CastFailure Value :=
  match v with
  | .int n => .ok (.int n)
  | .bool b => .ok (.int (if b then 1 else 0))
  | .float x =>
    if x.isFinite then .ok (.int (Integer.saturate (Binary64.ofFloat x).truncate))
    else .error (.unsupported .float)
  | .text s =>
    match Decimal.readInteger (Text.trim s) with
    | .ok n => .ok (.int n)
    | .error cause => .error (.integer cause)
  | other => .error (.unsupported other.kind)

/-- Coerce to a binary64 number. -/
def toFloat (v : Value) : Except CastFailure Value :=
  match v with
  | .int n => .ok (.float (Integer.toFloat n))
  | .bool b => .ok (.float (if b then 1 else 0))
  | .float x => .ok (.float x)
  | .text s =>
    match Decimal.readFloat (Text.trim s) with
    | .ok x => .ok (.float x)
    | .error cause => .error (.float cause)
  | other => .error (.unsupported other.kind)

/-- Decode stored JSON text; what is no text is decoded already. -/
def decodeJson (v : Value) : Except CastFailure Value :=
  match v with
  | .text s =>
    match Json.Document.parse s with
    | .ok d => .ok (.ofJson d)
    | .error cause => .error (.json cause)
  | other => .ok other

/-- Apply a cast to a stored value. -/
def coerce (v : Value) (kind : CastKind) : Except CastFailure Value :=
  if v.isNull then .ok .null
  else match kind with
    | .integer => v.toInteger
    | .float => v.toFloat
    | .text => .ok (.text v.display)
    | .boolean => .ok (.bool v.truthy)
    | .list | .mapping | .json | .object => v.decodeJson
    | .other _ => .ok v

/-- The date-time at a number of seconds after 1970-01-01. The fraction is taken to the nearest
nanosecond, but never to the next second. -/
def dateTimeOfFloat? (x : Float) : Option DateTime :=
  let whole := (Binary64.ofFloat x).floor
  let nanos := (Binary64.ofFloat ((x - Float.ofInt whole) * 1e9)).round
  DateTime.ofUnix? whole (min nanos.toNat 999999999)

/-- Normalise a value to a date-time. -/
def toDateTime (v : Value) : Except DateFailure DateTime :=
  match v with
  | .dateTime t => .ok t
  | .int n =>
    match DateTime.ofUnix? n.toInt 0 with
    | some t => .ok t
    | none => .error (.outOfRange (Value.int n).display)
  | .float x =>
    if x.isFinite then
      match dateTimeOfFloat? x with
      | some t => .ok t
      | none => .error (.outOfRange (Value.float x).display)
    else .error (.unsupported .float)
  | .text s =>
    match DateTime.read? (Text.trim s).toList with
    | some t => .ok t
    | none => .error (.unrecognized s)
  | other => .error (.unsupported other.kind)

end Value

/-- How dates are written on output. -/
inductive DateFormat where
  | iso
  | custom (pattern : String)
  deriving Repr, DecidableEq

namespace DateFormat

/-- The pattern of a format. -/
def pattern : DateFormat → String
  | .iso => Pattern.iso
  | .custom pattern => pattern

/-- Write a date-time. -/
def write (format : DateFormat) (t : DateTime) : Except Error String :=
  match Pattern.format? format.pattern t with
  | some text => .ok text
  | none => .error (.invalidDateFormat format.pattern)

end DateFormat

end LiveRecord
