import LiveRecord.Decimal.Reading
import LiveRecord.Json.Numeral
import LiveRecord.Value

/-!
# Errors

Every failure of a record operation is one of the causes below, and `Error.message` is the one
place where a cause is put into words. What an executor reports is passed on unchanged. The first
failure ends a sequence; what can be said of the parts of one that has ended stands first.
-/

namespace Except

variable {ε α β : Type} {x : Except ε α} {e : ε}

/-- A sequence that ends well has ended well in both parts. -/
theorem exists_of_bind_eq_ok {f : α → Except ε β} {b : β} (h : x.bind f = .ok b) :
    ∃ a, x = .ok a ∧ f a = .ok b := by
  cases x with
  | error e => cases h
  | ok a => exact ⟨a, rfl, h⟩

/-- A sequence that fails has failed in one of its parts. -/
theorem of_bind_eq_error {f : α → Except ε β} (h : x.bind f = .error e) :
    x = .error e ∨ ∃ a, x = .ok a ∧ f a = .error e := by
  cases x with
  | error e' =>
      cases h
      exact .inl rfl
  | ok a => exact .inr ⟨a, rfl, h⟩

theorem exists_of_map_eq_ok {f : α → β} {b : β} (h : x.map f = .ok b) :
    ∃ a, x = .ok a ∧ f a = b := by
  cases x with
  | error e => cases h
  | ok a => exact ⟨a, rfl, Except.ok.inj h⟩

theorem of_map_eq_error {f : α → β} (h : x.map f = .error e) : x = .error e := by
  cases x with
  | error e' =>
      cases h
      rfl
  | ok a => cases h

end Except

namespace LiveRecord

/-- A failure that an executor reports. -/
inductive DatabaseError where
  /-- The statement could not be run. -/
  | query (detail : String)
  /-- A row could not be read. -/
  | parse (detail : String)
  | other (detail : String)
  deriving Repr, DecidableEq

/-- The wording of an executor's failure. -/
def DatabaseError.message : DatabaseError → String
  | .query detail => "Query error: " ++ detail
  | .parse detail => "Parse error: " ++ detail
  | .other detail => "Execution error: " ++ detail

/-- Why a stored value cannot be coerced. -/
inductive CastFailure where
  | integer (cause : Decimal.IntegerError)
  | float (cause : Decimal.FloatError)
  | json (cause : Json.ParseError)
  /-- The cast does not apply to values of this kind. -/
  | unsupported (kind : Value.Kind)
  /-- A sum or difference leaves the range of the integers. -/
  | overflow
  /-- A value of one kind cannot be changed by an amount of the other. -/
  | notNumeric (current amount : Value.Kind)
  /-- A cause that a caller puts into words. -/
  | described (reason : String)
  deriving Repr, DecidableEq

/-- The wording of a cast failure. -/
def CastFailure.message : CastFailure → String
  | .integer cause => cause.message
  | .float cause => cause.message
  | .json cause => cause.message
  | .unsupported kind => "unsupported " ++ kind.name ++ " value"
  | .overflow => "integer overflow"
  | .notNumeric current amount =>
    "cannot adjust " ++ current.name ++ " value by " ++ amount.name ++ " value"
  | .described reason => reason

/-- Why a value is no date-time. -/
inductive DateFailure where
  /-- So many seconds after 1970-01-01 lie outside the calendar. -/
  | outOfRange (seconds : String)
  | unrecognized (text : String)
  | unsupported (kind : Value.Kind)
  /-- A cause that a caller puts into words. -/
  | described (reason : String)
  deriving Repr, DecidableEq

/-- The wording of a date failure. -/
def DateFailure.message : DateFailure → String
  | .outOfRange seconds => "timestamp " ++ seconds ++ " out of range"
  | .unrecognized text => "unrecognized date `" ++ text ++ "`"
  | .unsupported kind => "unsupported " ++ kind.name ++ " value"
  | .described reason => reason

/-- A failure of a record operation. -/
inductive Error where
  /-- A protected fill met a key of a type that admits no key at all. -/
  | massAssignment (key : String)
  /-- The record type declares no primary key. -/
  | missingPrimaryKey
  /-- An attribute was read or removed that is not present. -/
  | attributeNotFound (key : String)
  /-- A stored value cannot be coerced. -/
  | invalidCast (key : String) (cast : String) (failure : CastFailure)
  /-- A date column received what is no date-time. -/
  | invalidDate (key : String) (failure : DateFailure)
  /-- The output pattern cannot write a date-time. -/
  | invalidDateFormat (pattern : String)
  /-- No connection resolver is installed. -/
  | resolverNotSet
  /-- The resolver does not know the connection. -/
  | connectionNotFound (name : String)
  /-- The executor failed. -/
  | database (cause : DatabaseError)
  deriving Repr, DecidableEq

namespace Error

/-- The wording of a failure. -/
def message : Error → String
  | .massAssignment key => "Mass assignment rejected for attribute: " ++ key
  | .missingPrimaryKey => "No primary key defined on the model"
  | .attributeNotFound key => "Attribute not found: " ++ key
  | .invalidCast key cast failure =>
    "Cannot cast attribute " ++ key ++ " to " ++ cast ++ ": " ++ failure.message
  | .invalidDate key failure => "Invalid date for attribute " ++ key ++ ": " ++ failure.message
  | .invalidDateFormat pattern => "Invalid date format: " ++ pattern
  | .resolverNotSet => "No connection resolver has been set"
  | .connectionNotFound name => "Connection not found: " ++ name
  | .database cause => "Database error: " ++ cause.message

/-- The failure of the executor behind a failure, if there is one. -/
def source? : Error → Option DatabaseError
  | .database cause => some cause
  | _ => none

end Error

end LiveRecord
