import LiveRecord.Integer
import LiveRecord.Text.Ascii

/-!
# Reading decimal numbers

Reads 64-bit integers and binary64 numbers from a whole text. An integer is read from left to
right and fails at the first character that is no digit or takes the value out of range. A
binary64 number is the one nearest to the decimal written; too large a decimal is infinite.
-/

namespace LiveRecord.Decimal

/-- Why a text is no integer. -/
inductive IntegerError where
  | empty
  | invalidDigit
  | tooLarge
  | tooSmall
  deriving Repr, DecidableEq

/-- The wording of the failure. -/
def IntegerError.message : IntegerError → String
  | .empty => "cannot parse integer from empty string"
  | .invalidDigit => "invalid digit found in string"
  | .tooLarge => "number too large to fit in target type"
  | .tooSmall => "number too small to fit in target type"

/-- Read digits after a value `acc` whose sign is known. -/
def readDigits (negative : Bool) (acc : Nat) : List Char → Except IntegerError Nat
  | [] => .ok acc
  | c :: rest =>
    match Text.digitValue? c with
    | none => .error .invalidDigit
    | some d =>
      let next := 10 * acc + d
      if negative then
        if Nat.pow 2 63 < next then .error .tooSmall else readDigits negative next rest
      else
        if Nat.pow 2 63 ≤ next then .error .tooLarge else readDigits negative next rest

/-- Read an optionally signed integer. -/
def readInteger (s : String) : Except IntegerError Int64 :=
  match s.toList with
  | [] => .error .empty
  | ['+'] | ['-'] => .error .invalidDigit
  | '-' :: digits => (readDigits true 0 digits).map fun n => Int64.ofInt (-n)
  | '+' :: digits => (readDigits false 0 digits).map fun n => Int64.ofInt n
  | digits => (readDigits false 0 digits).map fun n => Int64.ofInt n

/-- Why a text is no binary64 number. -/
inductive FloatError where
  | empty
  | invalid
  deriving Repr, DecidableEq

/-- The wording of the failure. -/
def FloatError.message : FloatError → String
  | .empty => "cannot parse float from empty string"
  | .invalid => "invalid float literal"

/-- The number nearest to `m · 10^e`. Exponents far outside the range of binary64 are decided
by the number of digits alone. -/
def nearest (m : Nat) (e : Int) : Float :=
  let size := e + (Text.natDigits m).length
  if m = 0 ∨ size < -330 then 0
  else if 310 < size then Float.ofBits 0x7FF0000000000000
  else Float.ofScientific m (e < 0) e.natAbs

/-- Split off the leading digits. -/
def spanDigits (cs : List Char) : List Char × List Char :=
  (cs.takeWhile Char.isDigit, cs.dropWhile Char.isDigit)

/-- The integer that digits with an optional sign stand for, if there is at least one. -/
def signedDigits? (cs : List Char) : Option Int :=
  let (negative, digits) := match cs with
    | '-' :: rest => (true, rest)
    | '+' :: rest => (false, rest)
    | _ => (false, cs)
  if digits.isEmpty || !digits.all Char.isDigit then none
  else
    let n : Int := Text.digitsValue digits 0
    some (if negative then -n else n)

/-- Read an unsigned decimal: digits with an optional point among or around them and an
optional exponent. -/
def readDecimal? (cs : List Char) : Option Float :=
  let (whole, rest) := spanDigits cs
  let (fraction, rest) := match rest with
    | '.' :: more => spanDigits more
    | _ => ([], rest)
  if whole.isEmpty && fraction.isEmpty then none
  else
    let m := Text.digitsValue (whole ++ fraction) 0
    match rest with
    | [] => some (nearest m (-fraction.length))
    | c :: exponent =>
      if c = 'e' ∨ c = 'E' then
        (signedDigits? exponent).map fun e => nearest m (e - fraction.length)
      else none

/-- Read an unsigned number: a decimal or one of the words for what is not finite. -/
def readMagnitude? (cs : List Char) : Option Float :=
  let word := Text.asciiLower (String.ofList cs)
  if word = "inf" ∨ word = "infinity" then some (Float.ofBits 0x7FF0000000000000)
  else if word = "nan" then some (Float.ofBits 0x7FF8000000000000)
  else readDecimal? cs

/-- Read an optionally signed number. -/
def readFloat (s : String) : Except FloatError Float :=
  match s.toList with
  | [] => .error .empty
  | c :: rest =>
    let found :=
      if c = '-' then (readMagnitude? rest).map fun x => -x
      else if c = '+' then readMagnitude? rest
      else readMagnitude? (c :: rest)
    match found with
    | some x => .ok x
    | none => .error .invalid

end LiveRecord.Decimal
