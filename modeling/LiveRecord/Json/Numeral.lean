import LiveRecord.Decimal.Reading
import LiveRecord.Json.Basic

/-!
# JSON numerals

A numeral is read in two steps: its parts by the grammar, then its value. Digits alone give an
integer while it fits; every other numeral gives a binary64 number. That number is computed
from the digits that fit an unsigned 64-bit word, scaled by powers of ten in binary64
arithmetic, so it can lie one unit beside the nearest one.
-/

namespace LiveRecord.Json

/-- Why a text is no JSON document. -/
inductive ParseError where
  | unexpectedEnd
  | unexpected (c : Char)
  | invalidNumber
  | numberOutOfRange
  | controlCharacter
  | invalidEscape
  | loneSurrogate
  | tooDeep
  | trailing (c : Char)
  deriving Repr, DecidableEq

/-- The wording of the failure. -/
def ParseError.message : ParseError → String
  | .unexpectedEnd => "unexpected end of text"
  | .unexpected c => "unexpected character " ++ c.toString
  | .invalidNumber => "invalid number"
  | .numberOutOfRange => "number out of range"
  | .controlCharacter => "control character in string"
  | .invalidEscape => "invalid escape"
  | .loneSurrogate => "lone surrogate"
  | .tooDeep => "nesting too deep"
  | .trailing c => "trailing character " ++ c.toString

/-- The parts of a numeral. -/
structure Numeral where
  negative : Bool
  /-- The digits before the point; at least one. -/
  whole : List Char
  /-- The digits after the point, if there is one. -/
  fraction : Option (List Char)
  /-- The exponent, if there is one. -/
  exponent : Option Int
  deriving Repr, DecidableEq

namespace Numeral

/-- Read digits into a word after the value `acc`, as long as the value fits, and say how many
digits were read. -/
def captureDigits (acc : Nat) : List Char → Nat × Nat
  | [] => (acc, 0)
  | c :: rest =>
    let next := 10 * acc + (c.toNat - '0'.toNat)
    if next < Nat.pow 2 64 then
      let (value, count) := captureDigits next rest
      (value, count + 1)
    else (acc, 0)

/-- The power `10^e` as a binary64 number. -/
def tenTo (e : Nat) : Float := Float.ofScientific 1 false e

/-- Scale `x` by `10^e`; `none` if the result is too large. -/
def scale (x : Float) (e : Int) : Option Float :=
  if e < -308 then
    if x == 0 then some x else scale (x / tenTo 308) (e + 308)
  else if 308 < e then
    if x == 0 then some x else none
  else if 0 ≤ e then
    let y := x * tenTo e.toNat
    if y.isInf then none else some y
  else some (x / tenTo (-e).toNat)
termination_by (-e).toNat

/-- The significand, as a word, and the power of ten that goes with it. -/
def significand (n : Numeral) : Nat × Int :=
  let (whole, taken) := captureDigits 0 n.whole
  let dropped : Int := (n.whole.length : Int) - taken
  let (all, places) := captureDigits whole (n.fraction.getD [])
  (all, dropped - places + n.exponent.getD 0)

/-- The value of the numeral as a binary64 number. -/
def toFloat? (n : Numeral) : Option Float :=
  let (digits, exponent) := n.significand
  (scale (Float.ofNat digits) exponent).map fun x => if n.negative then -x else x

/-- The value of the numeral. Minus zero is a binary64 number. -/
def value (n : Numeral) : Except ParseError Number :=
  let magnitude := Text.digitsValue n.whole 0
  let integer? : Option Integer :=
    if n.fraction.isSome || n.exponent.isSome || n.negative && magnitude == 0 then none
    else Integer.ofInt? (if n.negative then -magnitude else magnitude)
  match integer? with
  | some i => .ok (.integer i)
  | none =>
    match n.toFloat?.bind Real.ofFloat? with
    | some x => .ok (.real x)
    | none => .error .numberOutOfRange

/-- Read the digits of an exponent after its mark. -/
def readExponent (cs : List Char) : Except ParseError (Int × List Char) :=
  let (negative, rest) := match cs with
    | '-' :: rest => (true, rest)
    | '+' :: rest => (false, rest)
    | _ => (false, cs)
  let (digits, rest) := Decimal.spanDigits rest
  if digits.isEmpty then .error .invalidNumber
  else
    let n : Int := Text.digitsValue digits 0
    .ok (if negative then -n else n, rest)

/-- Read the parts of a numeral and return the rest of the text. -/
def read (cs : List Char) : Except ParseError (Numeral × List Char) := do
  let (negative, rest) := match cs with
    | '-' :: rest => (true, rest)
    | _ => (false, cs)
  let (whole, rest) := Decimal.spanDigits rest
  if whole.isEmpty then throw .invalidNumber
  if whole.length > 1 ∧ whole.head? = some '0' then throw .invalidNumber
  let (fraction, rest) ← match rest with
    | '.' :: more =>
      let (digits, rest) := Decimal.spanDigits more
      if digits.isEmpty then throw .invalidNumber
      pure (some digits, rest)
    | _ => pure (none, rest)
  let (exponent, rest) ← match rest with
    | 'e' :: more | 'E' :: more => do
      let (e, rest) ← readExponent more
      pure (some e, rest)
    | _ => pure (none, rest)
  return (⟨negative, whole, fraction, exponent⟩, rest)

end Numeral

end LiveRecord.Json
