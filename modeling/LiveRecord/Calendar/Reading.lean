import LiveRecord.Calendar.DateTime
import LiveRecord.Text.Ascii
import LiveRecord.Text.Blank

/-!
# Reading dates

A spelling is a list of steps, each of which reads a part of the text and records the fields
that it found. A text is a date-time in a spelling if the steps use it up and the fields make a
date and a time. `DateTime.read?` tries a cascade of spellings: the strict one of time stamps
with an offset first, then local date-times with and without seconds, then date-times after a
blank with an offset, and a date alone at last.
-/

namespace LiveRecord

namespace Spelling

/-- A part of a date-time that is read as a number. -/
inductive Field where
  | year
  | month
  | day
  | hour
  | minute
  | second
  deriving Repr, DecidableEq

/-- What may stand between the hours and the minutes of an offset. -/
inductive OffsetForm where
  /-- Exactly a colon; the letter Z may stand for the offset zero. -/
  | strict
  /-- Any run of colons and blanks; blanks may come before the sign. -/
  | loose
  deriving Repr, DecidableEq

/-- A step of reading. -/
inductive Step where
  /-- A field of exactly this many digits. -/
  | exact (field : Field) (width : Nat)
  /-- A field of at most this many digits after any blanks. A year may have a sign, and any
  number of digits after it. -/
  | number (field : Field) (width : Nat)
  | literal (c : Char)
  /-- One of the characters. -/
  | oneOf (cs : List Char)
  /-- Any run of blanks, also none. -/
  | blanks
  /-- A point and digits, or nothing. Digits after the ninth are dropped. -/
  | fraction
  | offset (form : OffsetForm)
  deriving Repr, DecidableEq

/-- The fields read so far. -/
structure Fields where
  year : Option Int
  month : Option Nat
  day : Option Nat
  hour : Option Nat
  minute : Option Nat
  second : Option Nat
  nano : Option Nat
  /-- Minutes that the local time is ahead. -/
  offset : Option Int
  deriving Repr, DecidableEq

/-- No field is known. -/
def Fields.unknown : Fields := ⟨none, none, none, none, none, none, none, none⟩

/-- Record a number for a field. -/
def Fields.put (found : Fields) (field : Field) (n : Int) : Fields :=
  match field with
  | .year => { found with year := some n }
  | .month => { found with month := some n.toNat }
  | .day => { found with day := some n.toNat }
  | .hour => { found with hour := some n.toNat }
  | .minute => { found with minute := some n.toNat }
  | .second => { found with second := some n.toNat }

/-- The date that the fields make. -/
def Fields.date? (found : Fields) : Option Date := do
  Date.ofFields? (← found.year) (← found.month) (← found.day)

/-- The time that the fields make. A missing second is zero, and second 60 is the leap second
after second 59. -/
def Fields.time? (found : Fields) : Option Time := do
  let hour ← found.hour
  let minute ← found.minute
  let nano := found.nano.getD 0
  match found.second with
  | none => if found.nano.isSome then none else Time.ofFields? hour minute 0 0
  | some 60 => Time.ofFields? hour minute 59 (1000000000 + nano)
  | some second => Time.ofFields? hour minute second nano

/-- The date-time that the fields make: in UTC if an offset was read. -/
def Fields.dateTime? (found : Fields) : Option DateTime := do
  let civil : DateTime := ⟨← found.date?, ← found.time?⟩
  match found.offset with
  | none => some civil
  | some minutes => civil.minusOffset? minutes

/-- Read between `least` and `most` digits. -/
def digits? (least most : Nat) (cs : List Char) : Option (Nat × List Char) :=
  let found := (cs.takeWhile Char.isDigit).take most
  if found.length < least then none
  else some (Text.digitsValue found 0, cs.drop found.length)

/-- Read all digits that come, at least one. -/
def allDigits? (cs : List Char) : Option (Nat × List Char) :=
  digits? 1 cs.length cs

/-- Read a number that may have a sign. -/
def signedNumber? (width : Nat) (cs : List Char) : Option (Int × List Char) :=
  match cs with
  | '-' :: rest => (allDigits? rest).map fun found => (-(found.1 : Int), found.2)
  | '+' :: rest => (allDigits? rest).map fun found => ((found.1 : Int), found.2)
  | _ => (digits? 1 width cs).map fun found => ((found.1 : Int), found.2)

/-- Read a field with as many digits as it allows. -/
def number? (field : Field) (width : Nat) (cs : List Char) : Option (Int × List Char) :=
  match field with
  | .year => signedNumber? width cs
  | _ => (digits? 1 width cs).map fun found => ((found.1 : Int), found.2)

/-- Read the digits of a fraction and give nanoseconds. -/
def nano? (cs : List Char) : Option (Nat × List Char) :=
  let found := (cs.takeWhile Char.isDigit).take 9
  if found.isEmpty then none
  else some (Text.digitsValue found 0 * Nat.pow 10 (9 - found.length), cs.dropWhile Char.isDigit)

/-- Drop what stands between the hours and the minutes of an offset. -/
def separator? (form : OffsetForm) (cs : List Char) : Option (List Char) :=
  match form with
  | .strict =>
    match cs with
    | ':' :: rest => some rest
    | _ => none
  | .loose => some (cs.dropWhile fun c => c == ':' || Text.isBlank c)

/-- Read the sign of an offset. -/
def offsetSign? (cs : List Char) : Option (Int × List Char) :=
  match cs with
  | '+' :: rest => some (1, rest)
  | '-' :: rest => some (-1, rest)
  | '−' :: rest => some (-1, rest)
  | _ => none

/-- Read an offset that is written with a sign. It is less than a day. -/
def signedOffset? (form : OffsetForm) (cs : List Char) : Option (Int × List Char) := do
  let (sign, rest) ← offsetSign? cs
  let (hours, rest) ← digits? 2 2 rest
  let rest ← separator? form rest
  let (minutes, rest) ← digits? 2 2 rest
  if minutes < 60 ∧ hours < 24 then some (sign * (hours * 60 + minutes), rest) else none

/-- Read an offset. -/
def offset? (form : OffsetForm) (cs : List Char) : Option (Int × List Char) :=
  match form, cs with
  | .strict, 'Z' :: rest => some (0, rest)
  | .strict, 'z' :: rest => some (0, rest)
  | .strict, _ => signedOffset? .strict cs
  | .loose, _ => signedOffset? .loose (Text.trimStart cs)

/-- Take one step. -/
def Step.run (step : Step) (found : Fields) (cs : List Char) : Option (Fields × List Char) :=
  match step with
  | .exact field width =>
    (digits? width width cs).map fun read => (found.put field read.1, read.2)
  | .number field width =>
    (number? field width (Text.trimStart cs)).map fun read => (found.put field read.1, read.2)
  | .literal c => if cs.head? = some c then some (found, cs.tail) else none
  | .oneOf allowed =>
    match cs with
    | c :: rest => if allowed.contains c then some (found, rest) else none
    | [] => none
  | .blanks => some (found, Text.trimStart cs)
  | .fraction =>
    match cs with
    | '.' :: rest => (nano? rest).map fun read => ({ found with nano := some read.1 }, read.2)
    | _ => some (found, cs)
  | .offset form =>
    (offset? form cs).map fun read => ({ found with offset := some read.1 }, read.2)

/-- Take all steps; the text must be used up. -/
def run (steps : List Step) (found : Fields) (cs : List Char) : Option Fields :=
  match steps with
  | [] => if cs.isEmpty then some found else none
  | step :: rest => (step.run found cs).bind fun next => run rest next.1 next.2

/-- Year, month and day with fields of free width. -/
def looseDate : List Step :=
  [.number .year 4, .literal '-', .number .month 2, .literal '-', .number .day 2]

/-- Hour and minute with fields of free width. -/
def looseMinutes : List Step :=
  [.number .hour 2, .literal ':', .number .minute 2]

/-- Hour, minute, second and fraction with fields of free width. -/
def looseTime : List Step :=
  looseMinutes ++ [.literal ':', .number .second 2, .fraction]

/-- A time stamp with all its digits and an offset. -/
def stamp : List Step :=
  [.exact .year 4, .literal '-', .exact .month 2, .literal '-', .exact .day 2,
    .oneOf ['t', 'T', ' '], .exact .hour 2, .literal ':', .exact .minute 2, .literal ':',
    .exact .second 2, .fraction, .offset .strict]

/-- The spellings of a date-time, in the order in which they are tried. -/
def cascade : List (List Step) :=
  [stamp,
    looseDate ++ .literal 'T' :: looseTime,
    looseDate ++ .blanks :: looseTime,
    looseDate ++ .literal 'T' :: looseMinutes,
    looseDate ++ .blanks :: looseMinutes,
    looseDate ++ .blanks :: looseTime ++ [.offset .loose]]

/-- The date-time that a text is in one spelling. -/
def dateTime? (steps : List Step) (cs : List Char) : Option DateTime :=
  (run steps .unknown cs).bind (·.dateTime?)

end Spelling

namespace Date

/-- Read a date. -/
def read? (cs : List Char) : Option Date :=
  (Spelling.run Spelling.looseDate .unknown cs).bind (·.date?)

end Date

namespace DateTime

/-- Read a time stamp with an offset and give UTC. -/
def readStamp? (cs : List Char) : Option DateTime :=
  Spelling.dateTime? Spelling.stamp cs

/-- Read a local date-time with seconds after the letter T. -/
def readLocal? (cs : List Char) : Option DateTime :=
  Spelling.dateTime? (Spelling.looseDate ++ .literal 'T' :: Spelling.looseTime) cs

/-- Read a date-time in the first spelling of the cascade that fits, or a date alone. -/
def read? (cs : List Char) : Option DateTime :=
  match Spelling.cascade.findSome? fun steps => Spelling.dateTime? steps cs with
  | some t => some t
  | none => (Date.read? cs).map ofDate

end DateTime

end LiveRecord
