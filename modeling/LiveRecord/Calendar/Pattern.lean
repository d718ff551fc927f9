import LiveRecord.Calendar.DateTime
import LiveRecord.Text.Ascii
import LiveRecord.Text.Blank

/-!
# Date patterns

A pattern is text with specifiers that start with a percent sign. `Pattern.items?` splits it
into items and fails on a specifier that is unknown or that needs a time zone; `Pattern.format`
writes a date-time by writing item after item.
-/

namespace LiveRecord

namespace Pattern

/-- How a number fills up to its usual width. -/
inductive Pad where
  | none
  | zero
  | space
  deriving Repr, DecidableEq

/-- A part of a date-time that is written as a number. -/
inductive Field where
  | year
  | century
  | yearOfCentury
  | isoYear
  | isoYearOfCentury
  | quarter
  | month
  | day
  | weekFromSunday
  | weekFromMonday
  | isoWeek
  | weekdayFromSunday
  | weekdayFromMonday
  | ordinal
  | hour
  | hour12
  | minute
  | second
  | nanosecond
  | timestamp
  deriving Repr, DecidableEq

/-- A piece of a pattern. -/
inductive Item where
  | literal (c : Char)
  | number (field : Field) (pad : Pad)
  | monthName (short : Bool)
  | weekdayName (short : Bool)
  /-- The half of the day, in capitals or not. -/
  | halfDay (capital : Bool)
  /-- A point and the fewest of 3, 6 or 9 digits that are exact; nothing for a whole second. -/
  | fraction
  /-- The first digits of the fraction, with or without the point. -/
  | fractionDigits (digits : Nat) (point : Bool)
  deriving Repr, DecidableEq

/-- The months, from January. -/
def monthNames : List String :=
  ["January", "February", "March", "April", "May", "June", "July", "August", "September",
    "October", "November", "December"]

/-- The days of the week, from Monday. -/
def weekdayNames : List String :=
  ["Monday", "Tuesday", "Wednesday", "Thursday", "Friday", "Saturday", "Sunday"]

/-- A name in full or its first three letters. -/
def nameText (names : List String) (index : Nat) (short : Bool) : List Char :=
  let name := ((names[index]?).getD "").toList
  if short then name.take 3 else name

/-- A number below 256 in two columns. The tens are one character, counted on from the digit
zero, also for more than nine of them. -/
def twoColumns (pad : Pad) (n : Nat) : List Char :=
  let ones := Text.digitChar (n % 10)
  match n / 10, pad with
  | 0, .none => [ones]
  | 0, .space => [' ', ones]
  | tens, _ => [Text.digitChar tens, ones]

/-- The sign to write before a number. -/
def signText (plus : Bool) (n : Int) : List Char :=
  if n < 0 then ['-'] else if plus then ['+'] else []

/-- A number in at least `width` columns; `plus` asks for the sign of a positive one. -/
def columns (pad : Pad) (width : Nat) (plus : Bool) (n : Int) : List Char :=
  let sign := signText plus n
  let digits := Text.natDigits n.natAbs
  match pad with
  | .none => sign ++ digits
  | .zero => sign ++ Text.padLeft (width - sign.length) '0' digits
  | .space => Text.padLeft width ' ' (sign ++ digits)

/-- A year in at least four digits, with a sign if it is below 0 or above 9999. -/
def yearText (pad : Pad) (year : Int) : List Char :=
  if 0 ≤ year ∧ year < 10000 then columns pad 4 false year else columns pad 5 true year

/-- A number kept in one byte. -/
def byte (n : Int) : Nat := (n % 256).toNat

/-- The hour on a twelve-hour clock. -/
def hourOfHalfDay (hour : Nat) : Nat :=
  if hour % 12 = 0 then 12 else hour % 12

/-- The text of a number field. -/
def Field.text (field : Field) (pad : Pad) (t : DateTime) : List Char :=
  match field with
  | .year => yearText pad t.date.year
  | .century => twoColumns pad (byte (t.date.year / 100))
  | .yearOfCentury => twoColumns pad (t.date.year % 100).toNat
  | .isoYear => yearText pad t.date.isoWeek.1
  | .isoYearOfCentury => twoColumns pad (t.date.isoWeek.1 % 100).toNat
  | .quarter => [Text.digitChar ((t.date.month - 1) / 3 + 1)]
  | .month => twoColumns pad t.date.month
  | .day => twoColumns pad t.date.day
  | .weekFromSunday => twoColumns pad (t.date.weekOfYear 6)
  | .weekFromMonday => twoColumns pad (t.date.weekOfYear 0)
  | .isoWeek => twoColumns pad t.date.isoWeek.2
  | .weekdayFromSunday => [Text.digitChar ((t.date.weekday + 1) % 7)]
  | .weekdayFromMonday => [Text.digitChar (t.date.weekday + 1)]
  | .ordinal => columns pad 3 false t.date.ordinal
  | .hour => twoColumns pad t.time.hour
  | .hour12 => twoColumns pad (hourOfHalfDay t.time.hour)
  | .minute => twoColumns pad t.time.minute
  | .second => twoColumns pad t.time.writtenSecond
  | .nanosecond => columns pad 9 false t.time.writtenNano
  | .timestamp => columns pad 9 false t.unixSeconds

/-- The fraction of a second with the fewest groups of three digits. -/
def fractionText (nano : Nat) : List Char :=
  if nano = 0 then []
  else if nano % 1000000 = 0 then '.' :: Text.zeroPadded 3 (nano / 1000000)
  else if nano % 1000 = 0 then '.' :: Text.zeroPadded 6 (nano / 1000)
  else '.' :: Text.zeroPadded 9 nano

/-- The text of an item. -/
def Item.text (item : Item) (t : DateTime) : List Char :=
  match item with
  | .literal c => [c]
  | .number field pad => field.text pad t
  | .monthName short => nameText monthNames (t.date.month - 1) short
  | .weekdayName short => nameText weekdayNames t.date.weekday short
  | .halfDay capital =>
    if t.time.hour < 12 then if capital then ['A', 'M'] else ['a', 'm']
    else if capital then ['P', 'M'] else ['p', 'm']
  | .fraction => fractionText t.time.writtenNano
  | .fractionDigits digits point =>
    let written := (Text.zeroPadded 9 t.time.writtenNano).take digits
    if point then '.' :: written else written

/-- Numbers filled with zeros. -/
def zeroed (fields : List Field) : List Item :=
  fields.map fun field => .number field .zero

/-- Put a character between the items. -/
def joined (c : Char) (items : List Item) : List Item :=
  items.intersperse (.literal c)

/-- Hour, minute and second. -/
def clock : List Item := joined ':' (zeroed [.hour, .minute, .second])

/-- The numeric field of a specifier, with its usual filling. -/
def numberOf? (c : Char) : Option (Field × Pad) :=
  match c with
  | 'C' => some (.century, .zero)
  | 'G' => some (.isoYear, .zero)
  | 'H' => some (.hour, .zero)
  | 'I' => some (.hour12, .zero)
  | 'M' => some (.minute, .zero)
  | 'S' => some (.second, .zero)
  | 'U' => some (.weekFromSunday, .zero)
  | 'V' => some (.isoWeek, .zero)
  | 'W' => some (.weekFromMonday, .zero)
  | 'Y' => some (.year, .zero)
  | 'd' => some (.day, .zero)
  | 'e' => some (.day, .space)
  | 'f' => some (.nanosecond, .zero)
  | 'g' => some (.isoYearOfCentury, .zero)
  | 'j' => some (.ordinal, .zero)
  | 'k' => some (.hour, .space)
  | 'l' => some (.hour12, .space)
  | 'm' => some (.month, .zero)
  | 'q' => some (.quarter, .none)
  | 's' => some (.timestamp, .none)
  | 'u' => some (.weekdayFromMonday, .none)
  | 'w' => some (.weekdayFromSunday, .none)
  | 'y' => some (.yearOfCentury, .zero)
  | _ => none

/-- The items of a specifier of one character that is no single number. -/
def composite? (c : Char) : Option (List Item) :=
  match c with
  | 'A' => some [.weekdayName false]
  | 'B' => some [.monthName false]
  | 'D' | 'x' => some (joined '/' (zeroed [.month, .day, .yearOfCentury]))
  | 'F' => some (joined '-' (zeroed [.year, .month, .day]))
  | 'P' => some [.halfDay false]
  | 'R' => some (joined ':' (zeroed [.hour, .minute]))
  | 'T' | 'X' => some clock
  | 'a' => some [.weekdayName true]
  | 'b' | 'h' => some [.monthName true]
  | 'c' =>
    some ([.weekdayName true, .literal ' ', .monthName true, .literal ' ', .number .day .space,
      .literal ' '] ++ clock ++ [.literal ' ', .number .year .zero])
  | 'n' => some [.literal '\n']
  | 'p' => some [.halfDay true]
  | 'r' =>
    some (joined ':' (zeroed [.hour12, .minute, .second]) ++ [.literal ' ', .halfDay true])
  | 't' => some [.literal '\t']
  | 'v' => some (joined '-' [.number .day .space, .monthName true, .number .year .zero])
  | '%' => some [.literal '%']
  | _ => none

/-- How many digits of the fraction a specifier names. -/
def fractionWidth? (c : Char) : Option Nat :=
  if c = '3' then some 3 else if c = '6' then some 6 else if c = '9' then some 9 else none

/-- The filling that a modifier asks for. -/
def padOf? (c : Char) : Option Pad :=
  if c = '-' then some .none
  else if c = '0' then some .zero
  else if c = '_' then some .space
  else none

/-- Read a specifier after its percent sign. -/
def specifier? : List Char → Option (List Item × List Char)
  | '.' :: 'f' :: rest => some ([.fraction], rest)
  | '.' :: width :: 'f' :: rest =>
    (fractionWidth? width).map fun digits => ([.fractionDigits digits true], rest)
  | c :: rest =>
    match numberOf? c, composite? c, padOf? c, fractionWidth? c with
    | some (field, pad), _, _, _ => some ([.number field pad], rest)
    | none, some items, _, _ => some (items, rest)
    | none, none, some pad, _ =>
      match rest with
      | [] => none
      | c :: rest => (numberOf? c).map fun found => ([.number found.1 pad], rest)
    | none, none, none, some digits =>
      match rest with
      | 'f' :: rest => some ([.fractionDigits digits false], rest)
      | _ => none
    | none, none, none, none => none
  | [] => none

/-- A specifier consumes at least one character. -/
theorem length_lt_of_specifier? {cs rest : List Char} {items : List Item}
    (h : specifier? cs = some (items, rest)) : rest.length < cs.length := by
  unfold specifier? at h
  split at h
  · simp only [Option.some.injEq, Prod.mk.injEq] at h
    simp only [← h.2, List.length_cons]
    omega
  · simp only [Option.map_eq_some_iff, Prod.mk.injEq] at h
    obtain ⟨_, _, _, rfl⟩ := h
    simp only [List.length_cons]
    omega
  · split at h
    · simp only [Option.some.injEq, Prod.mk.injEq] at h
      simp [← h.2]
    · simp only [Option.some.injEq, Prod.mk.injEq] at h
      simp [← h.2]
    · split at h
      · cases h
      · simp only [Option.map_eq_some_iff, Prod.mk.injEq] at h
        obtain ⟨_, _, _, rfl⟩ := h
        simp only [List.length_cons]
        omega
    · split at h
      · simp only [Option.some.injEq, Prod.mk.injEq] at h
        simp only [← h.2, List.length_cons]
        omega
      · cases h
    · cases h
  · cases h

/-- Split a pattern into items. -/
def items? (cs : List Char) : Option (List Item) :=
  match cs with
  | [] => some []
  | c :: rest =>
    if c = '%' then
      match _h : specifier? rest with
      | none => none
      | some (items, rest) => (items? rest).map fun more => items ++ more
    else (items? rest).map fun more => .literal c :: more
termination_by cs.length
decreasing_by
  · have := length_lt_of_specifier? _h
    simp
    omega
  · simp

/-- Write the items of a pattern one after another. -/
def write (items : List Item) (t : DateTime) : List Char :=
  items.flatMap (·.text t)

/-- The text of a date-time in a pattern, if every specifier of the pattern can be written. -/
def format? (pattern : String) (t : DateTime) : Option String :=
  (items? pattern.toList).map fun items => String.ofList (write items t)

/-- The year-month-day and hour-minute-second layout with a fraction as short as possible. -/
def iso : String := "%Y-%m-%dT%H:%M:%S%.f"

/-- The items of `iso`. -/
def isoItems : List Item :=
  joined '-' (zeroed [.year, .month, .day]) ++ .literal 'T' :: clock ++ [.fraction]

theorem items?_iso : items? iso.toList = some isoItems := by
  cbv

end Pattern

namespace DateTime

/-- The date-time in the layout `Pattern.iso`. -/
def isoText (t : DateTime) : String :=
  String.ofList (Pattern.write Pattern.isoItems t)

end DateTime

end LiveRecord
