import LiveRecord.Decimal.Reading
import LiveRecord.Settings
import LiveRecord.Calendar.Date

/-!
# Lexemes of TOML

Comments, keys, strings and the scalar values that are one word: truth values, numbers, dates
and times. A reader takes what it reads from the front of the text and returns the rest; it
fails by `none`. Dates and times become text in their normal form.
-/

namespace LiveRecord.Toml

/-- A reader of something from the front of a text. -/
abbrev Reader (α : Type) := List Char → Option (α × List Char)

/-- Is the character a blank within a line? -/
def isBlank (c : Char) : Bool := c == ' ' || c == '\t'

/-- Drop blanks of the line. -/
def skipBlanks (cs : List Char) : List Char := cs.dropWhile isBlank

/-- May the character stand in a comment or a string? -/
def isVisible (c : Char) : Bool := c == '\t' || (0x20 ≤ c.toNat && c.toNat != 0x7F)

/-- Drop a line break. -/
def lineBreak? : List Char → Option (List Char)
  | '\n' :: rest => some rest
  | '\r' :: '\n' :: rest => some rest
  | _ => none

/-- Drop the rest of a line, which holds nothing but blanks and a comment. -/
def lineEnd? (cs : List Char) : Option (List Char) :=
  let rest := skipBlanks cs
  let after := match rest with
    | '#' :: _ => rest.dropWhile isVisible
    | _ => rest
  if after.isEmpty then some [] else lineBreak? after

/-- Drop blanks, line breaks and comments; `inComment` tells whether a comment is open. -/
def skipLines (inComment : Bool) : List Char → Option (List Char)
  | [] => some []
  | '\n' :: rest => skipLines false rest
  | '\r' :: '\n' :: rest => skipLines false rest
  | c :: rest =>
    if inComment then if isVisible c then skipLines true rest else none
    else if isBlank c then skipLines false rest
    else if c = '#' then skipLines true rest
    else some (c :: rest)

/-! ### Strings -/

/-- The value of a hexadecimal digit. -/
def hexValue? (c : Char) : Option Nat :=
  match Text.digitValue? c with
  | some n => some n
  | none =>
    if 'a' ≤ c ∧ c ≤ 'f' then some (c.toNat - 'a'.toNat + 10)
    else if 'A' ≤ c ∧ c ≤ 'F' then some (c.toNat - 'A'.toNat + 10)
    else none

/-- The character with a code in hexadecimal digits. -/
def escapedChar? (digits : List Char) : Option Char := do
  let code ← digits.foldlM (fun n c => (hexValue? c).map (16 * n + ·)) 0
  if code.isValidChar then some (Char.ofNat code) else none

/-- The character of an escape by one letter. -/
def shortEscape? : Char → Option Char
  | 'b' => some '\x08'
  | 't' => some '\t'
  | 'n' => some '\n'
  | 'f' => some '\x0c'
  | 'r' => some '\r'
  | '"' => some '"'
  | '\\' => some '\\'
  | _ => none

/-- Take an escape after its backslash. -/
def escape? : Reader Char
  | 'u' :: rest =>
    if rest.length < 4 then none else (escapedChar? (rest.take 4)).map (·, rest.drop 4)
  | 'U' :: rest =>
    if rest.length < 8 then none else (escapedChar? (rest.take 8)).map (·, rest.drop 8)
  | c :: rest => (shortEscape? c).map (·, rest)
  | [] => none

/-- Take a string on one line up to its closing quote, `fuel` characters at most. -/
def basicString (fuel : Nat) (read : List Char) (cs : List Char) : Option (String × List Char) :=
  match fuel, cs with
  | _, '"' :: rest => some (String.ofList read.reverse, rest)
  | fuel + 1, '\\' :: rest => do
    let (c, rest) ← escape? rest
    basicString fuel (c :: read) rest
  | fuel + 1, c :: rest => if isVisible c then basicString fuel (c :: read) rest else none
  | _, _ => none

/-- The end of a string of several lines, if its three quotes come next. Two more quotes may
stand before them, and belong to the string. -/
def closing? (quote : Char) (cs : List Char) : Option (List Char × List Char) :=
  let quotes := (cs.takeWhile (· == quote)).take 5
  if 3 ≤ quotes.length then some (quotes.drop 3, cs.drop quotes.length) else none

/-- Drop blanks and line breaks. -/
def skipBreaks : List Char → List Char
  | '\n' :: rest => skipBreaks rest
  | '\r' :: '\n' :: rest => skipBreaks rest
  | c :: rest => if isBlank c then skipBreaks rest else c :: rest
  | [] => []

/-- Take a string of several lines, escapes allowed. After a backslash at the end of a line,
all blanks and line breaks are left out. -/
def basicLines (fuel : Nat) (read : List Char) (cs : List Char) : Option (String × List Char) :=
  match fuel with
  | 0 => none
  | fuel + 1 =>
    match closing? '"' cs with
    | some (quotes, rest) => some (String.ofList (read.reverse ++ quotes), rest)
    | none =>
      match lineBreak? cs with
      | some rest => basicLines fuel ('\n' :: read) rest
      | none =>
        match cs with
        | '\\' :: rest =>
          if (lineBreak? (skipBlanks rest)).isSome then
            basicLines fuel read (skipBreaks rest)
          else
            match escape? rest with
            | some (c, rest) => basicLines fuel (c :: read) rest
            | none => none
        | c :: rest => if isVisible c then basicLines fuel (c :: read) rest else none
        | [] => none

/-- Take a literal string of several lines. -/
def literalLines (fuel : Nat) (read : List Char) (cs : List Char) : Option (String × List Char) :=
  match fuel with
  | 0 => none
  | fuel + 1 =>
    match closing? '\'' cs with
    | some (quotes, rest) => some (String.ofList (read.reverse ++ quotes), rest)
    | none =>
      match lineBreak? cs with
      | some rest => literalLines fuel ('\n' :: read) rest
      | none =>
        match cs with
        | c :: rest => if isVisible c then literalLines fuel (c :: read) rest else none
        | [] => none

/-- Take a literal string on one line, after its opening quote. -/
def literalString (cs : List Char) : Option (String × List Char) :=
  let content := cs.takeWhile fun c => isVisible c && c != '\''
  match cs.drop content.length with
  | '\'' :: rest => some (String.ofList content, rest)
  | _ => none

/-- Drop the line break that may follow three opening quotes. -/
def afterOpening (cs : List Char) : List Char := (lineBreak? cs).getD cs

/-- Take a string of any of the four forms. -/
def string? : Reader String
  | '"' :: '"' :: '"' :: rest =>
    let content := afterOpening rest
    basicLines (content.length + 1) [] content
  | '"' :: rest => basicString rest.length [] rest
  | '\'' :: '\'' :: '\'' :: rest =>
    let content := afterOpening rest
    literalLines (content.length + 1) [] content
  | '\'' :: rest => literalString rest
  | _ => none

/-! ### Keys -/

/-- May the character stand in a key without quotes? -/
def isKeyChar (c : Char) : Bool := c.isAlphanum || c == '_' || c == '-'

/-- Take one part of a key. -/
def keyPart? (cs : List Char) : Option (String × List Char) :=
  match cs with
  | '"' :: rest => basicString rest.length [] rest
  | '\'' :: rest => literalString rest
  | _ =>
    let name := cs.takeWhile isKeyChar
    if name.isEmpty then none else some (String.ofList name, cs.drop name.length)

/-- How many parts a key may have, and how deep values may be nested. -/
def maxDepth : Nat := 79

/-- Take a key, its parts joined by points, `most` parts at most. -/
def key? (most : Nat) (cs : List Char) : Option (List String × List Char) :=
  match most with
  | 0 => none
  | most + 1 => do
    let (part, rest) ← keyPart? (skipBlanks cs)
    match skipBlanks rest with
    | '.' :: more =>
      let (parts, rest) ← key? most more
      return (part :: parts, rest)
    | rest => return ([part], rest)

/-! ### Words -/

/-- May the character stand in a number, a date or a word? -/
def isWordChar (c : Char) : Bool :=
  c.isAlphanum || c == '_' || c == '+' || c == '-' || c == '.' || c == ':'

/-- The digits of a run in which underscores may stand between two digits. -/
def digitRun? (isDigit : Char → Bool) : List Char → Option (List Char)
  | [c] => if isDigit c then some [c] else none
  | c :: '_' :: rest => if isDigit c then (digitRun? isDigit rest).map (c :: ·) else none
  | c :: rest => if isDigit c then (digitRun? isDigit rest).map (c :: ·) else none
  | [] => none

/-- The digits of a run that does not start with a needless zero. -/
def wholeRun? (cs : List Char) : Option (List Char) := do
  let digits ← digitRun? Char.isDigit cs
  if digits.head? = some '0' ∧ digits.length ≠ 1 then none else some digits

/-- The sign in front of a number: is it negative? -/
def signOf : List Char → Bool × List Char
  | '-' :: rest => (true, rest)
  | '+' :: rest => (false, rest)
  | cs => (false, cs)

/-- The number with digits to some base. -/
def based? (base : Nat) (cs : List Char) : Option Nat := do
  let isDigit := fun c => (hexValue? c).any (· < base)
  let digits ← digitRun? isDigit cs
  digits.foldlM (fun n c => (hexValue? c).map (base * n + ·)) 0

/-- The integer that a word spells. -/
def integer? (cs : List Char) : Option Int :=
  match cs with
  | '0' :: 'x' :: rest => (based? 16 rest).map Int.ofNat
  | '0' :: 'o' :: rest => (based? 8 rest).map Int.ofNat
  | '0' :: 'b' :: rest => (based? 2 rest).map Int.ofNat
  | _ => do
    let (negative, rest) := signOf cs
    let n ← wholeRun? rest >>= based? 10
    return if negative then -Int.ofNat n else Int.ofNat n

/-- Split at the first character that meets a condition. -/
def splitAtFirst (p : Char → Bool) (cs : List Char) : List Char × Option (List Char) :=
  match cs.dropWhile fun c => !p c with
  | [] => (cs, none)
  | _ :: rest => (cs.takeWhile fun c => !p c, some rest)

/-- The digits of an exponent with its mark and sign. -/
def exponentText? : Option (List Char) → Option (List Char)
  | none => some []
  | some cs => do
    let (negative, rest) := signOf cs
    let digits ← digitRun? Char.isDigit rest
    return 'e' :: (if negative then ['-'] else []) ++ digits

/-- The digits of a fraction with its point. -/
def fractionText? : Option (List Char) → Option (List Char)
  | none => some []
  | some cs => (digitRun? Char.isDigit cs).map ('.' :: ·)

/-- The binary64 number that a word spells: it has a fraction or an exponent, or is one of the
two special words. -/
def float? (cs : List Char) : Option Float := do
  let (negative, magnitude) := signOf cs
  let sign := if negative then ['-'] else []
  if magnitude = ['i', 'n', 'f'] ∨ magnitude = ['n', 'a', 'n'] then
    (Decimal.readFloat (String.ofList (sign ++ magnitude))).toOption
  else
    let (mantissa, exponent) := splitAtFirst (fun c => c == 'e' || c == 'E') magnitude
    let (whole, fraction) := splitAtFirst (· == '.') mantissa
    if exponent.isNone ∧ fraction.isNone then none
    else
      let text := sign ++ (← wholeRun? whole) ++ (← fractionText? fraction) ++
        (← exponentText? exponent)
      let x ← (Decimal.readFloat (String.ofList text)).toOption
      if x.isInf ∧ 0 < x then none else some x

/-- The number that a run of exactly so many digits spells. -/
def fixedNumber? (width : Nat) (cs : List Char) : Option Nat :=
  if cs.length = width ∧ cs.all Char.isDigit then some (Text.digitsValue cs 0) else none

/-- Split at every occurrence of a character. -/
def splitAll (separator : Char) (cs : List Char) : List (List Char) :=
  cs.foldr (fun c parts =>
    if c = separator then [] :: parts
    else match parts with
      | part :: rest => (c :: part) :: rest
      | [] => [[c]]) [[]]

/-- A date in its normal form. -/
def dateText? (cs : List Char) : Option (List Char) :=
  match splitAll '-' cs with
  | [year, month, day] => do
    let y ← fixedNumber? 4 year
    let m ← fixedNumber? 2 month
    let d ← fixedNumber? 2 day
    if (Date.ofFields? y m d).isSome then some cs else none
  | _ => none

/-- The fraction of a second in its normal form: nine digits at most, no zeros at the end. -/
def secondFraction? : Option (List Char) → Option (List Char)
  | none => some []
  | some digits =>
    if digits.isEmpty ∨ ¬ digits.all Char.isDigit then none
    else
      let kept := ((digits.take 9).reverse.dropWhile (· == '0')).reverse
      some (if kept.isEmpty then [] else '.' :: kept)

/-- How far the numbers in a date-time may go. -/
structure TimeLimits where
  hour : Nat
  offsetHour : Nat
  offsetMinute : Nat

/-- The limits of a date-time that is a word. -/
def TimeLimits.word : TimeLimits := ⟨23, 23, 59⟩

/-- The limits of a date-time that is given as a string. Only the sum of an offset counts. -/
def TimeLimits.string : TimeLimits := ⟨24, 99, 99⟩

/-- A time of day in its normal form. -/
def timeText? (limits : TimeLimits) (cs : List Char) : Option (List Char) :=
  let (clock, fraction) := splitAtFirst (· == '.') cs
  match splitAll ':' clock with
  | [hour, minute, second] => do
    let h ← fixedNumber? 2 hour
    let m ← fixedNumber? 2 minute
    let s ← fixedNumber? 2 second
    let tail ← secondFraction? fraction
    if h ≤ limits.hour ∧ m ≤ 59 ∧ s ≤ 60 then some (clock ++ tail) else none
  | _ => none

/-- An offset from universal time in its normal form. It is a day at most. -/
def offsetText? (limits : TimeLimits) (sign : Char) (cs : List Char) : Option (List Char) :=
  match splitAll ':' cs with
  | [hour, minute] => do
    let h ← fixedNumber? 2 hour
    let m ← fixedNumber? 2 minute
    let total := 60 * h + m
    if h ≤ limits.offsetHour ∧ m ≤ limits.offsetMinute ∧ total ≤ 24 * 60 then
      some ((if total = 0 then '+' else sign) ::
        (Text.zeroPadded 2 (total / 60) ++ ':' :: Text.zeroPadded 2 (total % 60)))
    else none
  | _ => none

/-- A time of day with an offset that may follow it, in its normal form. -/
def zonedTimeText? (limits : TimeLimits) (cs : List Char) : Option (List Char) :=
  match cs.reverse with
  | 'Z' :: rest | 'z' :: rest => (timeText? limits rest.reverse).map (· ++ ['Z'])
  | _ =>
    let clock := cs.takeWhile fun c => c != '+' && c != '-'
    match cs.drop clock.length with
    | sign :: offset => do
      return (← timeText? limits clock) ++ (← offsetText? limits sign offset)
    | [] => timeText? limits clock

/-- A date, a time of day, or both, in normal form. -/
def dateTimeText? (limits : TimeLimits) (cs : List Char) : Option (List Char) :=
  match cs.drop 10 with
  | [] => (dateText? cs).or (timeText? limits cs)
  | c :: time =>
    if c = 'T' ∨ c = 't' ∨ c = ' ' then do
      return (← dateText? (cs.take 10)) ++ 'T' :: (← zonedTimeText? limits time)
    else timeText? limits cs

/-- A value that is no collection. -/
inductive Scalar where
  | string (s : String)
  /-- A date, a time of day or both, in normal form. -/
  | dateTime (text : String)
  | bool (b : Bool)
  | int (n : Int64)
  | float (x : Float)

/-- The setting that a scalar stands for. -/
def Scalar.setting : Scalar → Setting
  | .string s => .text s
  | .dateTime text => .text text
  | .bool b => .bool b
  | .int n => .int n
  | .float x => .float x

/-- The scalar that a word spells. -/
def scalar? (word : List Char) : Option Scalar :=
  if word = ['t', 'r', 'u', 'e'] then some (.bool true)
  else if word = ['f', 'a', 'l', 's', 'e'] then some (.bool false)
  else
    match dateTimeText? .word word with
    | some text => some (.dateTime (String.ofList text))
    | none =>
      match integer? word with
      | some n => (Integer.toInt64? n).map .int
      | none => (float? word).map .float

/-- Take a word. A date may be followed by a blank and a time of day. -/
def word? : Reader Scalar := fun cs =>
  let word := cs.takeWhile isWordChar
  let rest := cs.drop word.length
  match rest with
  | ' ' :: c :: more =>
    if (dateText? word).isSome ∧ c.isDigit then
      let time := (c :: more).takeWhile isWordChar
      (scalar? (word ++ ' ' :: time)).map (·, (c :: more).drop time.length)
    else (scalar? word).map (·, rest)
  | _ => (scalar? word).map (·, rest)

end LiveRecord.Toml
