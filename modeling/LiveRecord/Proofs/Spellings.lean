import LiveRecord.Proofs.DayNumbers
import LiveRecord.Proofs.IsoText
import LiveRecord.Proofs.Specimen

/-!
# The spellings of one instant

A date-time can be written with the letter T or a blank before the time, with any number of digits
after the point, and with its offset from UTC in several forms. The cascade of spellings reads what
is written with a blank as the local time less its offset, and the same text with the letter T
likewise, with one exception: an offset without a colon is read after a blank only.
-/

namespace LiveRecord

namespace Text

/-- Nothing is dropped behind what ends in visible characters. -/
theorem trimEnd_append {cs ds : List Char} (visible : ∀ c ∈ ds, isBlank c = false)
    (something : ds ≠ []) : trimEnd (cs ++ ds) = cs ++ ds := by
  obtain ⟨c, rest, backwards⟩ := List.exists_cons_of_ne_nil (List.reverse_ne_nil_iff.2 something)
  have last : isBlank c = false := by
    refine visible c (List.mem_reverse.1 ?_)
    rw [backwards]
    exact List.mem_cons_self
  rw [trimEnd, List.reverse_append, backwards, List.cons_append, List.dropWhile_cons, last,
    if_neg Bool.false_ne_true, ← List.cons_append, ← backwards, ← List.reverse_append,
    List.reverse_reverse]

theorem digitsValue_zeros (k acc : Nat) :
    digitsValue (List.replicate k '0') acc = acc * 10 ^ k := by
  induction k generalizing acc with
  | zero => simp [digitsValue]
  | succ k ih =>
      have next : digitsValue (List.replicate (k + 1) '0') acc =
          digitsValue (List.replicate k '0') (10 * acc) := rfl
      rw [next, ih, Nat.pow_succ, Nat.mul_comm 10 acc, Nat.mul_assoc, Nat.mul_comm 10]

end Text

/-!
## What is written
-/

/-- An offset from UTC in hours and minutes. -/
structure UtcOffset where
  /-- Is the local time behind? -/
  behind : Bool
  hours : Nat
  minutes : Nat
  hours_lt : hours < 24
  minutes_lt : minutes < 60

/-- What is written after a time. -/
inductive Zone where
  /-- The offset is not written, the time is taken for UTC. -/
  | unsaid
  /-- The letter Z. -/
  | zulu
  /-- A sign, two digits, a colon and two digits. -/
  | parted (offset : UtcOffset)
  /-- A sign and four digits. -/
  | compact (offset : UtcOffset)

namespace UtcOffset

/-- The minutes that the local time is ahead. -/
def ahead (o : UtcOffset) : Int :=
  (if o.behind then -1 else 1) * (o.hours * 60 + o.minutes : Nat)

/-- The sign, and the hours and minutes with something between them. -/
def text (o : UtcOffset) (between : List Char) : List Char :=
  (if o.behind then '-' else '+') ::
    (Text.zeroPadded 2 o.hours ++ (between ++ Text.zeroPadded 2 o.minutes))

theorem ahead_mem (o : UtcOffset) : -1440 < o.ahead ∧ o.ahead < 1440 := by
  have hours := o.hours_lt
  have minutes := o.minutes_lt
  rw [ahead]
  split <;> omega

end UtcOffset

namespace Zone

/-- The minutes that the local time is ahead. -/
def ahead : Zone → Int
  | unsaid | zulu => 0
  | parted o | compact o => o.ahead

def text : Zone → List Char
  | unsaid => []
  | zulu => ['Z']
  | parted o => o.text [':']
  | compact o => o.text []

/-- Is the offset written without a colon? -/
def isCompact : Zone → Bool
  | compact _ => true
  | unsaid | zulu | parted _ => false

theorem ahead_mem (zone : Zone) : -1440 < zone.ahead ∧ zone.ahead < 1440 := by
  cases zone with
  | unsaid | zulu => decide
  | parted o | compact o => exact o.ahead_mem

end Zone

/-- The nanoseconds that the digits after a point stand for: the first nine, or fewer with zeros
after them. -/
def fractionNano (digits : List Char) : Nat :=
  Text.digitsValue ((digits ++ List.replicate 9 '0').take 9) 0

/-- A local date-time whose year has four digits, and the digits in which the fraction of its second
is written. -/
structure Written where
  civil : DateTime
  /-- The digits after the point; without any there is no point. -/
  digits : List Char
  year_mem : 0 ≤ civil.date.year ∧ civil.date.year < 10000
  digits_mem : ∀ c ∈ digits, c.isDigit = true
  nano_eq : civil.time.writtenNano = fractionNano digits

namespace Written

variable (w : Written)

def dateText : List Char :=
  Text.zeroPadded 4 w.civil.date.year.natAbs ++ '-' :: (Text.zeroPadded 2 w.civil.date.month ++
    '-' :: Text.zeroPadded 2 w.civil.date.day)

def fractionText : List Char := if w.digits = [] then [] else '.' :: w.digits

def timeText : List Char :=
  Text.zeroPadded 2 w.civil.time.hour ++ ':' :: (Text.zeroPadded 2 w.civil.time.minute ++
    ':' :: (Text.zeroPadded 2 w.civil.time.writtenSecond ++ w.fractionText))

/-- Date, separator, time and zone. -/
def chars (separator : Char) (zone : Zone) : List Char :=
  w.dateText ++ separator :: (w.timeText ++ zone.text)

def text (separator : Char) (zone : Zone) : String := String.ofList (w.chars separator zone)

end Written

/-!
## Reading the parts
-/

theorem fractionNano_eq (digits : List Char) : fractionNano digits =
    Text.digitsValue (digits.take 9) 0 * 10 ^ (9 - (digits.take 9).length) := by
  have zeros : min (9 - digits.length) 9 = 9 - (digits.take 9).length := by
    rw [List.length_take]
    omega
  rw [fractionNano, List.take_append, List.take_replicate, Text.digitsValue_append,
    Text.digitsValue_zeros, zeros]

/-- A date-time with all nine digits of the fraction of its second. -/
def Written.precise (t : DateTime) (years : 0 ≤ t.date.year ∧ t.date.year < 10000) : Written where
  civil := t
  digits := Text.zeroPadded 9 t.time.writtenNano
  year_mem := years
  digits_mem _ := Text.isDigit_of_mem_zeroPadded
  nano_eq := by
    have length : (Text.zeroPadded 9 t.time.writtenNano).length = 9 :=
      Text.length_zeroPadded (by decide) t.time.writtenNano_lt
    rw [fractionNano_eq, List.take_of_length_le (Nat.le_of_eq length), length,
      Text.digitsValue_zeroPadded, Nat.sub_self, Nat.pow_zero, Nat.mul_one]

namespace Spelling

variable {steps : List Step} {found : Fields} {cs : List Char}

/-- A fraction is read to the end of its digits. -/
theorem nano?_append {digits : List Char} (something : digits ≠ [])
    (all : ∀ c ∈ digits, c.isDigit = true) (ended : cs.takeWhile Char.isDigit = []) :
    nano? (digits ++ cs) = some (fractionNano digits, cs) := by
  have run : (digits ++ cs).takeWhile Char.isDigit = digits := by
    rw [List.takeWhile_append_of_pos all, ended, List.append_nil]
  have rest : (digits ++ cs).dropWhile Char.isDigit = cs := by
    have parts := List.takeWhile_append_dropWhile (p := Char.isDigit) (l := digits ++ cs)
    rw [run] at parts
    exact List.append_cancel_left parts
  have first : (digits.take 9).isEmpty = false := by
    cases digits with
    | nil => exact absurd rfl something
    | cons c digits => rfl
  rw [nano?, run, rest, first, if_neg Bool.false_ne_true, fractionNano_eq]
  rfl

/-- A year of four digits is read up to the sign after it. -/
theorem run_year_of_short {year : Int} (short : 0 ≤ year ∧ year < 10000) :
    run (.number .year 4 :: steps) found (Text.zeroPadded 4 year.natAbs ++ '-' :: cs) =
      run steps (found.put .year year) ('-' :: cs) := by
  rw [← Pattern.yearText_of_short short, run_year]

/-- After a blank, no digit comes for the hour. -/
theorem run_hour_letter :
    run (.blanks :: .number .hour 2 :: steps) found ('T' :: cs) = none := by
  have visible : Text.trimStart ('T' :: cs) = 'T' :: cs := Text.trimStart_cons cs (by decide)
  rw [run, Step.run, visible, Option.bind_some, run, Step.run, visible]
  rfl

/-- Blanks are dropped before a number. -/
theorem run_blank_zeroPadded {n : Nat} :
    run (.blanks :: steps) found (' ' :: (Text.zeroPadded 2 n ++ cs)) =
      run steps found (Text.zeroPadded 2 n ++ cs) := by
  have dropped : Text.trimStart (' ' :: (Text.zeroPadded 2 n ++ cs)) =
      Text.zeroPadded 2 n ++ cs := trimStart_zeroPadded (by decide)
  rw [run, Step.run, dropped]
  rfl

end Spelling

namespace UtcOffset

open Spelling

variable (o : UtcOffset)

theorem two_columns : o.hours < 10 ^ 2 ∧ o.minutes < 10 ^ 2 := by
  have hours := o.hours_lt
  have minutes := o.minutes_lt
  exact ⟨by omega, by omega⟩

/-- The minutes start with a digit. -/
theorem exists_minutes_eq_cons :
    ∃ c cs, Text.zeroPadded 2 o.minutes = c :: cs ∧ c.isDigit = true :=
  exists_zeroPadded_eq_cons (by decide)

theorem offsetSign?_text (between : List Char) : offsetSign? (o.text between) =
    some (if o.behind then -1 else 1,
      Text.zeroPadded 2 o.hours ++ (between ++ Text.zeroPadded 2 o.minutes)) := by
  rw [text]
  cases o.behind with
  | true => rfl
  | false => rfl

/-- An offset is read if what stands between its hours and its minutes is dropped. -/
theorem signedOffset?_text {form : OffsetForm} {between : List Char}
    (dropped : separator? form (between ++ Text.zeroPadded 2 o.minutes) =
      some (Text.zeroPadded 2 o.minutes)) :
    signedOffset? form (o.text between) = some (o.ahead, []) := by
  obtain ⟨hours, minutes⟩ := o.two_columns
  have read : digits? 2 2 (Text.zeroPadded 2 o.minutes ++ []) = some (o.minutes, []) :=
    digits?_zeroPadded (Nat.le_refl 2) (by decide) minutes
  rw [List.append_nil] at read
  rw [signedOffset?, offsetSign?_text]
  simp only [bind, Option.bind_some, digits?_zeroPadded (Nat.le_refl 2) (by decide) hours, dropped,
    read]
  rw [if_pos ⟨o.minutes_lt, o.hours_lt⟩]
  rfl

/-- The strict form reads a colon, and nothing else. -/
theorem strict_offset?_text (between : List Char) :
    offset? .strict (o.text between) = signedOffset? .strict (o.text between) := by
  rw [text]
  cases o.behind with
  | true => rfl
  | false => rfl

theorem strict_offset?_parted : offset? .strict (o.text [':']) = some (o.ahead, []) := by
  rw [strict_offset?_text]
  exact o.signedOffset?_text rfl

/-- The strict form finds a digit where the colon must be. -/
theorem strict_offset?_compact : offset? .strict (o.text []) = none := by
  obtain ⟨c, rest, minutes, digit⟩ := o.exists_minutes_eq_cons
  have refused : separator? .strict (c :: rest) = none := by
    have other : c ≠ ':' := by
      rintro rfl
      cases digit
    simp [separator?, other]
  rw [strict_offset?_text, signedOffset?, offsetSign?_text, List.nil_append, minutes]
  simp only [bind, Option.bind_some, digits?_zeroPadded (Nat.le_refl 2) (by decide) o.two_columns.1,
    refused, Option.bind_none]

/-- The loose form needs nothing between the hours and the minutes. -/
theorem loose_offset?_compact : offset? .loose (o.text []) = some (o.ahead, []) := by
  have visible : Text.trimStart (o.text []) = o.text [] := by
    rw [text]
    split
    · exact Text.trimStart_cons _ (by decide)
    · exact Text.trimStart_cons _ (by decide)
  rw [offset?, visible]
  refine o.signedOffset?_text ?_
  obtain ⟨c, rest, minutes, digit⟩ := o.exists_minutes_eq_cons
  have kept : (c == ':' || Text.isBlank c) = false := by
    rw [Text.isBlank_of_isDigit digit, Bool.or_false, beq_eq_false_iff_ne]
    rintro rfl
    cases digit
  rw [List.nil_append, minutes, separator?, List.dropWhile_cons, kept, if_neg Bool.false_ne_true]

end UtcOffset

/-- What is written after a time goes on neither with a digit nor with a point. -/
theorem Zone.text_stops (zone : Zone) :
    zone.text.takeWhile Char.isDigit = [] ∧ zone.text.head? ≠ some '.' := by
  have offset (o : UtcOffset) (between : List Char) :
      (o.text between).takeWhile Char.isDigit = [] ∧ (o.text between).head? ≠ some '.' := by
    rw [UtcOffset.text]
    cases o.behind with
    | true => exact ⟨rfl, by simp⟩
    | false => exact ⟨rfl, by simp⟩
  cases zone with
  | unsaid => exact ⟨rfl, by decide⟩
  | zulu => exact ⟨rfl, by decide⟩
  | parted o => exact offset o [':']
  | compact o => exact offset o []

/-!
## Reading a date-time
-/

namespace Written

open Spelling DateTime

variable (w : Written)

/-- What is found in the date, in the time and in an offset. -/
def fields (offset : Option Int) : Fields where
  year := some w.civil.date.year
  month := some w.civil.date.month
  day := some w.civil.date.day
  hour := some w.civil.time.hour
  minute := some w.civil.time.minute
  second := some w.civil.time.writtenSecond
  nano := if w.digits = [] then none else some (fractionNano w.digits)
  offset := offset

/-- What is found in the date. -/
def dateFields : Fields :=
  { Fields.unknown with
    year := some w.civil.date.year
    month := some w.civil.date.month
    day := some w.civil.date.day }

theorem dateTime?_fields (offset : Option Int) : (w.fields offset).dateTime? =
    match offset with
    | none => some w.civil
    | some minutes => w.civil.minusOffset? minutes := by
  have date : (w.fields offset).date? = some w.civil.date := Date.ofFields?_self w.civil.date
  have nano : (w.fields offset).nano.getD 0 = w.civil.time.writtenNano := by
    rw [w.nano_eq, fields]
    cases w.digits with
    | nil => rfl
    | cons c digits => rfl
  have time : (w.fields offset).time? = some w.civil.time :=
    w.civil.time.time?_written rfl rfl rfl nano
  simp only [Fields.dateTime?, date, time, bind, Option.bind_some]
  rfl

theorem run_fractionText {steps : List Step} {found : Fields} {cs : List Char}
    (unread : found.nano = none) (ended : cs.takeWhile Char.isDigit = [])
    (pointless : cs.head? ≠ some '.') :
    run (.fraction :: steps) found (w.fractionText ++ cs) =
      run steps { found with nano := (w.fields none).nano } cs := by
  rw [fractionText, fields]
  split
  · next none =>
    have kept : Step.fraction.run found cs = some (found, cs) := by
      rw [Step.run.eq_def]
      dsimp only
      split
      · exact absurd rfl pointless
      · rfl
    rw [List.nil_append, run, kept, ← unread]
    rfl
  · next something =>
    rw [List.cons_append, run, Step.run, nano?_append something w.digits_mem ended]
    rfl

variable {steps : List Step} {separator : Char} (zone : Zone)

theorem run_looseDate (steps : List Step) (cs : List Char) :
    run (looseDate ++ steps) .unknown (w.dateText ++ cs) = run steps w.dateFields cs := by
  obtain ⟨month, day, -⟩ := w.civil.two_columns
  simp only [looseDate, dateText, List.cons_append, List.nil_append, List.append_assoc]
  rw [run_year_of_short w.year_mem, run_literal, run_number (by decide) (by decide) month,
    run_literal, run_number (by decide) (by decide) day]
  rfl

theorem run_looseTime (steps : List Step) :
    run (looseTime ++ steps) w.dateFields (w.timeText ++ zone.text) =
      run steps (w.fields none) zone.text := by
  obtain ⟨-, -, hour, minute, second⟩ := w.civil.two_columns
  obtain ⟨ended, pointless⟩ := zone.text_stops
  simp only [looseTime, looseMinutes, timeText, List.cons_append, List.nil_append,
    List.append_assoc]
  rw [run_number (by decide) (by decide) hour, run_literal,
    run_number (by decide) (by decide) minute, run_literal,
    run_number (by decide) (by decide) second, w.run_fractionText rfl ended pointless]
  rfl

/-- A time with seconds is not used up by the spelling without. -/
theorem run_looseMinutes : run looseMinutes w.dateFields (w.timeText ++ zone.text) = none := by
  obtain ⟨-, -, hour, minute, -⟩ := w.civil.two_columns
  simp only [looseMinutes, timeText, List.cons_append, List.append_assoc]
  rw [run_number (by decide) (by decide) hour, run_literal,
    run_number (by decide) (by decide) minute]
  rfl

theorem run_stamp (listed : separator = 'T' ∨ separator = ' ') :
    run stamp .unknown (w.dateText ++ separator :: (w.timeText ++ zone.text)) =
      run [.offset .strict] (w.fields none) zone.text := by
  obtain ⟨month, day, hour, minute, second⟩ := w.civil.two_columns
  obtain ⟨ended, pointless⟩ := zone.text_stops
  have allowed : ['t', 'T', ' '].contains separator = true := by
    rcases listed with rfl | rfl <;> decide
  have year := w.year_mem
  simp only [stamp, dateText, timeText, List.cons_append, List.append_assoc]
  rw [run_exact (by decide) (by omega), run_literal, run_exact (by decide) month, run_literal,
    run_exact (by decide) day, run_oneOf allowed, run_exact (by decide) hour, run_literal,
    run_exact (by decide) minute, run_literal, run_exact (by decide) second,
    w.run_fractionText rfl ended pointless, Int.natAbs_of_nonneg year.1]
  rfl

/-- The strict spelling reads an offset with a colon, and the letter Z. -/
theorem dateTime?_stamp (listed : separator = 'T' ∨ separator = ' ') :
    dateTime? stamp (w.chars separator zone) = match zone with
      | .unsaid | .compact _ => none
      | .zulu => w.civil.minusOffset? 0
      | .parted o => w.civil.minusOffset? o.ahead := by
  rw [dateTime?, chars, w.run_stamp zone listed, run, Step.run]
  cases zone with
  | unsaid => rfl
  | zulu => exact w.dateTime?_fields (some 0)
  | parted o =>
      rw [Zone.text, o.strict_offset?_parted]
      exact w.dateTime?_fields (some o.ahead)
  | compact o =>
      rw [Zone.text, o.strict_offset?_compact]
      rfl

/-- After the letter, the spellings with the letter go on with the time. -/
theorem run_letter : run (looseDate ++ .literal 'T' :: steps) .unknown (w.chars 'T' zone) =
    run steps w.dateFields (w.timeText ++ zone.text) := by
  rw [chars, run_looseDate, run_literal]

/-- After a blank, the spellings with blanks go on with the time. -/
theorem run_blank : run (looseDate ++ .blanks :: steps) .unknown (w.chars ' ' zone) =
    run steps w.dateFields (w.timeText ++ zone.text) := by
  rw [chars, run_looseDate, timeText, List.append_assoc, run_blank_zeroPadded]

/-- A blank is not the letter. -/
theorem dateTime?_letter_blank (steps : List Step) :
    dateTime? (looseDate ++ .literal 'T' :: steps) (w.chars ' ' zone) = none := by
  rw [dateTime?, chars, run_looseDate]
  rfl

/-- The letter is no hour. -/
theorem dateTime?_blank_letter (steps : List Step)
    (hour : steps.head? = some (.number .hour 2)) :
    dateTime? (looseDate ++ .blanks :: steps) (w.chars 'T' zone) = none := by
  obtain ⟨rest, rfl⟩ := List.head?_eq_some_iff.1 hour
  rw [dateTime?, chars, run_looseDate, run_hour_letter]
  rfl

/-- A local time is read if nothing comes after it. -/
theorem run_local : run looseTime w.dateFields (w.timeText ++ zone.text) =
    if zone.text.isEmpty then some (w.fields none) else none := by
  have read := w.run_looseTime zone []
  rw [List.append_nil] at read
  rw [read, run]

/-- A time with an offset that has no colon is read by the loose form. -/
theorem run_offset (o : UtcOffset) : run (looseTime ++ [.offset .loose]) w.dateFields
    (w.timeText ++ (Zone.compact o).text) = some (w.fields (some o.ahead)) := by
  rw [run_looseTime, run, Step.run, Zone.text, o.loose_offset?_compact]
  rfl

/-- There is more than a date. -/
theorem read?_date : Date.read? (w.chars separator zone) = none := by
  have read := w.run_looseDate [] (separator :: (w.timeText ++ zone.text))
  rw [List.append_nil] at read
  rw [Date.read?, chars, read]
  rfl

/-- A local time is read after the letter and after a blank. -/
theorem read?_unsaid (listed : separator = 'T' ∨ separator = ' ') :
    read? (w.chars separator .unsaid) = some w.civil := by
  have strict := w.dateTime?_stamp .unsaid listed
  have made := w.dateTime?_fields none
  rcases listed with rfl | rfl
  · have letter : dateTime? (looseDate ++ .literal 'T' :: looseTime) (w.chars 'T' .unsaid) =
        some w.civil := by
      rw [dateTime?, run_letter, run_local]
      exact made
    simp only [read?, cascade, List.findSome?_cons, strict, letter]
  · have letter := w.dateTime?_letter_blank .unsaid looseTime
    have blank : dateTime? (looseDate ++ .blanks :: looseTime) (w.chars ' ' .unsaid) =
        some w.civil := by
      rw [dateTime?, run_blank, run_local]
      exact made
    simp only [read?, cascade, List.findSome?_cons, strict, letter, blank]

/-- An offset without a colon is read after a blank. -/
theorem read?_compact_blank (o : UtcOffset) {u : DateTime}
    (utc : w.civil.minusOffset? o.ahead = some u) :
    read? (w.chars ' ' (.compact o)) = some u := by
  have strict := w.dateTime?_stamp (.compact o) (.inr rfl)
  have letter := w.dateTime?_letter_blank (.compact o)
  have blank : dateTime? (looseDate ++ .blanks :: looseTime) (w.chars ' ' (.compact o)) = none := by
    rw [dateTime?, run_blank, run_local]
    rfl
  have minutes :
      dateTime? (looseDate ++ .blanks :: looseMinutes) (w.chars ' ' (.compact o)) = none := by
    rw [dateTime?, run_blank, run_looseMinutes]
    rfl
  have offset : dateTime? (looseDate ++ .blanks :: looseTime ++ [.offset .loose])
      (w.chars ' ' (.compact o)) = some u := by
    rw [List.append_assoc, List.cons_append, dateTime?, run_blank, run_offset, ← utc]
    exact w.dateTime?_fields (some o.ahead)
  simp only [read?, cascade, List.findSome?_cons, strict, letter, blank, minutes, offset]

/-- An offset without a colon is not read after the letter. -/
theorem read?_compact_letter (o : UtcOffset) : read? (w.chars 'T' (.compact o)) = none := by
  have strict := w.dateTime?_stamp (.compact o) (.inl rfl)
  have letter : dateTime? (looseDate ++ .literal 'T' :: looseTime) (w.chars 'T' (.compact o)) =
      none := by
    rw [dateTime?, run_letter, run_local]
    rfl
  have minutes :
      dateTime? (looseDate ++ .literal 'T' :: looseMinutes) (w.chars 'T' (.compact o)) = none := by
    rw [dateTime?, run_letter, run_looseMinutes]
    rfl
  have blank := w.dateTime?_blank_letter (.compact o) looseTime rfl
  have blankMinutes := w.dateTime?_blank_letter (.compact o) looseMinutes rfl
  have offset := w.dateTime?_blank_letter (.compact o) (looseTime ++ [.offset .loose]) rfl
  rw [← List.cons_append, ← List.append_assoc] at offset
  simp only [read?, cascade, List.findSome?_cons, List.findSome?_nil, strict, letter, minutes,
    blank, blankMinutes, offset, read?_date, Option.map_none]

theorem years : Calendar.firstYear < w.civil.date.year ∧
    w.civil.date.year < Calendar.lastYear := by
  have year := w.year_mem
  rw [Calendar.firstYear, Calendar.lastYear]
  omega

/-- What is written is read as the local time less its offset, unless an offset without a colon
comes with the letter. -/
theorem read?_chars (listed : separator = 'T' ∨ separator = ' ')
    (fits : zone.isCompact = true → separator = ' ') {u : DateTime}
    (utc : w.civil.minusOffset? zone.ahead = some u) :
    read? (w.chars separator zone) = some u := by
  have strict := w.dateTime?_stamp zone listed
  cases zone with
  | unsaid => rw [w.read?_unsaid listed, ← w.civil.minusOffset?_zero w.years, ← utc, Zone.ahead]
  | zulu | parted =>
      have made : dateTime? stamp (w.chars separator _) = some u := strict.trans utc
      simp only [read?, cascade, List.findSome?_cons, made]
  | compact o =>
      obtain rfl := fits rfl
      exact w.read?_compact_blank o utc

/-- The time and what comes after it are visible. -/
theorem visible_timeText {c : Char} (mem : c ∈ w.timeText ++ zone.text) :
    Text.isBlank c = false := by
  have digits {width n : Nat} : ∀ c ∈ Text.zeroPadded width n, Text.isBlank c = false :=
    fun c mem => Text.isBlank_of_isDigit (Text.isDigit_of_mem_zeroPadded mem)
  have fraction : ∀ c ∈ w.fractionText, Text.isBlank c = false := by
    rw [fractionText]
    split
    · exact List.forall_mem_nil _
    · exact List.forall_mem_cons.2 ⟨by decide,
        fun c mem => Text.isBlank_of_isDigit (w.digits_mem c mem)⟩
  have offset (o : UtcOffset) {between : List Char}
      (visible : ∀ c ∈ between, Text.isBlank c = false) :
      ∀ c ∈ o.text between, Text.isBlank c = false := by
    simp only [UtcOffset.text, List.forall_mem_cons, List.forall_mem_append]
    refine ⟨?_, digits, visible, digits⟩
    split <;> decide
  have said : ∀ c ∈ zone.text, Text.isBlank c = false := by
    cases zone with
    | unsaid => exact List.forall_mem_nil _
    | zulu => exact List.forall_mem_singleton.2 (by decide)
    | parted o => exact offset o (List.forall_mem_singleton.2 (by decide))
    | compact o => exact offset o (List.forall_mem_nil _)
  have all : ∀ c ∈ w.timeText ++ zone.text, Text.isBlank c = false := by
    simp only [timeText, List.forall_mem_append, List.forall_mem_cons]
    exact ⟨⟨digits, by decide, digits, by decide, digits, fraction⟩, said⟩
  exact all c mem

/-- There are no blanks around what is written. -/
theorem trim_text : Text.trim (w.text separator zone) = w.text separator zone := by
  have starts : Text.trimStart (w.chars separator zone) = w.chars separator zone := by
    rw [chars, dateText, List.append_assoc]
    exact trimStart_zeroPadded (by decide)
  have ends : Text.trimEnd (w.chars separator zone) = w.chars separator zone := by
    have something : w.timeText ++ zone.text ≠ [] := by simp [timeText]
    have parts : w.chars separator zone =
        (w.dateText ++ [separator]) ++ (w.timeText ++ zone.text) := List.append_cons _ _ _
    rw [parts]
    exact Text.trimEnd_append (fun c => w.visible_timeText zone) something
  rw [Text.trim, text, String.toList_ofList, starts, ends]

end Written

namespace Value

variable (w : Written) (separator : Char) (zone : Zone)

theorem toList_trim_written :
    (Text.trim (w.text separator zone)).toList = w.chars separator zone := by
  rw [w.trim_text zone, Written.text, String.toList_ofList]

variable {w separator zone}

theorem toDateTime_of_read? {t : DateTime}
    (read : DateTime.read? (w.chars separator zone) = some t) :
    (Value.text (w.text separator zone)).toDateTime = .ok t := by
  unfold toDateTime
  simp only [toList_trim_written, read]

theorem toDateTime_of_unread (unread : DateTime.read? (w.chars separator zone) = none) :
    (Value.text (w.text separator zone)).toDateTime =
      .error (.unrecognized (w.text separator zone)) := by
  unfold toDateTime
  simp only [toList_trim_written, unread]

theorem isBlank_written : (Value.text (w.text separator zone)).isBlank = false := by
  rw [isBlank, ← Bool.not_eq_true, String.isEmpty_iff, ← String.toList_inj, Written.text,
    String.toList_ofList, Written.chars]
  simp

end Value

namespace Schema

variable {schema : Schema} {column : String}

/-- A date column without a structured cast stores the date-time of a value that is not blank. -/
theorem toStorage_date (dated : schema.isDate column = true)
    (plain : schema.isStructured column = false) {v : Value} (filled : v.isBlank = false) :
    schema.toStorage column v = match v.toDateTime with
      | .ok t => .ok (.dateTime t)
      | .error failure => .error (.invalidDate column failure) := by
  rw [toStorage, normalizeDate, dated, filled, plain, readDate]
  cases v.toDateTime with
  | ok t => rfl
  | error failure => rfl

end Schema

namespace Record

variable {m : Model}

/-- Let a local date-time with a year of four digits be written with any digits of the fraction of
its second and any zone, and let the text be set in a date column without a structured cast. Then
there is exactly one date-time with the same nanoseconds whose seconds are those of the local time
less the offset. Written with a blank, the text is stored as this date-time, and so it is when it is
written with the letter T, unless the offset is written without a colon: then it is refused. -/
theorem spellings_stored_alike (r : Record m) {column : String}
    (dated : r.schema.isDate column = true) (plain : r.schema.isStructured column = false)
    (w : Written) (zone : Zone) :
    ∃ u : DateTime, (∀ v : DateTime, v = u ↔
        v.unixSeconds = w.civil.unixSeconds - 60 * zone.ahead ∧
          v.time.nano = w.civil.time.nano) ∧
      r.write column (.text (w.text ' ' zone)) =
        .ok { r with attributes := r.attributes.set column (.dateTime u) } ∧
      (zone.isCompact = false → r.write column (.text (w.text 'T' zone)) =
        .ok { r with attributes := r.attributes.set column (.dateTime u) }) ∧
      (zone.isCompact = true → r.write column (.text (w.text 'T' zone)) =
        .error (.invalidDate column (.unrecognized (w.text 'T' zone)))) := by
  obtain ⟨u, utc, seconds, nano⟩ := w.civil.exists_minusOffset w.years zone.ahead_mem
  have stored {separator : Char} (listed : separator = 'T' ∨ separator = ' ')
      (fits : zone.isCompact = true → separator = ' ') :
      r.write column (.text (w.text separator zone)) =
        .ok { r with attributes := r.attributes.set column (.dateTime u) } := by
    rw [write, Schema.toStorage_date dated plain Value.isBlank_written,
      Value.toDateTime_of_read? (w.read?_chars zone listed fits utc)]
    rfl
  refine ⟨u, fun v => ⟨?_, ?_⟩, stored (.inr rfl) fun _ => rfl, fun parted => ?_, fun compact => ?_⟩
  · rintro rfl
    exact ⟨seconds, nano⟩
  · rintro ⟨seconds', nano'⟩
    exact DateTime.unixSeconds_injective (seconds'.trans seconds.symm) (nano'.trans nano.symm)
  · refine stored (.inl rfl) fun compact => ?_
    cases parted.symm.trans compact
  · cases zone with
    | unsaid | zulu | parted => cases compact
    | compact o =>
        rw [write, Schema.toStorage_date dated plain Value.isBlank_written,
          Value.toDateTime_of_unread (w.read?_compact_letter o)]
        rfl

/-- The start of a year. -/
def midnight : Written := .precise Specimen.newYear (by
  show (0 : Int) ≤ 2024 ∧ (2024 : Int) < 10000
  omega)

/-- Two hours ahead. -/
def twoHours : UtcOffset :=
  ⟨false, 2, 0, Nat.le_of_ble_eq_true rfl, Nat.le_of_ble_eq_true rfl⟩

theorem midnight_stored_alike : ∃ u : DateTime, u.unixSeconds = 1704060000 ∧
    (new Specimen.users).write "created_at" (.text (midnight.text ' ' (.compact twoHours))) =
      (new Specimen.users).write "created_at" (.text (midnight.text 'T' (.parted twoHours))) ∧
    ∃ e, (new Specimen.users).write "created_at" (.text (midnight.text 'T' (.compact twoHours))) =
      .error e := by
  have dated : (new Specimen.users).schema.isDate "created_at" = true := by decide
  have plain : (new Specimen.users).schema.isStructured "created_at" = false := by decide
  obtain ⟨u, denotes, blank, -, refused⟩ :=
    spellings_stored_alike (new Specimen.users) dated plain midnight (.compact twoHours)
  obtain ⟨v, denotes', -, letter, -⟩ :=
    spellings_stored_alike (new Specimen.users) dated plain midnight (.parted twoHours)
  have same : v = u := (denotes v).2 ((denotes' v).1 rfl)
  refine ⟨u, ((denotes u).1 rfl).1.trans (by decide), ?_, _, refused rfl⟩
  rw [blank, letter rfl, same]

/-- An offset without a colon is read after a blank, but not after the letter. -/
theorem compact_offset_refused :
    (∃ r, (new Specimen.users).write "created_at" (.text "2024-03-01 12:30:00+0200") = .ok r) ∧
    (new Specimen.users).write "created_at" (.text "2024-03-01T12:30:00+0200") =
      .error (.invalidDate "created_at" (.unrecognized "2024-03-01T12:30:00+0200")) :=
  ⟨⟨_, rfl⟩, rfl⟩

end Record

end LiveRecord
