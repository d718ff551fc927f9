import LiveRecord.Cast
import Mathlib.Algebra.Group.Nat.Defs
import Mathlib.Data.List.TakeWhile

/-!
# The layout that reads back

`DateTime.isoText` writes every date-time in a way in which `DateTime.read?` finds it again. The
strict spelling of time stamps comes first in the cascade and fails, because the text has no
offset; the spelling of a local date-time with seconds comes next and uses up the text.

Each step of a spelling is run on the text of one item of the layout, whatever comes after it. A
number in two columns needs no stop, since no step reads a third digit; a year stops at the sign
after it.
-/

namespace LiveRecord

/-- A number that is small enough fills exactly the columns that it is given. -/
theorem Text.length_zeroPadded {width n : Nat} (positive : 0 < width) (small : n < 10 ^ width) :
    (zeroPadded width n).length = width := by
  have short : (natDigits n).length ≤ width :=
    (Nat.length_toDigits_le_iff (by decide) positive).2 small
  simp only [zeroPadded, padLeft, List.length_append, List.length_replicate]
  omega

namespace Pattern

theorem twoColumns_zero {n : Nat} (small : n < 100) : twoColumns .zero n = Text.zeroPadded 2 n := by
  revert n
  decide

/-- A year of four digits has no sign. -/
theorem yearText_of_short {year : Int} (short : 0 ≤ year ∧ year < 10000) :
    yearText .zero year = Text.zeroPadded 4 year.natAbs := by
  rw [yearText, if_pos short, columns, signText, if_neg (Int.not_lt.2 short.1)]
  rfl

theorem yearText_of_long {year : Int} (long : ¬ (0 ≤ year ∧ year < 10000)) :
    yearText .zero year =
      (if year < 0 then '-' else '+') :: Text.zeroPadded 4 year.natAbs := by
  rw [yearText, if_neg long, columns, signText]
  split <;> rfl

end Pattern

namespace Spelling

/-- A run of digits is read up to its end, if that is where the width or the digits end. -/
theorem digits?_append {least most : Nat} {ds rest : List Char}
    (digits : ∀ c ∈ ds, c.isDigit = true) (enough : least ≤ ds.length)
    (stop : ds.length = most ∨ ds.length ≤ most ∧ rest.takeWhile Char.isDigit = []) :
    digits? least most (ds ++ rest) = some (Text.digitsValue ds 0, rest) := by
  have found : ((ds ++ rest).takeWhile Char.isDigit).take most = ds := by
    rw [List.takeWhile_append_of_pos digits]
    rcases stop with rfl | ⟨short, ended⟩
    · rw [List.take_left]
    · rw [ended, List.append_nil, List.take_of_length_le short]
  rw [digits?, found, if_neg (Nat.not_lt.2 enough), List.drop_left]

section Numbers

variable {width n : Nat} {rest : List Char}

theorem digits?_zeroPadded {least : Nat} (enough : least ≤ width) (positive : 0 < width)
    (small : n < 10 ^ width) :
    digits? least width (Text.zeroPadded width n ++ rest) = some (n, rest) := by
  have exact : (Text.zeroPadded width n).length = width := Text.length_zeroPadded positive small
  rw [digits?_append (fun c => Text.isDigit_of_mem_zeroPadded) (by rw [exact]; exact enough)
    (.inl exact), Text.digitsValue_zeroPadded]

/-- A number with leading zeros starts with a digit. -/
theorem exists_zeroPadded_eq_cons (positive : 0 < width) :
    ∃ c cs, Text.zeroPadded width n = c :: cs ∧ c.isDigit = true := by
  have long := Text.le_length_zeroPadded width n
  have digits (c : Char) : c ∈ Text.zeroPadded width n → c.isDigit = true :=
    Text.isDigit_of_mem_zeroPadded
  cases h : Text.zeroPadded width n with
  | nil => simp [h] at long; omega
  | cons c cs => exact ⟨c, cs, rfl, digits c (h ▸ List.mem_cons_self)⟩

theorem trimStart_zeroPadded (positive : 0 < width) :
    Text.trimStart (Text.zeroPadded width n ++ rest) = Text.zeroPadded width n ++ rest := by
  obtain ⟨c, cs, h, digit⟩ := exists_zeroPadded_eq_cons (n := n) positive
  rw [h]
  exact Text.trimStart_cons _ (Text.isBlank_of_isDigit digit)

theorem signedNumber?_zeroPadded (positive : 0 < width) (small : n < 10 ^ width) :
    signedNumber? width (Text.zeroPadded width n ++ rest) = some ((n : Int), rest) := by
  have read : digits? 1 width (Text.zeroPadded width n ++ rest) = some (n, rest) :=
    digits?_zeroPadded positive positive small
  obtain ⟨c, cs, h, digit⟩ := exists_zeroPadded_eq_cons (n := n) positive
  rw [h] at read ⊢
  unfold signedNumber?
  split
  · next same => cases same; cases digit
  · next same => cases same; cases digit
  · rw [read]; rfl

/-- After a sign, all digits are read that come. -/
theorem allDigits?_zeroPadded (positive : 0 < width)
    (ended : rest.takeWhile Char.isDigit = []) :
    allDigits? (Text.zeroPadded width n ++ rest) = some (n, rest) := by
  have long := Text.le_length_zeroPadded width n
  rw [allDigits?, digits?_append (fun c => Text.isDigit_of_mem_zeroPadded) (by omega)
    (.inr ⟨by simp, ended⟩), Text.digitsValue_zeroPadded]

end Numbers

section Steps

variable {steps : List Step} {found : Fields} {field : Field} {width n : Nat} {cs : List Char}

theorem run_literal (c : Char) :
    run (.literal c :: steps) found (c :: cs) = run steps found cs := by
  simp [run, Step.run]

theorem run_oneOf {allowed : List Char} {c : Char} (listed : allowed.contains c = true) :
    run (.oneOf allowed :: steps) found (c :: cs) = run steps found cs := by
  simp only [run, Step.run, listed, if_true, Option.bind_some]

theorem run_exact (positive : 0 < width) (small : n < 10 ^ width) :
    run (.exact field width :: steps) found (Text.zeroPadded width n ++ cs) =
      run steps (found.put field n) cs := by
  rw [run, Step.run, digits?_zeroPadded (Nat.le_refl width) positive small]
  rfl

theorem run_number (notYear : field ≠ .year) (positive : 0 < width) (small : n < 10 ^ width) :
    run (.number field width :: steps) found (Text.zeroPadded width n ++ cs) =
      run steps (found.put field n) cs := by
  have number : number? field width (Text.zeroPadded width n ++ cs) = some ((n : Int), cs) := by
    cases field with
    | year => exact absurd rfl notYear
    | _ => simp [number?, digits?_zeroPadded positive positive small]
  rw [run, Step.run, trimStart_zeroPadded positive, number]
  rfl

/-- A year is read back, with its sign if it has one. -/
theorem run_year (year : Int) :
    run (.number .year 4 :: steps) found (Pattern.yearText .zero year ++ '-' :: cs) =
      run steps (found.put .year year) ('-' :: cs) := by
  have read : number? .year 4 (Text.trimStart (Pattern.yearText .zero year ++ '-' :: cs)) =
      some (year, '-' :: cs) := by
    by_cases short : 0 ≤ year ∧ year < 10000
    · rw [Pattern.yearText_of_short short, trimStart_zeroPadded (by decide), number?,
        signedNumber?_zeroPadded (by decide) (by omega), Int.natAbs_of_nonneg short.1]
    · have digits : allDigits? (Text.zeroPadded 4 year.natAbs ++ '-' :: cs) =
          some (year.natAbs, '-' :: cs) := allDigits?_zeroPadded (by decide) rfl
      rw [Pattern.yearText_of_long short, List.cons_append]
      split
      · next negative =>
        rw [Text.trimStart_cons _ (by decide), number?, signedNumber?, digits, Option.map_some,
          Int.ofNat_natAbs_of_nonpos (Int.le_of_lt negative), Int.neg_neg]
      · next natural =>
        rw [Text.trimStart_cons _ (by decide), number?, signedNumber?, digits, Option.map_some,
          Int.natAbs_of_nonneg (Int.not_lt.1 natural)]
  rw [run, Step.run, read]
  rfl

/-- The strict spelling takes four digits for the year and no sign. -/
theorem run_exact_year_of_long {year : Int} (long : ¬ (0 ≤ year ∧ year < 10000)) :
    run (.exact .year 4 :: steps) found (Pattern.yearText .zero year ++ cs) = none := by
  rw [Pattern.yearText_of_long long]
  split <;> rfl

theorem nano?_zeroPadded {width n : Nat} (positive : 0 < width) (short : width ≤ 9)
    (small : n < 10 ^ width) :
    nano? (Text.zeroPadded width n) = some (n * 10 ^ (9 - width), []) := by
  have exact : (Text.zeroPadded width n).length = width := Text.length_zeroPadded positive small
  have digits (c : Char) : c ∈ Text.zeroPadded width n → c.isDigit = true :=
    Text.isDigit_of_mem_zeroPadded
  have all : ((Text.zeroPadded width n).takeWhile Char.isDigit).take 9 =
      Text.zeroPadded width n := by
    rw [List.takeWhile_eq_self_iff.2 digits, List.take_of_length_le (by omega)]
  have some_digit : (Text.zeroPadded width n).isEmpty = false := by
    rw [List.isEmpty_eq_false_iff, ← List.length_pos_iff, exact]
    exact positive
  have rest : (Text.zeroPadded width n).dropWhile Char.isDigit = [] :=
    List.dropWhile_eq_nil_iff.2 digits
  rw [nano?, all, some_digit, if_neg Bool.false_ne_true, Text.digitsValue_zeroPadded, rest, exact]
  rfl

/-- The fraction of a second is read back; nothing is read if it is zero. -/
theorem run_fraction {nano : Nat} (small : nano < 1000000000) :
    run (.fraction :: steps) found (Pattern.fractionText nano) =
      run steps { found with nano := if nano = 0 then found.nano else some nano } [] := by
  unfold Pattern.fractionText
  split
  · rfl
  · have read {width n : Nat} (positive : 0 < width) (short : width ≤ 9) (small : n < 10 ^ width)
        (same : n * 10 ^ (9 - width) = nano) :
        run (.fraction :: steps) found ('.' :: Text.zeroPadded width n) =
          run steps { found with nano := some nano } [] := by
      rw [run, Step.run, nano?_zeroPadded positive short small, same]
      rfl
    split
    · exact read (by decide) (by decide) (by omega) (by omega)
    · split
      · exact read (by decide) (by decide) (by omega) (by omega)
      · exact read (by decide) (by decide) (by omega) (by omega)

end Steps

end Spelling

theorem Calendar.daysInMonth_le (year : Int) (month : Nat) : daysInMonth year month ≤ 31 := by
  unfold daysInMonth
  split
  · split <;> decide
  · split <;> decide

namespace Time

variable (t : Time)

theorem writtenNano_lt : t.writtenNano < 1000000000 := Nat.mod_lt _ (by decide)

theorem writtenSecond_lt : t.writtenSecond < 100 := by
  have := t.second_lt
  have := t.nano_lt
  rw [writtenSecond]
  omega

/-- A time is found again from its fields as written. Second 60 is the leap second. -/
theorem time?_written {found : Spelling.Fields} (hour : found.hour = some t.hour)
    (minute : found.minute = some t.minute) (second : found.second = some t.writtenSecond)
    (nano : found.nano.getD 0 = t.writtenNano) : found.time? = some t := by
  have bounds := t.nano_lt
  have short := t.second_lt
  simp only [Spelling.Fields.time?, hour, minute, second, nano, bind, Option.bind]
  by_cases leap : t.nano < 1000000000
  · have wholeSecond : t.writtenSecond = t.second := by rw [writtenSecond]; omega
    have wholeNano : t.writtenNano = t.nano := Nat.mod_eq_of_lt leap
    rw [wholeSecond, wholeNano]
    split
    · next none => cases none
    · next sixty => exact absurd (Option.some.inj sixty) (by omega)
    · next same => cases same; exact ofFields?_eq_some_iff.2 ⟨rfl, rfl, rfl, rfl⟩
  · have sixty : t.writtenSecond = 60 := by rw [writtenSecond]; omega
    have rest : 1000000000 + t.writtenNano = t.nano := by rw [writtenNano]; omega
    rw [sixty]
    exact ofFields?_eq_some_iff.2 ⟨rfl, rfl, by omega, rest.symm⟩

end Time

namespace DateTime

variable (t : DateTime)

/-- The numbers after the year take two columns. -/
theorem two_columns : t.date.month < 10 ^ 2 ∧ t.date.day < 10 ^ 2 ∧ t.time.hour < 10 ^ 2 ∧
    t.time.minute < 10 ^ 2 ∧ t.time.writtenSecond < 10 ^ 2 := by
  have lastDay := Calendar.daysInMonth_le t.date.year t.date.month
  have month := t.date.month_mem
  have day := t.date.day_mem
  have hour := t.time.hour_lt
  have minute := t.time.minute_lt
  exact ⟨by omega, by omega, by omega, by omega, t.time.writtenSecond_lt⟩

/-- The text of a date-time, item after item. -/
theorem toList_isoText : t.isoText.toList =
    Pattern.yearText .zero t.date.year ++ '-' :: (Text.zeroPadded 2 t.date.month ++
      '-' :: (Text.zeroPadded 2 t.date.day ++ 'T' :: (Text.zeroPadded 2 t.time.hour ++
        ':' :: (Text.zeroPadded 2 t.time.minute ++ ':' :: (Text.zeroPadded 2 t.time.writtenSecond ++
          Pattern.fractionText t.time.writtenNano))))) := by
  obtain ⟨month, day, hour, minute, second⟩ := t.two_columns
  rw [← Pattern.twoColumns_zero month, ← Pattern.twoColumns_zero day,
    ← Pattern.twoColumns_zero hour, ← Pattern.twoColumns_zero minute,
    ← Pattern.twoColumns_zero second, isoText, String.toList_ofList]
  simp [Pattern.write, Pattern.isoItems, Pattern.joined, Pattern.zeroed, Pattern.clock,
    Pattern.Item.text, Pattern.Field.text]

/-- What a spelling finds that uses up the text of a date-time. -/
def isoFields : Spelling.Fields where
  year := some t.date.year
  month := some t.date.month
  day := some t.date.day
  hour := some t.time.hour
  minute := some t.time.minute
  second := some t.time.writtenSecond
  nano := if t.time.writtenNano = 0 then none else some t.time.writtenNano
  offset := none

theorem dateTime?_isoFields : t.isoFields.dateTime? = some t := by
  have date : t.isoFields.date? = some t.date := Date.ofFields?_self t.date
  have time : t.isoFields.time? = some t.time := by
    refine t.time.time?_written rfl rfl rfl ?_
    show (if t.time.writtenNano = 0 then none else some t.time.writtenNano).getD 0 = _
    split
    · next zero => exact zero.symm
    · rfl
  simp only [Spelling.Fields.dateTime?, date, time, bind, Option.bind]
  rfl

/-- The strict spelling does not read a text without an offset. -/
theorem dateTime?_stamp : Spelling.dateTime? Spelling.stamp t.isoText.toList = none := by
  obtain ⟨month, day, hour, minute, second⟩ := t.two_columns
  rw [Spelling.dateTime?, toList_isoText, Spelling.stamp]
  by_cases short : 0 ≤ t.date.year ∧ t.date.year < 10000
  · rw [Pattern.yearText_of_short short, Spelling.run_exact (by decide) (by omega),
      Spelling.run_literal, Spelling.run_exact (by decide) month, Spelling.run_literal,
      Spelling.run_exact (by decide) day, Spelling.run_oneOf (by decide),
      Spelling.run_exact (by decide) hour, Spelling.run_literal,
      Spelling.run_exact (by decide) minute, Spelling.run_literal,
      Spelling.run_exact (by decide) second, Spelling.run_fraction t.time.writtenNano_lt]
    rfl
  · rw [Spelling.run_exact_year_of_long short]
    rfl

/-- The spelling of a local date-time with seconds uses up the text. -/
theorem run_local : Spelling.run (Spelling.looseDate ++ .literal 'T' :: Spelling.looseTime)
    .unknown t.isoText.toList = some t.isoFields := by
  obtain ⟨month, day, hour, minute, second⟩ := t.two_columns
  simp only [toList_isoText, Spelling.looseDate, Spelling.looseTime, Spelling.looseMinutes,
    List.cons_append, List.nil_append]
  rw [Spelling.run_year, Spelling.run_literal,
    Spelling.run_number (by decide) (by decide) month, Spelling.run_literal,
    Spelling.run_number (by decide) (by decide) day, Spelling.run_literal,
    Spelling.run_number (by decide) (by decide) hour, Spelling.run_literal,
    Spelling.run_number (by decide) (by decide) minute, Spelling.run_literal,
    Spelling.run_number (by decide) (by decide) second,
    Spelling.run_fraction t.time.writtenNano_lt]
  rfl

/-- Every date-time is read back from its text. -/
theorem read?_isoText : read? t.isoText.toList = some t := by
  rw [read?, Spelling.cascade, List.findSome?_cons, dateTime?_stamp, List.findSome?_cons,
    Spelling.dateTime?, run_local, Option.bind_some, dateTime?_isoFields]

/-- The text has no blanks. -/
theorem visible_isoText {c : Char} (mem : c ∈ t.isoText.toList) : Text.isBlank c = false := by
  have digits {width n : Nat} : ∀ c ∈ Text.zeroPadded width n, Text.isBlank c = false :=
    fun c mem => Text.isBlank_of_isDigit (Text.isDigit_of_mem_zeroPadded mem)
  have year : ∀ c ∈ Pattern.yearText .zero t.date.year, Text.isBlank c = false := by
    by_cases short : 0 ≤ t.date.year ∧ t.date.year < 10000
    · rw [Pattern.yearText_of_short short]
      exact digits
    · rw [Pattern.yearText_of_long short]
      refine List.forall_mem_cons.2 ⟨?_, digits⟩
      split <;> decide
  have fraction : ∀ c ∈ Pattern.fractionText t.time.writtenNano, Text.isBlank c = false := by
    unfold Pattern.fractionText
    split
    · exact nofun
    · split
      · exact List.forall_mem_cons.2 ⟨by decide, digits⟩
      · split <;> exact List.forall_mem_cons.2 ⟨by decide, digits⟩
  have all : ∀ c ∈ t.isoText.toList, Text.isBlank c = false := by
    rw [toList_isoText]
    simp only [List.forall_mem_append, List.forall_mem_cons]
    exact ⟨year, by decide, digits, by decide, digits, by decide, digits, by decide, digits,
      by decide, digits, fraction⟩
  exact all c mem

end DateTime

namespace Value

/-- The text of a date-time stands for it in a date column. -/
theorem toDateTime_isoText (t : DateTime) : (Value.text t.isoText).toDateTime = .ok t := by
  have trimmed : Text.trim t.isoText = t.isoText :=
    Text.trim_of_visible fun c mem => t.visible_isoText mem
  unfold toDateTime
  simp only [trimmed, t.read?_isoText]

theorem isBlank_isoText (t : DateTime) : (Value.text t.isoText).isBlank = false := by
  have long : t.isoText.toList ≠ [] := by
    rw [t.toList_isoText]
    simp
  rw [isBlank, ← Bool.not_eq_true, String.isEmpty_iff]
  exact fun empty => long (by rw [empty]; rfl)

end Value

theorem DateFormat.write_iso (t : DateTime) : DateFormat.iso.write t = .ok t.isoText := by
  rw [write, pattern, Pattern.format?, Pattern.items?_iso]
  rfl

end LiveRecord
