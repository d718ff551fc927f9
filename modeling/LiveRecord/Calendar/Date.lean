/-!
# Dates of the proleptic Gregorian calendar

A date is a year, a month and a day of that month, and its fields are in range by type. Days
are numbered from 1970-01-01, day zero; `Date.next?` and `Date.previous?` step by one day and
stop at the ends of the range of years.
-/

namespace LiveRecord

namespace Calendar

/-- The first and the last year of the calendar. -/
def firstYear : Int := -262143

@[inherit_doc firstYear]
def lastYear : Int := 262142

/-- Has the year 366 days? -/
def isLeapYear (year : Int) : Bool :=
  year % 4 == 0 && (year % 100 != 0 || year % 400 == 0)

/-- The number of days of a month, January being month 1. -/
def daysInMonth (year : Int) (month : Nat) : Nat :=
  if month = 2 then if isLeapYear year then 29 else 28
  else if month = 4 ∨ month = 6 ∨ month = 9 ∨ month = 11 then 30
  else 31

/-- The number of days of a year that lie before a month. -/
def daysBeforeMonth (year : Int) (month : Nat) : Nat :=
  ((List.range (month - 1)).map fun m => daysInMonth year (m + 1)).foldl (· + ·) 0

/-- The number of days from the start of year 1 to the start of a year. -/
def daysBeforeYear (year : Int) : Int :=
  let y := year - 1
  y * 365 + y / 4 - y / 100 + y / 400

/-- The days from the start of year 1 to 1970-01-01. -/
def epochDay : Int := 719162

/-- The number of a day, counted from 1970-01-01. -/
def dayNumber (year : Int) (month day : Nat) : Int :=
  daysBeforeYear year + daysBeforeMonth year month + day - 1 - epochDay

/-- The year and the day of the year, both counted from the start, for a day counted from the
start of year 1. Cycles of 400, 100 and 4 years are split off in turn; the last century of a
great cycle and the last year of a small one are a day longer than the others. -/
def yearAndDay (days : Int) : Int × Nat :=
  let great := days / 146097
  let inGreat := (days % 146097).toNat
  let century := min (inGreat / 36524) 3
  let inCentury := inGreat - century * 36524
  let small := inCentury / 1461
  let inSmall := inCentury % 1461
  let year := min (inSmall / 365) 3
  (great * 400 + century * 100 + small * 4 + year + 1, inSmall - year * 365)

/-- The month and its day for a day of the year counted from zero, searching from `month`. -/
def monthAndDay (year : Int) (month : Nat) (day : Nat) : Nat → Nat × Nat
  | 0 => (month, day + 1)
  | fuel + 1 =>
    if day < daysInMonth year month then (month, day + 1)
    else monthAndDay year (month + 1) (day - daysInMonth year month) fuel

/-- Year, month and day for the number of a day. -/
def civil (number : Int) : Int × Nat × Nat :=
  let (year, day) := yearAndDay (number + epochDay)
  (year, monthAndDay year 1 day 11)

end Calendar

open Calendar

/-- A date. -/
structure Date where
  year : Int
  month : Nat
  day : Nat
  year_mem : firstYear ≤ year ∧ year ≤ lastYear
  month_mem : 1 ≤ month ∧ month ≤ 12
  day_mem : 1 ≤ day ∧ day ≤ daysInMonth year month
  deriving DecidableEq

namespace Date

/-- The date with these fields, if there is one. -/
def ofFields? (year : Int) (month day : Nat) : Option Date :=
  if h : (firstYear ≤ year ∧ year ≤ lastYear) ∧ (1 ≤ month ∧ month ≤ 12) ∧
      1 ≤ day ∧ day ≤ daysInMonth year month then
    some ⟨year, month, day, h.1, h.2.1, h.2.2⟩
  else none

/-- The number of the day, counted from 1970-01-01. -/
def number (d : Date) : Int := dayNumber d.year d.month d.day

/-- The date of a numbered day, if its year is in range. -/
def ofNumber? (number : Int) : Option Date :=
  let (year, month, day) := civil number
  ofFields? year month day

/-- The day after. -/
def next? (d : Date) : Option Date :=
  if d.day < daysInMonth d.year d.month then ofFields? d.year d.month (d.day + 1)
  else if d.month < 12 then ofFields? d.year (d.month + 1) 1
  else ofFields? (d.year + 1) 1 1

/-- The day before. -/
def previous? (d : Date) : Option Date :=
  if 1 < d.day then ofFields? d.year d.month (d.day - 1)
  else if 1 < d.month then ofFields? d.year (d.month - 1) (daysInMonth d.year (d.month - 1))
  else ofFields? (d.year - 1) 12 31

/-- The day of the year, counted from 1. -/
def ordinal (d : Date) : Nat := daysBeforeMonth d.year d.month + d.day

/-- The day of the week, Monday being 0. -/
def weekday (d : Date) : Nat := ((d.number + 3) % 7).toNat

/-- The number of the week of the year that starts at the given day of the week, days before
the first such day lying in week zero. -/
def weekOfYear (d : Date) (firstDay : Nat) : Nat :=
  (d.ordinal + 6 - (d.weekday + 7 - firstDay) % 7) / 7

/-- Year and number of the week that belongs to the year of its Thursday. -/
def isoWeek (d : Date) : Int × Nat :=
  let thursday := d.number - d.weekday + 3
  let (year, day) := yearAndDay (thursday + epochDay)
  (year, day / 7 + 1)

theorem ofFields?_eq_some_iff {year : Int} {month day : Nat} {d : Date} :
    ofFields? year month day = some d ↔ d.year = year ∧ d.month = month ∧ d.day = day := by
  unfold ofFields?
  constructor
  · intro h
    split at h
    · cases h
      exact ⟨rfl, rfl, rfl⟩
    · cases h
  · rintro ⟨rfl, rfl, rfl⟩
    rw [dif_pos ⟨d.year_mem, d.month_mem, d.day_mem⟩]

/-- The fields of a date give it back. -/
@[simp] theorem ofFields?_self (d : Date) : ofFields? d.year d.month d.day = some d :=
  ofFields?_eq_some_iff.2 ⟨rfl, rfl, rfl⟩

end Date

end LiveRecord
