import LiveRecord.Calendar.Date

/-!
# Date-times

A date-time is a date and a time of day in UTC, without an offset. A time of day counts
nanoseconds within its second; in second 59 the count may run on for another second, which is
the leap second that is written as second 60. Seconds since 1970-01-01 do not count leap
seconds.
-/

namespace LiveRecord

/-- A time of day. -/
structure Time where
  hour : Nat
  minute : Nat
  second : Nat
  /-- Nanoseconds since the start of the second; a leap second counts from a whole second. -/
  nano : Nat
  hour_lt : hour < 24
  minute_lt : minute < 60
  second_lt : second < 60
  nano_lt : nano < 1000000000 ∨ second = 59 ∧ nano < 2000000000
  deriving DecidableEq

namespace Time

/-- The time with these fields, if there is one. -/
def ofFields? (hour minute second nano : Nat) : Option Time :=
  if h : hour < 24 ∧ minute < 60 ∧ second < 60 ∧
      (nano < 1000000000 ∨ second = 59 ∧ nano < 2000000000) then
    some ⟨hour, minute, second, nano, h.1, h.2.1, h.2.2.1, h.2.2.2⟩
  else none

/-- The start of a day. -/
def midnight : Time := ⟨0, 0, 0, 0, by decide, by decide, by decide, by decide⟩

/-- Whole seconds since midnight. -/
def seconds (t : Time) : Nat := t.hour * 3600 + t.minute * 60 + t.second

/-- The second as written, 60 in a leap second. -/
def writtenSecond (t : Time) : Nat := t.second + t.nano / 1000000000

/-- The nanoseconds as written. -/
def writtenNano (t : Time) : Nat := t.nano % 1000000000

theorem ofFields?_eq_some_iff {hour minute second nano : Nat} {t : Time} :
    ofFields? hour minute second nano = some t ↔
      t.hour = hour ∧ t.minute = minute ∧ t.second = second ∧ t.nano = nano := by
  unfold ofFields?
  constructor
  · intro h
    split at h
    · cases h
      exact ⟨rfl, rfl, rfl, rfl⟩
    · cases h
  · rintro ⟨rfl, rfl, rfl, rfl⟩
    rw [dif_pos ⟨t.hour_lt, t.minute_lt, t.second_lt, t.nano_lt⟩]

end Time

/-- A date and a time of day. -/
structure DateTime where
  date : Date
  time : Time
  deriving DecidableEq

namespace DateTime

/-- The start of a date. -/
def ofDate (d : Date) : DateTime := ⟨d, .midnight⟩

/-- Seconds since 1970-01-01. -/
def unixSeconds (t : DateTime) : Int := t.date.number * 86400 + t.time.seconds

/-- The date-time a number of seconds after 1970-01-01, and `nano` nanoseconds more. -/
def ofUnix? (seconds : Int) (nano : Nat) : Option DateTime := do
  let date ← Date.ofNumber? (seconds / 86400)
  let inDay := (seconds % 86400).toNat
  let time ← Time.ofFields? (inDay / 3600) (inDay / 60 % 60) (inDay % 60) nano
  return ⟨date, time⟩

/-- Turn a local time into UTC by subtracting the whole minutes that it is ahead. -/
def minusOffset? (t : DateTime) (minutes : Int) : Option DateTime := do
  let total := (t.time.hour * 60 + t.time.minute : Int) - minutes
  let inDay := (total % 1440).toNat
  let time ← Time.ofFields? (inDay / 60) (inDay % 60) t.time.second t.time.nano
  let date ←
    if total < 0 then t.date.previous?
    else if total < 1440 then some t.date
    else t.date.next?
  return ⟨date, time⟩

end DateTime

end LiveRecord
