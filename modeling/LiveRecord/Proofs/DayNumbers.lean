import LiveRecord.Calendar.DateTime

/-!
# Numbered days

Months and years follow each other without a gap, so the day after a date has the next number and
the day before it the previous one, wherever there is such a day. A later date has a greater number,
so a date is known by its number, and a date-time by its seconds and the nanoseconds within the
second. Subtracting an offset from a local time subtracts its seconds.
-/

namespace LiveRecord

namespace Calendar

variable {year other : Int} {month : Nat}

theorem daysInMonth_pos (year : Int) (month : Nat) : 1 ≤ daysInMonth year month := by
  rw [daysInMonth]
  split
  · split <;> decide
  · split <;> decide

theorem daysBeforeMonth_succ (year : Int) (positive : 1 ≤ month) :
    daysBeforeMonth year (month + 1) = daysBeforeMonth year month + daysInMonth year month := by
  obtain ⟨m, rfl⟩ := Nat.exists_eq_add_of_le' positive
  rw [daysBeforeMonth, daysBeforeMonth, Nat.add_sub_cancel, Nat.add_sub_cancel, List.range_succ,
    List.map_append, List.foldl_append]
  rfl

/-- A month ends before a later one starts. -/
theorem daysBeforeMonth_add_le {m n : Nat} (positive : 1 ≤ m) (lt : m < n) :
    daysBeforeMonth year m + daysInMonth year m ≤ daysBeforeMonth year n := by
  induction lt with
  | refl => exact Nat.le_of_eq (daysBeforeMonth_succ year positive).symm
  | step le ih =>
      rw [daysBeforeMonth_succ year (Nat.le_trans (Nat.le_add_left 1 m) le)]
      exact Nat.le_add_right_of_le ih

theorem daysBeforeMonth_thirteen (year : Int) :
    daysBeforeMonth year 13 = if isLeapYear year then 366 else 365 := by
  cases leap : isLeapYear year <;> simp [daysBeforeMonth, List.range_succ, daysInMonth, leap]

/-- The months fill the year. -/
theorem daysBeforeYear_succ (year : Int) :
    daysBeforeYear (year + 1) = daysBeforeYear year + daysBeforeMonth year 13 := by
  rw [daysBeforeMonth_thirteen, daysBeforeYear, daysBeforeYear, isLeapYear]
  split
  · next leap =>
    simp only [beq_iff_eq, bne_iff_ne, Bool.and_eq_true, Bool.or_eq_true] at leap
    omega
  · next common =>
    simp only [beq_iff_eq, bne_iff_ne, Bool.and_eq_true, Bool.or_eq_true] at common
    omega

theorem daysBeforeYear_mono (le : year ≤ other) : daysBeforeYear year ≤ daysBeforeYear other := by
  simp only [daysBeforeYear]
  omega

end Calendar

namespace Date

open Calendar

variable {d e : Date}

/-- A date lies in its year. -/
theorem ordinal_le (d : Date) : d.ordinal ≤ daysBeforeMonth d.year 13 := by
  have month := d.month_mem
  have ends : daysBeforeMonth d.year d.month + daysInMonth d.year d.month ≤
      daysBeforeMonth d.year 13 := daysBeforeMonth_add_le month.1 (by omega)
  have day := d.day_mem
  rw [ordinal]
  omega

theorem number_eq (d : Date) : d.number = daysBeforeYear d.year + d.ordinal - 1 - epochDay := by
  rw [number, dayNumber, ordinal, Int.natCast_add, Int.add_assoc]

/-- A date in a later year has a greater number. -/
theorem number_lt_of_year_lt (later : d.year < e.year) : d.number < e.number := by
  have ends : daysBeforeYear d.year + daysBeforeMonth d.year 13 ≤ daysBeforeYear e.year := by
    rw [← daysBeforeYear_succ]
    exact daysBeforeYear_mono later
  have inside := d.ordinal_le
  have day := e.day_mem
  have first : 1 ≤ e.ordinal := Nat.le_add_left_of_le day.1
  rw [number_eq, number_eq]
  omega

/-- In one year, a date in a later month has a greater number. -/
theorem number_lt_of_month_lt (same : d.year = e.year) (later : d.month < e.month) :
    d.number < e.number := by
  have ends : daysBeforeMonth e.year d.month + daysInMonth e.year d.month ≤
      daysBeforeMonth e.year e.month := daysBeforeMonth_add_le d.month_mem.1 later
  have day := d.day_mem
  have first := e.day_mem
  rw [number_eq, number_eq, ordinal, ordinal, same]
  rw [same] at day
  omega

/-- A date is known by its number. -/
theorem number_injective (same : d.number = e.number) : d = e := by
  have year : d.year = e.year := by
    rcases Int.lt_trichotomy d.year e.year with earlier | year | later
    · exact absurd same (Int.ne_of_lt (number_lt_of_year_lt earlier))
    · exact year
    · exact absurd same.symm (Int.ne_of_lt (number_lt_of_year_lt later))
  have month : d.month = e.month := by
    rcases Nat.lt_trichotomy d.month e.month with earlier | month | later
    · exact absurd same (Int.ne_of_lt (number_lt_of_month_lt year earlier))
    · exact month
    · exact absurd same.symm (Int.ne_of_lt (number_lt_of_month_lt year.symm later))
  have day : d.day = e.day := by
    rw [number_eq, number_eq, ordinal, ordinal, year, month] at same
    omega
  exact Option.some.inj ((ofFields?_eq_some_iff.2 ⟨year, month, day⟩).symm.trans (ofFields?_self e))

/-- Fields in range make a date with their number. -/
theorem exists_of_fields (year : Int) (month day : Nat)
    (years : firstYear ≤ year ∧ year ≤ lastYear) (months : 1 ≤ month ∧ month ≤ 12)
    (days : 1 ≤ day ∧ day ≤ daysInMonth year month) :
    ∃ d, ofFields? year month day = some d ∧ d.number = dayNumber year month day :=
  ⟨⟨year, month, day, years, months, days⟩, dif_pos ⟨years, months, days⟩, rfl⟩

/-- There is a day after every day that is not in the last year, and it has the next number. -/
theorem exists_next (d : Date) (inside : d.year < lastYear) :
    ∃ e, d.next? = some e ∧ e.number = d.number + 1 := by
  have year := d.year_mem
  have month := d.month_mem
  have day := d.day_mem
  rw [next?, number, dayNumber]
  split
  · next more =>
    obtain ⟨e, made, numbered⟩ := exists_of_fields _ _ (d.day + 1) year month
      ⟨Nat.le_add_left _ _, more⟩
    refine ⟨e, made, ?_⟩
    rw [numbered, dayNumber]
    omega
  · next last =>
    have ends : d.day = daysInMonth d.year d.month := by omega
    have follows := daysBeforeMonth_succ d.year month.1
    split
    · next early =>
      obtain ⟨e, made, numbered⟩ := exists_of_fields d.year (d.month + 1) 1 year
        ⟨Nat.le_add_left _ _, early⟩ ⟨Nat.le_refl 1, daysInMonth_pos _ _⟩
      refine ⟨e, made, ?_⟩
      rw [numbered, dayNumber, follows, ends]
      omega
    · next late =>
      have december : d.month = 12 := by omega
      obtain ⟨e, made, numbered⟩ := exists_of_fields (d.year + 1) 1 1 ⟨by omega, by omega⟩
        ⟨Nat.le_refl 1, by omega⟩ ⟨Nat.le_refl 1, daysInMonth_pos _ _⟩
      have start : daysBeforeMonth (d.year + 1) 1 = 0 := rfl
      refine ⟨e, made, ?_⟩
      rw [december] at follows ends
      rw [numbered, dayNumber, daysBeforeYear_succ, start, follows, december, ends]
      omega

/-- There is a day before every day that is not in the first year, and it has the number before. -/
theorem exists_previous (d : Date) (inside : firstYear < d.year) :
    ∃ e, d.previous? = some e ∧ e.number = d.number - 1 := by
  have year := d.year_mem
  have month := d.month_mem
  have day := d.day_mem
  rw [previous?, number, dayNumber]
  split
  · next later =>
    obtain ⟨e, made, numbered⟩ := exists_of_fields d.year d.month (d.day - 1) year month
      ⟨by omega, by omega⟩
    refine ⟨e, made, ?_⟩
    rw [numbered, dayNumber]
    omega
  · next first =>
    have starts : d.day = 1 := by omega
    split
    · next later =>
      have follows := daysBeforeMonth_succ d.year (by omega : 1 ≤ d.month - 1)
      rw [Nat.sub_add_cancel month.1] at follows
      obtain ⟨e, made, numbered⟩ := exists_of_fields d.year (d.month - 1) _ year
        ⟨by omega, by omega⟩ ⟨daysInMonth_pos _ _, Nat.le_refl _⟩
      refine ⟨e, made, ?_⟩
      rw [numbered, dayNumber, follows, starts]
      omega
    · next early =>
      have january : d.month = 1 := by omega
      have follows := daysBeforeYear_succ (d.year - 1)
      have fills : daysBeforeMonth (d.year - 1) 13 = daysBeforeMonth (d.year - 1) 12 + 31 :=
        daysBeforeMonth_succ _ (by decide)
      have start : daysBeforeMonth d.year 1 = 0 := rfl
      rw [Int.sub_add_cancel] at follows
      obtain ⟨e, made, numbered⟩ := exists_of_fields (d.year - 1) 12 31 ⟨by omega, by omega⟩
        ⟨by decide, by decide⟩ ⟨by decide, Nat.le_refl 31⟩
      refine ⟨e, made, ?_⟩
      rw [numbered, dayNumber, follows, fills, january, start, starts]
      omega

end Date

/-!
## Date-times
-/

namespace Time

/-- A time of day is known by its whole seconds and its nanoseconds. -/
theorem seconds_injective {t u : Time} (seconds : t.seconds = u.seconds) (nano : t.nano = u.nano) :
    t = u := by
  have minute := t.minute_lt
  have second := t.second_lt
  have minute' := u.minute_lt
  have second' := u.second_lt
  rw [Time.seconds, Time.seconds] at seconds
  refine Option.some.inj ((ofFields?_eq_some_iff.2 ⟨?_, ?_, ?_, nano⟩).symm.trans
    (ofFields?_eq_some_iff.2 ⟨rfl, rfl, rfl, rfl⟩))
  · omega
  · omega
  · omega

theorem exists_of_fields (hour minute : Nat) {second nano : Nat} (hours : hour < 24)
    (minutes : minute < 60) (seconds : second < 60)
    (nanos : nano < 1000000000 ∨ second = 59 ∧ nano < 2000000000) :
    ∃ t, ofFields? hour minute second nano = some t ∧
      t.seconds = hour * 3600 + minute * 60 + second ∧ t.nano = nano :=
  ⟨⟨hour, minute, second, nano, hours, minutes, seconds, nanos⟩,
    dif_pos ⟨hours, minutes, seconds, nanos⟩, rfl, rfl⟩

theorem seconds_lt (t : Time) : t.seconds < 86400 := by
  have hour := t.hour_lt
  have minute := t.minute_lt
  have second := t.second_lt
  rw [seconds]
  omega

end Time

namespace DateTime

/-- A date-time is known by its seconds and its nanoseconds. -/
theorem unixSeconds_injective {t u : DateTime} (seconds : t.unixSeconds = u.unixSeconds)
    (nano : t.time.nano = u.time.nano) : t = u := by
  have inDay := t.time.seconds_lt
  have inDay' := u.time.seconds_lt
  rw [unixSeconds, unixSeconds] at seconds
  have date : t.date = u.date := Date.number_injective (by omega)
  have time : t.time = u.time := Time.seconds_injective (by omega) nano
  cases t
  cases u
  rw [mk.injEq]
  exact ⟨date, time⟩

/-- A local time less than a day off has a time in UTC, unless the calendar ends in between. The
seconds of the offset are subtracted. -/
theorem exists_minusOffset (t : DateTime) {minutes : Int}
    (years : Calendar.firstYear < t.date.year ∧ t.date.year < Calendar.lastYear)
    (short : -1440 < minutes ∧ minutes < 1440) :
    ∃ u, t.minusOffset? minutes = some u ∧ u.unixSeconds = t.unixSeconds - 60 * minutes ∧
      u.time.nano = t.time.nano := by
  have hour := t.time.hour_lt
  have minute := t.time.minute_lt
  rw [minusOffset?, unixSeconds, Time.seconds]
  generalize total_eq : (t.time.hour * 60 + t.time.minute : Int) - minutes = total
  have moved : ∃ date, (if total < 0 then t.date.previous? else if total < 1440 then some t.date
      else t.date.next?) = some date ∧ date.number = t.date.number + total / 1440 := by
    split
    · obtain ⟨date, made, numbered⟩ := t.date.exists_previous years.1
      exact ⟨date, made, by omega⟩
    · split
      · exact ⟨t.date, rfl, by omega⟩
      · obtain ⟨date, made, numbered⟩ := t.date.exists_next years.2
        exact ⟨date, made, by omega⟩
  obtain ⟨date, dated, numbered⟩ := moved
  obtain ⟨time, timed, seconds, nano⟩ := Time.exists_of_fields
    ((total % 1440).toNat / 60) ((total % 1440).toNat % 60) (by omega) (by omega)
    t.time.second_lt t.time.nano_lt
  refine ⟨⟨date, time⟩, ?_, ?_, nano⟩
  · simp only [bind, timed, Option.bind_some]
    split
    · next earlier =>
      rw [if_pos earlier] at dated
      rw [dated, Option.bind_some]
      rfl
    · next started =>
      rw [if_neg started] at dated
      split
      · next within =>
        rw [if_pos within] at dated
        cases dated
        rfl
      · next later =>
        rw [if_neg later] at dated
        rw [dated, Option.bind_some]
        rfl
  · show date.number * 86400 + (time.seconds : Int) = _
    rw [seconds, numbered]
    omega

/-- The offset zero changes nothing. -/
theorem minusOffset?_zero (t : DateTime)
    (years : Calendar.firstYear < t.date.year ∧ t.date.year < Calendar.lastYear) :
    t.minusOffset? 0 = some t := by
  have short : (-1440 : Int) < 0 ∧ (0 : Int) < 1440 := by decide
  obtain ⟨u, made, seconds, nano⟩ := t.exists_minusOffset years short
  have same : u = t := unixSeconds_injective (by omega) nano
  rw [made, same]

end DateTime

end LiveRecord
