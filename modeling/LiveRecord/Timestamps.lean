import LiveRecord.Value

/-!
# Creation and update timestamps

A save stamps the column of the last update and, for a new record, the column of the creation
with one and the same time. A column that the caller has changed already is left alone.
-/

namespace LiveRecord.Timestamps

/-- The column stamped once, when a record is first inserted. -/
def createdAt : String := "created_at"

/-- The column stamped by every save that writes. -/
def updatedAt : String := "updated_at"

/-- The columns to set before a save at the given time, with their values. -/
def stamps (isNew : Bool) (now : DateTime) (isDirty : String → Bool) : List (String × Value) :=
  (if isDirty updatedAt then [] else [(updatedAt, .dateTime now)]) ++
    (if isNew && !isDirty createdAt then [(createdAt, .dateTime now)] else [])

/-- What a save does to the timestamp columns once the clock is read; `none` if it leaves them
alone and need not read the clock. -/
def plan (enabled isNew : Bool) (isDirty : String → Bool) :
    Option (DateTime → List (String × Value)) :=
  if enabled then some fun now => stamps isNew now isDirty else none

/-- Every stamp carries the given time, under the column of the last update or, for a new record,
under that of the creation, and none hits a changed column. -/
theorem mem_stamps_iff {isNew : Bool} {now : DateTime} {isDirty : String → Bool}
    {stamp : String × Value} : stamp ∈ stamps isNew now isDirty ↔
      stamp.2 = .dateTime now ∧ isDirty stamp.1 = false ∧
        (stamp.1 = updatedAt ∨ stamp.1 = createdAt ∧ isNew = true) := by
  obtain ⟨column, v⟩ := stamp
  constructor
  · intro h
    simp only [stamps, List.mem_append] at h
    rcases h with h | h <;> split at h <;> simp_all
  · rintro ⟨rfl, clean, rfl | ⟨rfl, rfl⟩⟩ <;> simp [stamps, clean]

end LiveRecord.Timestamps
