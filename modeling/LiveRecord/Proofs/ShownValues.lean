import LiveRecord.Proofs.Amendment

/-!
# What is shown and what is read

A column is read by itself: its cast decodes it, and only without a cast it is read as a date. The
output is made for all columns at once: the dates are written first and then the casts are applied.
For a column that is named once at most, by the date columns and the casts together, both ways come
to the same: what is shown is what is read, a date as its text. So the output fails if such a column
cannot be read, and if all shown columns are such and can be read, only the date format can make it
fail.
-/

namespace LiveRecord

theorem DateFormat.eq_of_write_error {format : DateFormat} {t : DateTime} {e : Error}
    (failed : format.write t = .error e) : e = .invalidDateFormat format.pattern := by
  rw [write] at failed
  split at failed
  · cases failed
  · cases failed
    rfl

namespace Schema

/-- Is the column named once at most, by the date columns and the declared casts together? -/
def NamesOnce (schema : Schema) (key : String) : Prop :=
  (schema.dateColumns ++ schema.casts.map Prod.fst).count key ≤ 1

variable {schema : Schema} {key : String}

theorem hasCast_eq_false_iff :
    schema.hasCast key = false ↔ key ∉ schema.casts.map Prod.fst := by
  rw [hasCast, Option.isSome_eq_false_iff, Option.isNone_iff_eq_none, castOf?,
    Entries.lookup_eq_none_iff, Entries.keys]

theorem isDate_eq_false_iff : schema.isDate key = false ↔ key ∉ schema.dateColumns := by
  rw [← isDate_iff, Bool.not_eq_true]

/-- A column that is named once at most is a date, or has a cast, or neither. -/
theorem NamesOnce.cases (once : schema.NamesOnce key) :
    (schema.dateColumns.count key = 1 ∧ key ∉ schema.casts.map Prod.fst) ∨
    (key ∉ schema.dateColumns ∧ (schema.casts.map Prod.fst).count key = 1) ∨
    (key ∉ schema.dateColumns ∧ key ∉ schema.casts.map Prod.fst) := by
  rw [NamesOnce, List.count_append] at once
  rw [← List.count_eq_zero, ← List.count_eq_zero]
  omega

end Schema

namespace Projection

variable {p : Projection} {key : String} {v w : Value} {a : Attributes} {row : Row} {e : Error}

variable (p) in
/-- A value as it is shown once it has been read: a date in a date column as its text, anything else
as it is. -/
def present (key : String) : Value → Except Error Value
  | .dateTime t => if p.schema.isDate key then (p.dateFormat.write t).map .text else .ok (.dateTime t)
  | v => .ok v

theorem present_of_undated (undated : ∀ t, v = .dateTime t → p.schema.isDate key = false) :
    p.present key v = .ok v := by
  cases v with
  | dateTime t => rw [present, undated t rfl, if_neg Bool.false_ne_true]
  | _ => rfl

theorem present_dateTime (dated : p.schema.isDate key = true) (t : DateTime) :
    p.present key (.dateTime t) = (p.dateFormat.write t).map .text := by
  rw [present, dated, if_pos rfl]

/-- Only a date can fail to be shown. -/
theorem exists_of_present_error (failed : p.present key v = .error e) :
    ∃ t, v = .dateTime t ∧ p.schema.isDate key = true ∧ p.dateFormat.write t = .error e := by
  cases v with
  | dateTime t =>
      cases dated : p.schema.isDate key with
      | false =>
          rw [present_of_undated fun _ _ => dated] at failed
          cases failed
      | true =>
          rw [present_dateTime dated] at failed
          exact ⟨t, rfl, rfl, Except.of_map_eq_error failed⟩
  | _ => cases failed

/-! ## One column -/

variable (p) in
/-- A stored value as it is shown if the column is read by itself. -/
def displayed (key : String) (v : Value) : Except Error Value :=
  (p.schema.read key v).bind (p.present key)

/-- A date column without a cast. -/
theorem displayed_of_date (dated : key ∈ p.schema.dateColumns)
    (uncast : key ∉ p.schema.casts.map Prod.fst) : p.displayed key v = p.written key v := by
  have dated := Schema.isDate_iff.2 dated
  rw [displayed, Schema.read, Schema.hasCast_eq_false_iff.2 uncast, if_neg Bool.false_ne_true, dated,
    Bool.true_and, written]
  cases blank : v.isBlank with
  | true =>
      refine present_of_undated fun t date => ?_
      rw [date] at blank
      cases blank
  | false =>
      rw [Bool.not_false, if_pos rfl, if_neg Bool.false_ne_true]
      cases Schema.readDate key v with
      | error e => rfl
      | ok t =>
          show p.present key (.dateTime t) = _
          rw [present_dateTime dated]
          cases written : p.dateFormat.write t <;> simp [bind, Except.bind, written] <;> rfl

/-- A column with a cast that holds no dates. -/
theorem displayed_of_cast (plain : key ∉ p.schema.dateColumns)
    (cast : key ∈ p.schema.casts.map Prod.fst) : p.displayed key v = p.schema.decode key v := by
  have cast : p.schema.hasCast key = true := by
    rw [← Bool.not_eq_false, Schema.hasCast_eq_false_iff, not_not]
    exact cast
  rw [displayed, Schema.read, if_pos cast]
  cases p.schema.decode key v with
  | error e => rfl
  | ok w => exact present_of_undated fun _ _ => Schema.isDate_eq_false_iff.2 plain

/-- A column that is neither. -/
theorem displayed_of_plain (plain : key ∉ p.schema.dateColumns)
    (uncast : key ∉ p.schema.casts.map Prod.fst) : p.displayed key v = .ok v := by
  have plain := Schema.isDate_eq_false_iff.2 plain
  rw [displayed, Schema.read, Schema.hasCast_eq_false_iff.2 uncast, if_neg Bool.false_ne_true, plain,
    Bool.false_and, if_neg Bool.false_ne_true]
  exact present_of_undated fun _ _ => plain

/-! ## All columns -/

theorem keys_shown : (p.shown a).keys = a.current.keys.filter p.shows := by
  simp [shown, Dict.filter, Dict.keys, Entries.keys, List.filter_map, Function.comp_def]

/-- What is shown of a stored value is one of the shown attributes. -/
theorem get?_shown_eq_some_iff :
    (p.shown a).get? key = some v ↔ a.current.get? key = some v ∧ p.shows key = true := by
  rw [shown, Dict.get?_filter, Option.filter_eq_some_iff]

theorem keys_of_apply (shown : p.apply a = .ok row) : row.keys = a.current.keys.filter p.shows := by
  rw [apply_eq_amendAll] at shown
  obtain ⟨mid, dated, decoded⟩ := Except.exists_of_bind_eq_ok shown
  rw [Dict.keys_of_amendAll decoded, Dict.keys_of_amendAll dated, keys_shown]

/-- A column that is named once at most is shown as if it had been read by itself. -/
theorem get?_of_apply (shown : p.apply a = .ok row) (once : p.schema.NamesOnce key)
    (held : (p.shown a).get? key = some v) :
    ∃ w, p.displayed key v = .ok w ∧ row.get? key = some w := by
  rw [apply_eq_amendAll] at shown
  obtain ⟨mid, dated, decoded⟩ := Except.exists_of_bind_eq_ok shown
  rcases once.cases with ⟨one, uncast⟩ | ⟨plain, one⟩ | ⟨plain, uncast⟩
  · obtain ⟨w, written, there⟩ := Dict.get?_of_amendAll_once one dated held
    rw [displayed_of_date (List.count_pos_iff.1 (by omega)) uncast]
    exact ⟨w, written, (Dict.get?_of_amendAll uncast decoded).trans there⟩
  · have held := (Dict.get?_of_amendAll plain dated).trans held
    rw [displayed_of_cast plain (List.count_pos_iff.1 (by omega))]
    exact Dict.get?_of_amendAll_once one decoded held
  · rw [displayed_of_plain plain uncast]
    refine ⟨v, rfl, ?_⟩
    rw [Dict.get?_of_amendAll uncast decoded, Dict.get?_of_amendAll plain dated, held]

/-- If every shown column is named once at most and nothing can be shown, one of them could not be
shown by itself, for the same reason. -/
theorem exists_of_apply_error (once : ∀ key ∈ (p.shown a).keys, p.schema.NamesOnce key)
    (failed : p.apply a = .error e) :
    ∃ key v, (p.shown a).get? key = some v ∧ p.displayed key v = .error e := by
  rw [apply_eq_amendAll] at failed
  obtain undated | ⟨mid, dated, undecoded⟩ := Except.of_bind_eq_error failed
  · obtain ⟨key, v, mem, there, failed, held⟩ := Dict.exists_of_amendAll_error undated
    rcases (once key there).cases with ⟨one, uncast⟩ | ⟨plain, -⟩ | ⟨plain, -⟩
    · exact ⟨key, v, held (Nat.le_of_eq one), (displayed_of_date mem uncast).trans failed⟩
    · exact absurd mem plain
    · exact absurd mem plain
  · obtain ⟨key, v, mem, there, failed, held⟩ := Dict.exists_of_amendAll_error undecoded
    rw [Dict.keys_of_amendAll dated] at there
    rcases (once key there).cases with ⟨-, uncast⟩ | ⟨plain, one⟩ | ⟨-, uncast⟩
    · exact absurd mem uncast
    · refine ⟨key, v, ?_, (displayed_of_cast plain mem).trans failed⟩
      rw [← Dict.get?_of_amendAll plain dated]
      exact held (Nat.le_of_eq one)
    · exact absurd mem uncast

end Projection

namespace Record

variable {m : Model} {r : Record m} {key : String} {v : Value} {row : Row} {e : Error}

/-- Is the key shown, and does the record hold it? -/
def Shows (r : Record m) (key : String) : Prop :=
  r.contains key = true ∧ r.projection.shows key = true

theorem shows_iff :
    r.Shows key ↔ ∃ v, (r.projection.shown r.attributes).get? key = some v := by
  rw [Shows, contains, Attributes.contains, Dict.contains, Option.isSome_iff_exists]
  constructor
  · rintro ⟨⟨v, held⟩, shows⟩
    exact ⟨v, Projection.get?_shown_eq_some_iff.2 ⟨held, shows⟩⟩
  · rintro ⟨v, shown⟩
    obtain ⟨held, shows⟩ := Projection.get?_shown_eq_some_iff.1 shown
    exact ⟨⟨v, held⟩, shows⟩

/-- A shown column is displayed as it is read. -/
theorem displayed_eq (shown : (r.projection.shown r.attributes).get? key = some v) :
    r.projection.displayed key v = (r.read key).bind (r.projection.present key) := by
  have held := (Projection.get?_shown_eq_some_iff.1 shown).1
  rw [read, Attributes.get, held]
  rfl

/-- A column that is named once at most is read and presented, if the record is shown. -/
theorem get?_of_toRow (shown : r.toRow = .ok row) (shows : r.Shows key)
    (once : r.schema.NamesOnce key) :
    ∃ v w, r.read key = .ok v ∧ r.projection.present key v = .ok w ∧ row.get? key = some w := by
  obtain ⟨stored, held⟩ := shows_iff.1 shows
  obtain ⟨w, displayed, there⟩ := Projection.get?_of_apply shown once held
  rw [displayed_eq held] at displayed
  obtain ⟨v, read, presented⟩ := Except.exists_of_bind_eq_ok displayed
  exact ⟨v, w, read, presented, there⟩

/-- If nothing can be shown of readable columns that are named once at most, a date cannot be
written. -/
theorem exists_of_toRow_error
    (readable : ∀ key, r.Shows key → r.schema.NamesOnce key ∧ ∃ v, r.read key = .ok v)
    (failed : r.toRow = .error e) :
    ∃ key t, r.Shows key ∧ r.schema.isDate key = true ∧ r.read key = .ok (.dateTime t) ∧
      m.dateFormat.write t = .error e := by
  have once : ∀ key ∈ (r.projection.shown r.attributes).keys, r.schema.NamesOnce key := by
    intro key mem
    rw [← Dict.contains_iff, Dict.contains, Option.isSome_iff_exists] at mem
    exact (readable key (shows_iff.2 mem)).1
  obtain ⟨key, stored, held, undisplayed⟩ := Projection.exists_of_apply_error once failed
  have shows := shows_iff.2 ⟨stored, held⟩
  obtain ⟨-, v, read⟩ := readable key shows
  rw [displayed_eq held, read] at undisplayed
  obtain ⟨t, rfl, dated, unwritten⟩ := Projection.exists_of_present_error undisplayed
  exact ⟨key, t, shows, dated, read, unwritten⟩

/-- Let a record be shown. Then the shown keys are the visible ones among its attributes, in their
order. A visible column that is named once at most, by the date columns and the casts together, can be
read, and what is read is shown; of a date column that reads a date, its text in the date format is
shown. If such a column cannot be read, nothing is shown. If all visible columns are such and can be
read, then showing the record fails exactly if one of them is a date column whose date the format
cannot write, and with that error. -/
theorem shown_as_read (r : Record m) :
    (∀ row, r.toRow = .ok row →
      row.keys = r.attributes.current.keys.filter r.projection.shows ∧
      ∀ key, r.Shows key → r.schema.NamesOnce key → ∃ v, r.read key = .ok v ∧
        ((∃ t text, v = .dateTime t ∧ r.schema.isDate key = true ∧
            m.dateFormat.write t = .ok text ∧ row.get? key = some (.text text)) ∨
          ((∀ t, v = .dateTime t → r.schema.isDate key = false) ∧ row.get? key = some v))) ∧
    (∀ key e, r.Shows key → r.schema.NamesOnce key → r.read key = .error e →
      ∃ e', r.toRow = .error e') ∧
    ((∀ key, r.Shows key → r.schema.NamesOnce key ∧ ∃ v, r.read key = .ok v) →
      ∀ e, r.toRow = .error e ↔ ∃ key t, r.Shows key ∧ r.schema.isDate key = true ∧
        r.read key = .ok (.dateTime t) ∧ m.dateFormat.write t = .error e) := by
  refine ⟨?_, ?_, ?_⟩
  · intro row shown
    refine ⟨Projection.keys_of_apply shown, ?_⟩
    intro key shows once
    obtain ⟨v, w, read, presented, there⟩ := get?_of_toRow shown shows once
    refine ⟨v, read, ?_⟩
    by_cases date : ∃ t, v = .dateTime t ∧ r.schema.isDate key = true
    · obtain ⟨t, rfl, dated⟩ := date
      rw [Projection.present_dateTime dated] at presented
      obtain ⟨text, written, rfl⟩ := Except.exists_of_map_eq_ok presented
      exact .inl ⟨t, text, rfl, dated, written, there⟩
    · have undated : ∀ t, v = .dateTime t → r.schema.isDate key = false := by
        intro t same
        rw [← Bool.not_eq_true]
        intro dated
        exact date ⟨t, same, dated⟩
      rw [Projection.present_of_undated undated] at presented
      cases presented
      exact .inr ⟨undated, there⟩
  · intro key e shows once unread
    cases shown : r.toRow with
    | error e' => exact ⟨e', rfl⟩
    | ok row =>
        obtain ⟨v, -, read, -, -⟩ := get?_of_toRow shown shows once
        cases unread.symm.trans read
  · intro readable e
    constructor
    · exact exists_of_toRow_error readable
    · rintro ⟨key, t, shows, dated, read, unwritten⟩
      cases shown : r.toRow with
      | error e' =>
          -- The format reports itself, whatever date it cannot write.
          obtain ⟨-, t', -, -, -, unwritten'⟩ := exists_of_toRow_error readable shown
          rw [DateFormat.eq_of_write_error unwritten, DateFormat.eq_of_write_error unwritten']
      | ok row =>
          obtain ⟨v, w, read', presented, -⟩ := get?_of_toRow shown shows (readable key shows).1
          cases read.symm.trans read'
          rw [Projection.present_dateTime dated, projection, unwritten] at presented
          cases presented

/-- A user who was created at New Year and has visited seven times. -/
def visitor : Record { Specimen.users with casts := [("visits", .integer)] } :=
  ofRow _ (.ofList [("visits", .text "7"), ("_note", .null), ("deleted_at", .null),
    ("created_at", .dateTime Specimen.newYear)]) none

/-- The visitor is shown with the number of visits and the date as text. -/
theorem visitor_shown : ∃ row, visitor.toRow = .ok row ∧
    row.keys = ["visits", "deleted_at", "created_at"] ∧
    row.get? "visits" = some (.int 7) ∧
    row.get? "created_at" = some (.text Specimen.newYear.isoText) := by
  have visits : visitor.read "visits" = .ok (.int 7) := rfl
  have created : visitor.read "created_at" = .ok (.dateTime Specimen.newYear) := rfl
  have once : ∀ key ∈ visitor.attributes.current.keys, visitor.schema.NamesOnce key := by
    unfold Schema.NamesOnce
    decide
  have read : ∀ key ∈ visitor.attributes.current.keys, ∃ v, visitor.read key = .ok v := by
    intro key mem
    change key ∈ ["visits", "_note", "deleted_at", "created_at"] at mem
    simp only [List.mem_cons, List.not_mem_nil, or_false] at mem
    rcases mem with rfl | rfl | rfl | rfl
    · exact ⟨_, visits⟩
    · exact ⟨.null, rfl⟩
    · exact ⟨.null, rfl⟩
    · exact ⟨_, created⟩
  have readable : ∀ key, visitor.Shows key →
      visitor.schema.NamesOnce key ∧ ∃ v, visitor.read key = .ok v := by
    intro key shows
    have mem := Dict.contains_iff.1 shows.1
    exact ⟨once key mem, read key mem⟩
  obtain ⟨ok, -, error⟩ := shown_as_read visitor
  cases shown : visitor.toRow with
  | error e =>
      obtain ⟨_, t, -, -, -, unwritten⟩ := (error readable e).1 shown
      cases unwritten.symm.trans (DateFormat.write_iso t)
  | ok row =>
      obtain ⟨keys, values⟩ := ok row shown
      refine ⟨row, rfl, keys, ?_, ?_⟩
      · obtain ⟨v, read, ⟨t, -, rfl, -⟩ | ⟨-, there⟩⟩ := values "visits" ⟨rfl, by decide⟩
          (once _ (by decide))
        · cases read.symm.trans visits
        · rw [there, Except.ok.inj (read.symm.trans visits)]
      · obtain ⟨v, read, ⟨t, text, rfl, -, written, there⟩ | ⟨plain, -⟩⟩ :=
          values "created_at" ⟨rfl, by decide⟩ (once _ (by decide))
        · cases read.symm.trans created
          rw [there, ← Except.ok.inj ((DateFormat.write_iso _).symm.trans written)]
        · cases plain Specimen.newYear (Except.ok.inj (read.symm.trans created))

end Record

end LiveRecord
