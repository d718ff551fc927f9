import LiveRecord.Proofs.Lookup
import LiveRecord.Proofs.StructuredCast

/-!
# Dates under a structured cast

A date column with a structured cast stores its date as the JSON text of the layout `Pattern.iso`, in
quotes, and a blank value as the text `null` or as two quotes. Reading undoes the quotes. Showing
takes the stored text for a date first and does not get to the cast, since no such text is one: of a
record that shows the column nothing can be shown.
-/

namespace LiveRecord

namespace Value

variable {v shown : Value}

/-- What a date column with a structured cast keeps of a value: a date as its text, a blank value as
it is. -/
inductive KeptAs (v : Value) : Value → Prop where
  | blank (blank : v.isBlank = true) : KeptAs v v
  | date (t : DateTime) (filled : v.isBlank = false) (read : v.toDateTime = .ok t) :
      KeptAs v (.text t.isoText)

theorem KeptAs.null_or_text (kept : v.KeptAs shown) : shown = .null ∨ ∃ s, shown = .text s := by
  cases kept with
  | blank blank =>
      rcases isBlank_iff.1 blank with rfl | rfl
      · exact .inl rfl
      · exact .inr ⟨"", rfl⟩
  | date t => exact .inr ⟨t.isoText, rfl⟩

/-- The JSON text of what is kept is neither blank nor a date. -/
theorem KeptAs.toDateTime_print (kept : v.KeptAs shown) :
    (Value.text shown.toJson.print).isBlank = false ∧ (Value.text shown.toJson.print).toDateTime =
      .error (.unrecognized shown.toJson.print) := by
  rcases kept.null_or_text with rfl | ⟨s, rfl⟩
  · refine ⟨by decide, ?_⟩
    unfold toDateTime
    rfl
  · refine ⟨?_, toDateTime_print_ofString s⟩
    rw [isBlank, ← Bool.not_eq_true, String.isEmpty_iff, ← String.toList_inj, Json.Document.print,
      String.toList_ofList]
    exact List.cons_ne_nil _ _

end Value

namespace Schema

variable {schema : Schema} {key : String} {kind : CastKind} {v stored shown : Value}

theorem toDateTime_of_readDate {t : DateTime} (read : readDate key v = .ok t) :
    v.toDateTime = .ok t := by
  rw [readDate] at read
  split at read
  · next found => rw [found, Except.ok.inj read]
  · cases read

/-- A date column with a structured cast stores the JSON text of what it keeps. -/
theorem keptAs_of_toStorage (dated : schema.isDate key = true)
    (structured : schema.isStructured key = true) (stores : schema.toStorage key v = .ok stored) :
    ∃ shown, v.KeptAs shown ∧ stored = .text shown.toJson.print := by
  obtain ⟨normal, normalised, stores⟩ := Except.exists_of_bind_eq_ok stores
  rw [structured, if_pos rfl] at stores
  cases stores
  rw [normalizeDate, dated, Bool.true_and] at normalised
  cases blank : v.isBlank with
  | true =>
      rw [blank, Bool.not_true, if_neg Bool.false_ne_true] at normalised
      cases normalised
      exact ⟨v, .blank blank, rfl⟩
  | false =>
      rw [blank, Bool.not_false, if_pos rfl] at normalised
      obtain ⟨t, read, rfl⟩ := Except.exists_of_map_eq_ok normalised
      exact ⟨.text t.isoText, .date t blank (toDateTime_of_readDate read), rfl⟩

/-- The cast decodes what is kept. -/
theorem decode_of_keptAs (declared : schema.castOf? key = some kind)
    (structured : kind.isStructured = true) (kept : v.KeptAs shown) :
    schema.decode key (.text shown.toJson.print) = .ok shown := by
  rcases kept.null_or_text with rfl | ⟨s, rfl⟩
  · exact decode_print (d := .null) declared structured trivial
  · exact decode_print (d := .ofString s) declared structured trivial

end Schema

namespace Projection

variable {p : Projection} {key : String} {v stored : Value} {a : Attributes} {e : Error}

/-- A date column whose value is no date cannot be written. -/
theorem carry_written_of_undated (dated : key ∈ p.schema.dateColumns) (filled : v.isBlank = false)
    {failure : DateFailure} (unread : v.toDateTime = .error failure) :
    Dict.carry p.written key p.schema.dateColumns v = .error (.invalidDate key failure) := by
  have refused : p.written key v = .error (.invalidDate key failure) := by
    rw [written, filled, if_neg Bool.false_ne_true, Schema.readDate, unread]
    rfl
  rw [Dict.carry_of_mem dated ?_, refused]
  intro _ w changed
  cases refused.symm.trans changed

/-- If the date of a shown column cannot be written, nothing is shown. -/
theorem exists_apply_error (there : a.current.get? key = some stored) (shows : p.shows key = true)
    (failed : Dict.carry p.written key p.schema.dateColumns stored = .error e) :
    ∃ e', p.apply a = .error e' := by
  have held : (p.shown a).get? key = some stored := by
    rw [shown, Dict.get?_filter, there, Option.filter_some, shows]
    rfl
  rw [apply_eq_amendAll]
  cases first : (p.shown a).amendAll p.written p.schema.dateColumns with
  | error e' => exact ⟨e', rfl⟩
  | ok row =>
      obtain ⟨w, carried, -⟩ := Dict.get?_of_amendAll_carry first held
      cases failed.symm.trans carried

end Projection

namespace Record

variable {m : Model}

section Kept

variable {r : Record m} {key : String} {kind : CastKind} {v kept : Value}
  (keeps : v.KeptAs kept)
  (there : r.attributes.current.get? key = some (.text kept.toJson.print))

include keeps there

theorem read_of_keptAs (declared : r.schema.castOf? key = some kind)
    (structured : kind.isStructured = true) : r.read key = .ok kept := by
  have cast : r.schema.hasCast key = true := by
    rw [Schema.hasCast, declared, Option.isSome_some]
  exact (read_of_cast there cast).trans (Schema.decode_of_keptAs declared structured keeps)

variable (dated : r.schema.isDate key = true) (shows : r.projection.shows key = true)

include dated shows

theorem exists_toRow_error : ∃ e, r.toRow = .error e := by
  obtain ⟨filled, unread⟩ := keeps.toDateTime_print
  exact Projection.exists_apply_error there shows
    (Projection.carry_written_of_undated (Schema.isDate_iff.1 dated) filled unread)

/-- If the record holds nothing else, the stored text is reported. -/
theorem toRow_of_keptAs (alone : r.attributes.current.keys = [key]) :
    r.toRow = .error (.invalidDate key (.unrecognized kept.toJson.print)) := by
  obtain ⟨filled, unread⟩ := keeps.toDateTime_print
  rw [toRow, Projection.apply_ofList_singleton shows (Dict.eq_ofList_of_keys alone there),
    Projection.carry_written_of_undated (Schema.isDate_iff.1 dated) filled unread]
  rfl

end Kept

/-- Let a date column be declared with a structured cast, and let a value be set in it. Then reading
the column gives the value if it is blank, and the text of its date otherwise. Whatever else the
record holds, nothing can be shown of it if the column is shown. If the record holds this column
alone, something is shown, namely nothing, if and only if the column is not shown; and if it is, the
stored text is reported, which is no date. -/
theorem structured_date_shown_iff (r : Record m) {key : String} {kind : CastKind}
    (declared : r.schema.castOf? key = some kind) (structured : kind.isStructured = true)
    (dated : r.schema.isDate key = true) {v : Value} {r' : Record m}
    (written : r.write key v = .ok r') :
    ∃ kept, v.KeptAs kept ∧ r'.read key = .ok kept ∧
      (r'.projection.shows key = true → ∃ e, r'.toRow = .error e) ∧
      (r'.attributes.current.keys = [key] →
        ((∃ row, r'.toRow = .ok row) ↔ r'.projection.shows key = false) ∧
        (r'.projection.shows key = true →
          r'.toRow = .error (.invalidDate key (.unrecognized kept.toJson.print)))) := by
  obtain ⟨stored, stores, made⟩ := eq_of_write written
  have encoded : r.schema.isStructured key = true := by
    rw [Schema.isStructured, declared]
    exact structured
  obtain ⟨kept, keeps, rfl⟩ := Schema.keptAs_of_toStorage dated encoded stores
  have same : r'.schema = r.schema := by
    rw [made]
    rfl
  have there : r'.attributes.current.get? key = some (.text kept.toJson.print) := by
    rw [made]
    exact Dict.get?_insert_self r.attributes.current key _
  rw [← same] at declared dated
  refine ⟨kept, keeps, read_of_keptAs keeps there declared structured,
    exists_toRow_error keeps there dated, fun alone => ?_⟩
  have reported (shows : r'.projection.shows key = true) :=
    toRow_of_keptAs keeps there dated shows alone
  refine ⟨⟨?_, fun hides => ?_⟩, reported⟩
  · rintro ⟨row, shown⟩
    cases shows : r'.projection.shows key with
    | false => rfl
    | true => cases (reported shows).symm.trans shown
  · exact ⟨_, Projection.apply_of_hidden hides (Dict.eq_ofList_of_keys alone there)⟩

/-- Users with a day that is due, kept as JSON. -/
def dueUsers : Model := { Specimen.users with casts := [("due", .json)], dates := ["due"] }

/-- A user who holds the day alone. -/
def dueUser (kept : Value) : Record dueUsers :=
  { new dueUsers with attributes := ⟨.ofList [("due", .text kept.toJson.print)], .empty⟩ }

theorem write_dueUser : (new dueUsers).write "due" (.dateTime Specimen.newYear) =
    .ok (dueUser (.text Specimen.newYear.isoText)) := rfl

theorem due_user_not_shown : ∃ kept, (Value.dateTime Specimen.newYear).KeptAs kept ∧
    (dueUser (.text Specimen.newYear.isoText)).read "due" = .ok kept ∧
    ¬ ∃ row, (dueUser (.text Specimen.newYear.isoText)).toRow = .ok row := by
  obtain ⟨kept, keeps, read, -, alone⟩ :=
    structured_date_shown_iff (new dueUsers) rfl rfl (by decide) write_dueUser
  refine ⟨kept, keeps, read, fun shown => ?_⟩
  have hides := (alone rfl).1.1 shown
  exact absurd hides (by decide)

/-- The start of a year and the absent value are read back, and cannot be shown. -/
theorem due_dates_unshown :
    (∃ r : Record dueUsers, (new dueUsers).write "due" (.dateTime Specimen.newYear) = .ok r ∧
      r.read "due" = .ok (.text "2024-01-01T00:00:00") ∧
      r.toRow = .error (.invalidDate "due" (.unrecognized "\"2024-01-01T00:00:00\""))) ∧
    ∃ r : Record dueUsers, (new dueUsers).write "due" .null = .ok r ∧
      r.read "due" = .ok .null ∧
      r.toRow = .error (.invalidDate "due" (.unrecognized "null")) := by
  have text : Specimen.newYear.isoText = "2024-01-01T00:00:00" := by decide
  have dated : (Value.dateTime Specimen.newYear).KeptAs (.text "2024-01-01T00:00:00") := by
    rw [← text]
    exact .date Specimen.newYear rfl rfl
  have quoted : (Value.text "2024-01-01T00:00:00").toJson.print = "\"2024-01-01T00:00:00\"" := by
    decide
  have blank : Value.null.KeptAs .null := .blank rfl
  refine ⟨⟨_, write_dueUser, ?_⟩, dueUser .null, rfl, ?_⟩
  · rw [text, ← quoted]
    exact ⟨read_of_keptAs dated rfl rfl rfl,
      toRow_of_keptAs dated rfl (by decide) (by decide) rfl⟩
  · exact ⟨read_of_keptAs blank rfl rfl rfl, toRow_of_keptAs blank rfl (by decide) (by decide) rfl⟩

end Record

end LiveRecord
