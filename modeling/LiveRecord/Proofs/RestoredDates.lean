import LiveRecord.Proofs.Amendment
import LiveRecord.Proofs.Spellings

/-!
# Dates that are shown and set again

In the layout `Pattern.iso` every date-time of the calendar reads back from its text, so what is shown
of a date column can be set again. The cast of the column, if it has one, comes after the date is
written: a cast that keeps texts shows the text of the date, any other one shows something else or
nothing at all.
-/

namespace LiveRecord

/-- Does a cast show a text as it is? -/
def CastKind.keepsText : CastKind → Bool
  | .text | .other _ => true
  | .integer | .float | .boolean | .list | .mapping | .json | .object => false

theorem Value.coerce_text_of_keeps {kind : CastKind} (keeps : kind.keepsText = true) (s : String) :
    (Value.text s).coerce kind = .ok (.text s) := by
  cases kind <;> first | rfl | cases keeps

namespace Schema

variable {schema : Schema} {column : String}

theorem decode_text_of_keeps
    (keeps : ∀ kind, schema.castOf? column = some kind → kind.keepsText = true) (s : String) :
    schema.decode column (.text s) = .ok (.text s) := by
  rw [decode]
  cases declared : schema.castOf? column with
  | none => rfl
  | some kind =>
      dsimp only
      rw [decodeAs, Value.coerce_text_of_keeps (keeps kind declared)]

theorem readDate_isoText (column : String) (t : DateTime) :
    readDate column (.text t.isoText) = .ok t := by
  rw [readDate, Value.toDateTime_isoText]

theorem toStorage_isoText (dated : schema.isDate column = true)
    (plain : schema.isStructured column = false) (t : DateTime) :
    schema.toStorage column (.text t.isoText) = .ok (.dateTime t) := by
  rw [toStorage_date dated plain (Value.isBlank_isoText t), Value.toDateTime_isoText]

end Schema

namespace Projection

variable {p : Projection} {column : String}

/-- A value that stands for a date is written as its text, in the layout that reads back. -/
theorem written_of_date {v : Value} {t : DateTime} (iso : p.dateFormat = .iso)
    (filled : v.isBlank = false) (read : v.toDateTime = .ok t) :
    p.written column v = .ok (.text t.isoText) := by
  rw [written, filled, if_neg Bool.false_ne_true, Schema.readDate, read, iso]
  show (DateFormat.iso.write t).bind _ = _
  rw [DateFormat.write_iso]
  rfl

/-- However often the column is declared as a date, it is shown as the text of its date. -/
theorem carry_written (iso : p.dateFormat = .iso) (dated : column ∈ p.schema.dateColumns)
    (t : DateTime) : Dict.carry p.written column p.schema.dateColumns (.dateTime t) =
      .ok (.text t.isoText) := by
  have first : p.written column (.dateTime t) = .ok (.text t.isoText) :=
    written_of_date iso rfl rfl
  have again : p.written column (.text t.isoText) = .ok (.text t.isoText) :=
    written_of_date iso (Value.isBlank_isoText t) (Value.toDateTime_isoText t)
  rw [Dict.carry_of_mem dated ?_, first]
  intro _ shown changed
  cases first.symm.trans changed
  exact again

end Projection

/-- Storing the value that is stored changes nothing. -/
theorem Attributes.set_of_current {a : Attributes} {column : String} {v : Value}
    (there : a.current.get? column = some v) : a.set column v = a := by
  rw [set, Dict.insert_of_get? there]

namespace Record

variable {m : Model}

/-- Setting a date column to the text of a date-time stores the date-time. -/
theorem write_isoText (r : Record m) {column : String} (dated : r.schema.isDate column = true)
    (plain : r.schema.isStructured column = false) (t : DateTime) :
    r.write column (.text t.isoText) =
      .ok { r with attributes := r.attributes.set column (.dateTime t) } := by
  rw [write, Schema.toStorage_isoText dated plain]
  rfl

/-- Every date-time of the calendar has a text in the layout `Pattern.iso`, and the text is read as
the date-time. In every date column without a structured cast, setting the text stores the date-time.
Let dates be written in this layout, and let a shown column hold the date-time. Unless the column is
cast to numbers or truth values, the text is shown under it whenever something is shown, and what is
shown besides it, or fails to be shown, is what is shown of the record without the column. So setting
what is shown restores the record. -/
theorem iso_text_restores (r : Record m) {column : String} (dated : r.schema.isDate column = true)
    (plain : r.schema.isStructured column = false) (t : DateTime) :
    ∃ text, DateFormat.iso.write t = .ok text ∧
      (∀ key, Schema.readDate key (.text text) = .ok t) ∧
      r.write column (.text text) =
        .ok { r with attributes := r.attributes.set column (.dateTime t) } ∧
      (m.dateFormat = .iso → r.projection.shows column = true →
        r.attributes.current.get? column = some (.dateTime t) →
        (∀ kind, r.schema.castOf? column = some kind → kind.keepsText = true) →
        (∀ row, r.toRow = .ok row → row.get? column = some (.text text)) ∧
        (∀ without, (r.remove column).map Prod.snd = .ok without →
          r.toRow.map (·.erase column) = without.toRow) ∧
        r.write column (.text text) = .ok r) := by
  refine ⟨t.isoText, DateFormat.write_iso t, fun key => Schema.readDate_isoText key t,
    r.write_isoText dated plain t, fun iso shows there keeps => ?_⟩
  obtain ⟨besides, here⟩ := Projection.apply_of_carry there shows
    (Projection.carry_written iso (Schema.isDate_iff.1 dated) t)
    (Dict.carry_of_fixed fun _ => Schema.decode_text_of_keeps keeps t.isoText)
  refine ⟨here, fun without removed => ?_, ?_⟩
  · rw [eq_of_remove removed]
    exact besides
  · rw [write_isoText r dated plain t, Attributes.set_of_current there]

/-- The last moment of the calendar but half a second, in a leap second. -/
def lastMoment : DateTime where
  date := ⟨262142, 12, 31, by decide, by decide, by decide⟩
  time := ⟨23, 59, 59, 1500000000, by decide, by decide, by decide, by decide⟩

/-- A user of the last days. -/
def lastUser : Record Specimen.users :=
  { new Specimen.users with
    attributes := ⟨.ofList [("name", .text "Ada"), ("created_at", .dateTime lastMoment)], .empty⟩ }

theorem last_user_restored : ∃ text, DateFormat.iso.write lastMoment = .ok text ∧
    text = "+262142-12-31T23:59:60.500" ∧
    (∀ row, lastUser.toRow = .ok row → row.get? "created_at" = some (.text text)) ∧
    lastUser.write "created_at" (.text text) = .ok lastUser := by
  have dated : lastUser.schema.isDate "created_at" = true := by decide
  obtain ⟨text, write, -, -, restores⟩ := iso_text_restores lastUser dated (by decide) lastMoment
  obtain ⟨shown, -, restored⟩ := restores rfl (by decide) rfl nofun
  refine ⟨text, write, ?_, shown, restored⟩
  cases write.symm.trans (DateFormat.write_iso lastMoment)
  decide

/-- Users whose creation is cast. -/
def castUsers (kind : CastKind) : Model :=
  { Specimen.users with casts := [("created_at", kind)] }

/-- A user created at New Year. -/
def castUser (kind : CastKind) : Record (castUsers kind) :=
  { new (castUsers kind) with attributes :=
      ⟨.ofList [("created_at", .dateTime Specimen.newYear)], .empty⟩ }

/-- The cast of the only column is applied to the text of the date. -/
theorem toRow_castUser (kind : CastKind) : (castUser kind).toRow =
    (Schema.decodeAs kind "created_at" (.text "2024-01-01T00:00:00")).map
      fun shown => .ofList [("created_at", shown)] := by
  have text : Specimen.newYear.isoText = "2024-01-01T00:00:00" := by decide
  have once : Dict.carry (castUser kind).schema.decode "created_at" ["created_at"]
      (.text Specimen.newYear.isoText) =
        Schema.decodeAs kind "created_at" (.text Specimen.newYear.isoText) :=
    Dict.carry_of_once rfl _
  have dated := Projection.carry_written (p := (castUser kind).projection) rfl
    (Schema.isDate_iff.1 (by rfl : (castUser kind).schema.isDate "created_at" = true))
    Specimen.newYear
  rw [toRow, Projection.apply_ofList_singleton (by rfl) rfl, dated, ← text, ← once]
  rfl

/-- A cast to truth values shows that there is a date, which is none itself, and a cast to integers
refuses the text of the date. -/
theorem casts_lose_dates :
    ((new (castUsers .boolean)).write "created_at" (.dateTime Specimen.newYear) =
        .ok (castUser .boolean) ∧
      (castUser .boolean).toRow = .ok (.ofList [("created_at", .bool true)]) ∧
      (castUser .boolean).write "created_at" (.bool true) =
        .error (.invalidDate "created_at" (.unsupported .bool))) ∧
    (new (castUsers .integer)).write "created_at" (.dateTime Specimen.newYear) =
        .ok (castUser .integer) ∧
      (castUser .integer).toRow =
        .error (.invalidCast "created_at" "integer" (.integer .invalidDigit)) := by
  have truth : Value.textIsTrue "2024-01-01T00:00:00" = true := by cbv
  refine ⟨⟨rfl, ?_, rfl⟩, rfl, ?_⟩
  · rw [toRow_castUser, Schema.decodeAs]
    simp [Value.coerce, Value.isNull, Value.truthy, truth, Except.map]
  · rw [toRow_castUser]
    rfl

end Record

end LiveRecord
