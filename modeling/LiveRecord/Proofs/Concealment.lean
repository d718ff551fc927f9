import LiveRecord.Proofs.ShownValues

/-!
# Hidden attributes

Of a record only its exposed attributes are shown: those on the list of visible keys, or, if that
list is empty, those that are neither hidden nor internal. The others are left out before any date
is written and any value is decoded, and the walks over the date columns and over the casts pass a
column by that has been left out. So the output is a function of the exposed attributes. Two records
that expose the same have the same output, a failure included, whatever else they hold, and a
failure is one of an exposed column. This is so after any changes of what is hidden, visible or a
date.
-/

namespace LiveRecord

namespace Projection

variable {p p' : Projection} {a a' : Attributes} {key : String} {v : Value} {e : Error}

/-- What is shown depends on the attributes that are, on how they are read and on the date format.
-/
theorem apply_congr (schema : p.schema = p'.schema) (format : p.dateFormat = p'.dateFormat)
    (shown : p.shown a = p'.shown a') : p.apply a = p'.apply a' := by
  have written : p.written = p'.written := by
    funext key v
    rw [Projection.written, Projection.written, format]
  rw [apply_eq_amendAll, apply_eq_amendAll, schema, written, shown]

/-- How the value of one column can fail to be shown. -/
inductive FailsAt (p : Projection) (key : String) : Error → Prop
  | unreadable (dated : key ∈ p.schema.dateColumns) (failure : DateFailure) :
      FailsAt p key (.invalidDate key failure)
  | unwritable (dated : key ∈ p.schema.dateColumns) :
      FailsAt p key (.invalidDateFormat p.dateFormat.pattern)
  | undecodable {kind : CastKind} (cast : p.schema.castOf? key = some kind)
      (failure : CastFailure) : FailsAt p key (.invalidCast key kind.name failure)

theorem FailsAt.of_written (dated : key ∈ p.schema.dateColumns)
    (failed : p.written key v = .error e) : p.FailsAt key e := by
  rw [written] at failed
  split at failed
  · cases failed
  · obtain unread | ⟨t, -, unwritten⟩ := Except.of_bind_eq_error failed
    · rw [Schema.readDate] at unread
      split at unread
      · cases unread
      · cases unread
        exact .unreadable dated _
    · obtain unwritten | ⟨text, -, done⟩ := Except.of_bind_eq_error unwritten
      · rw [DateFormat.eq_of_write_error unwritten]
        exact .unwritable dated
      · cases done

theorem FailsAt.of_decode (failed : p.schema.decode key v = .error e) : p.FailsAt key e := by
  rw [Schema.decode] at failed
  split at failed
  · next kind cast =>
    rw [Schema.decodeAs] at failed
    split at failed
    · cases failed
    · cases failed
      exact .undecodable cast _
  · cases failed

/-- If nothing can be shown, one of the shown columns is the reason. -/
theorem exists_failsAt (failed : p.apply a = .error e) :
    ∃ key ∈ (p.shown a).keys, p.FailsAt key e := by
  rw [apply_eq_amendAll] at failed
  obtain undated | ⟨mid, dated, undecoded⟩ := Except.of_bind_eq_error failed
  · obtain ⟨key, v, mem, there, failed, -⟩ := Dict.exists_of_amendAll_error undated
    exact ⟨key, there, .of_written mem failed⟩
  · obtain ⟨key, v, -, there, failed, -⟩ := Dict.exists_of_amendAll_error undecoded
    rw [Dict.keys_of_amendAll dated] at there
    exact ⟨key, there, .of_decode failed⟩

end Projection

/-- The changes of what is shown of a record. -/
inductive OutputChange where
  | setHidden (keys : List String)
  | addHidden (keys : List String)
  | setVisible (keys : List String)
  | addVisible (keys : List String)
  | addDates (keys : List String)

namespace Record

variable {m : Model} {r r' : Record m} {key : String} {v : Value} {row : Row} {e : Error}

/-- Make a change of what is shown. -/
def change (r : Record m) : OutputChange → Record m
  | .setHidden keys => r.setHidden keys
  | .addHidden keys => r.addHidden keys
  | .setVisible keys => r.setVisible keys
  | .addVisible keys => r.addVisible keys
  | .addDates keys => r.addDates keys

/-- Make changes of what is shown, one after another. -/
def presented (r : Record m) (changes : List OutputChange) : Record m := changes.foldl change r

/-- Does the output include what is held under the key? -/
def Exposes (r : Record m) (key : String) : Prop :=
  if r.visible = [] then key ∉ r.hidden ∧ key.toList.head? ≠ some '_' else key ∈ r.visible

instance (r : Record m) (key : String) : Decidable (r.Exposes key) :=
  inferInstanceAs (Decidable (if r.visible = [] then key ∉ r.hidden ∧ key.toList.head? ≠ some '_'
    else key ∈ r.visible))

/-- The attributes that the output includes, in their order. -/
def exposed (r : Record m) : List (String × Value) :=
  r.attributes.current.entries.filter fun entry => decide (r.Exposes entry.1)

theorem exposes_iff : r.Exposes key ↔ r.projection.shows key = true := by
  have visible : r.projection.visible = r.visible := rfl
  rw [Exposes, Projection.shows, visible]
  by_cases unlisted : r.visible = []
  · rw [if_pos unlisted, if_pos (List.isEmpty_iff.2 unlisted)]
    simp [isInternalKey, projection]
  · rw [if_neg unlisted, if_neg (mt List.isEmpty_iff.1 unlisted), List.contains_iff_mem]

theorem entries_shown : (r.projection.shown r.attributes).entries = r.exposed := by
  simp only [Projection.shown, Dict.filter, exposed, exposes_iff, Bool.decide_eq_true]

/-- A change of what is shown is the same for two records as far as dates are concerned. -/
theorem dates_change (alike : r.dates = r'.dates) (c : OutputChange) :
    (r.change c).dates = (r'.change c).dates := by
  cases c with
  | addDates keys => exact congrArg (keys.foldl addDate) alike
  | _ => exact alike

theorem dates_presented (alike : r.dates = r'.dates) (changes : List OutputChange) :
    (r.presented changes).dates = (r'.presented changes).dates := by
  induction changes generalizing r r' with
  | nil => exact alike
  | cons c rest ih => exact ih (dates_change alike c)

/-- Two records with the same date columns that expose the same have the same output. -/
theorem toRow_eq_of_exposed (alike : r.dates = r'.dates) (same : r.exposed = r'.exposed) :
    r.toRow = r'.toRow := by
  refine Projection.apply_congr ?_ rfl (Dict.ext ?_)
  · exact congrArg (Schema.mk m.casts) alike
  · rw [entries_shown, entries_shown, same]

/-- Let the same changes of what is shown be made to two records with the same date columns, and let
them then expose the same attributes. Then their outputs are the same, as a row, as a document and
as its text, and a failure of one is a failure of the other. The keys of the output are the exposed
ones, and a failure is one of an exposed column. -/
theorem output_ignores_unexposed (changes : List OutputChange) {r r' : Record m}
    (alike : r.dates = r'.dates)
    (same : (r.presented changes).exposed = (r'.presented changes).exposed) :
    (r.presented changes).toRow = (r'.presented changes).toRow ∧
    (r.presented changes).toJson = (r'.presented changes).toJson ∧
    (r.presented changes).toJson.map Json.Document.print =
      (r'.presented changes).toJson.map Json.Document.print ∧
    (∀ row, (r.presented changes).toRow = .ok row →
      row.keys = Entries.keys (r.presented changes).exposed) ∧
    ∀ e, (r.presented changes).toRow = .error e →
      ∃ key ∈ Entries.keys (r.presented changes).exposed,
        (r.presented changes).projection.FailsAt key e := by
  have row : (r.presented changes).toRow = (r'.presented changes).toRow :=
    toRow_eq_of_exposed (dates_presented alike changes) same
  have document : (r.presented changes).toJson = (r'.presented changes).toJson :=
    congrArg (Except.map Row.toJson) row
  refine ⟨row, document, congrArg (Except.map Json.Document.print) document, ?_, ?_⟩
  · intro row shown
    rw [Projection.keys_of_apply shown, ← Projection.keys_shown, Dict.keys, entries_shown]
  · intro e failed
    obtain ⟨key, there, fails⟩ := Projection.exists_failsAt failed
    rw [Dict.keys, entries_shown] at there
    exact ⟨key, there, fails⟩

/-- Users whose settings are a document. -/
def configured : Model := { Specimen.users with casts := [("settings", .json)] }

/-- A user who holds a document and a date that cannot be read. -/
def garbled : Record configured :=
  ofRow configured (.ofList [("settings", .text "["), ("name", .text "Ada"),
    ("born", .text "soon")]) none

/-- A user of the same name who holds neither. -/
def spare : Record configured := ofRow configured (.ofList [("name", .text "Ada")]) none

/-- The settings and the date of birth are hidden. -/
def concealing : List OutputChange :=
  [.addDates ["born"], .setHidden ["born"], .addHidden ["settings"]]

/-- The output of both is the name; without the changes one of them cannot be shown. -/
theorem garbled_shown_as_spare :
    (garbled.presented concealing).toRow = (spare.presented concealing).toRow ∧
    (garbled.presented concealing).toRow = .ok (.ofList [("name", .text "Ada")]) ∧
    (garbled.presented [.addDates ["born"]]).toRow =
      .error (.invalidDate "born" (.unrecognized "soon")) ∧
    (garbled.presented [.setHidden ["born"]]).toRow =
      .error (.invalidCast "settings" "json" (.json .unexpectedEnd)) := by
  exact ⟨(output_ignores_unexposed concealing rfl rfl).1, rfl, rfl, rfl⟩

end Record

end LiveRecord
