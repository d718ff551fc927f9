import LiveRecord.Proofs.Equality
import LiveRecord.Proofs.Saving
import LiveRecord.Proofs.Specimen

/-!
# Saving twice

A record is clean when its snapshot has just been taken, and saving a clean record does nothing.
Both hold for every record that holds no binary64 number that is no number. Such a number differs
from itself, so the attribute that holds it is dirty for ever, and every save sends it again.
-/

namespace LiveRecord

namespace Record

variable {m : Model} {σ : Type} {stamping done : Bool} {resolved : Except Error Executor}
variable {r r' : Record m} {result : Except Error Bool} {events : List Event}

/-- A successful save ends with a snapshot of a record that is persisted, on a connection that was
found. -/
theorem Saving.of_ok (h : Saving stamping resolved r (.ok done) r' events) :
    r'.sync = r' ∧ r'.persisted = true ∧ r'.connection = r.connection ∧
      ∃ executor, resolved = .ok executor := by
  cases h with
  | clean found old => exact ⟨rfl, old, rfl, _, found⟩
  | updated found old dirty stamped =>
      exact ⟨rfl, stamped.writes.persisted.trans old, stamped.writes.connection, _, found⟩
  | inserted found new stamped => exact ⟨rfl, rfl, stamped.writes.connection, _, found⟩
  | keyed found new stamped generated stored =>
      have written := Writes.single (p := fun _ => True) trivial stored
      exact ⟨rfl, rfl, written.connection.trans stamped.writes.connection, _, found⟩

/-- A save of a clean record does nothing but take a snapshot. -/
theorem Saving.of_clean (h : Saving stamping resolved r result r' events)
    {executor : Executor} (found : resolved = .ok executor) (old : r.persisted = true)
    (clean : r.dirty.isEmpty = true) : result = .ok true ∧ r' = r.sync ∧ events = [] := by
  cases h using Saving.persistedCases old with
  | clean => exact ⟨rfl, rfl, rfl⟩
  | unresolved failed => cases failed.symm.trans found
  | unkeyed _ dirty => cases clean.symm.trans dirty
  | updated _ dirty => cases clean.symm.trans dirty
  | updateRefused _ dirty => cases clean.symm.trans dirty

/-- A successful save that sends nothing finds the record clean. -/
theorem Saving.clean_of_silent (h : Saving stamping resolved r (.ok done) r' []) :
    r.dirty.isEmpty = true := by
  generalize hevents : ([] : List Event) = events at h
  cases h with
  | clean _ _ clean => exact clean
  | updated => simp at hevents
  | inserted => simp at hevents
  | keyed => simp at hevents

variable [Pool σ]

/-- After a successful save the record is clean, and another save does nothing, if and only if no
live attribute is a number that is no number. The same condition decides whether a record is clean
that was just loaded or of which a snapshot was just taken. -/
theorem clean_iff_nanFree (held : Held m σ) {saved : Held m σ}
    (run : saveWith stamping held = .ok done saved) :
    (∀ row connection, (ofRow m row connection).dirty.isEmpty = true ↔ row.NaNFree) ∧
    (∀ r : Record m, r.sync.dirty.isEmpty = true ↔ r.attributes.current.NaNFree) ∧
    (saved.record.dirty.isEmpty = true ↔ saved.record.attributes.current.NaNFree) ∧
    ∀ again, (∃ later, saveWith again saved = .ok true ⟨saved.record, later⟩ ∧
        later.transcript = saved.session.transcript) ↔
      saved.record.attributes.current.NaNFree := by
  obtain ⟨events, grows, saving⟩ := (saveWith_ends stamping held).of_ok run
  obtain ⟨synced, old, connection, executor, found⟩ := saving.of_ok
  have clean : saved.record.dirty.isEmpty = true ↔ saved.record.attributes.current.NaNFree := by
    have := saved.record.attributes.dirty_sync_isEmpty_iff
    rwa [← sync_attributes, synced] at this
  refine ⟨fun row connection => Attributes.dirty_sync_isEmpty_iff ⟨row, .empty⟩,
    fun r => r.attributes.dirty_sync_isEmpty_iff, clean, fun again => ?_⟩
  have same : saved.session.resolved saved.record.connection = .ok executor := by
    rw [connection, grows.resolved, found]
  rw [← clean]
  constructor
  · rintro ⟨later, run', silent⟩
    obtain ⟨more, grows', saving'⟩ := (saveWith_ends again saved).of_ok run'
    obtain rfl : more = [] := by simpa [silent] using grows'.transcript
    exact saving'.clean_of_silent
  · intro isClean
    have ends : WP (saveWith again) (fun result reached => result = .ok true ∧
        reached.record = saved.record ∧
        reached.session.transcript = saved.session.transcript) saved := by
      refine WP.mono (saveWith_ends again saved) ?_
      rintro result reached ⟨more, grows', saving'⟩
      obtain ⟨hr, record, rfl⟩ := saving'.of_clean same old isClean
      exact ⟨hr, record.trans synced, by simpa using grows'.transcript⟩
    obtain ⟨⟨r', later⟩, run', record, silent⟩ := ends.exists_ok
    obtain rfl : r' = saved.record := record
    exact ⟨later, run', silent⟩

theorem renamed_clean_after_save : ∃ saved : Held Specimen.users ScriptedPool,
    saveWith true ⟨Specimen.renamed, Specimen.session (.idle false)⟩ = .ok true saved ∧
      saved.record.dirty.isEmpty = true :=
  have run := rfl
  ⟨_, run, (clean_iff_nanFree ⟨Specimen.renamed, Specimen.session (.idle false)⟩ run).2.2.1.2
    (by decide)⟩

/-- A row with a score that is no number. -/
def unscoredRow : Row := .ofList [("id", .int 1), ("score", .float (0 / 0))]

/-- Its record is dirty as soon as it is loaded, and every save sends the score again. -/
theorem unscored_never_clean : (ofRow Specimen.users unscoredRow none).dirty.isEmpty = false ∧
    ∃ saved later : Held Specimen.users ScriptedPool,
      saveWith true ⟨ofRow Specimen.users unscoredRow none, Specimen.session (.idle false)⟩ =
        .ok true saved ∧ saved.record.dirty.isEmpty = false ∧
      saveWith true saved = .ok true later ∧
        later.session.transcript ≠ saved.session.transcript :=
  ⟨rfl, _, _, rfl, rfl, rfl, fun same => absurd (congrArg List.length same) (by decide)⟩

end Record

end LiveRecord
