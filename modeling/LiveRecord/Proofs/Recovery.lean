import LiveRecord.Proofs.Addressing
import LiveRecord.Proofs.Saving
import LiveRecord.Proofs.Specimen

/-!
# Failed calls

A call that fails leaves the standing of the record and its snapshot as they were, so that the
call can be made again or the record be given up. What it may leave behind are stamps in columns
that were not dirty and, of an update, what the fill has written. This is read off the lists of
outcomes: every outcome that is a failure ends in a record that was written to, at most.
-/

namespace LiveRecord.Record

variable {m : Model} {σ : Type}

/-- At most attributes under keys that `p` admits differ in the second record, and its standing
and its snapshot are those of the first. -/
structure Recoverable (p : String → Prop) (r r' : Record m) : Prop where
  persisted : r'.persisted = r.persisted
  snapshot : r'.attributes.snapshot = r.attributes.snapshot
  live : ∀ key, ¬ p key → r'.attributes.current.get? key = r.attributes.current.get? key

theorem Writes.recoverable {p : String → Prop} {r r' : Record m} (h : Writes p r r') :
    Recoverable p r r' := ⟨h.persisted, h.snapshot, fun _ other => h.get?_eq other⟩

/-- A failed save has stamped the record at most. -/
theorem Saving.writes_of_error {stamping : Bool} {resolved : Except Error Executor}
    {r r' : Record m} {e : Error} {events : List Event}
    (h : Saving stamping resolved r (.error e) r' events) : Writes r.Stampable r r' := by
  cases h with
  | unresolved failed => exact .refl r
  | unkeyed found old dirty stamped failed => exact stamped.writes
  | updateRefused found old dirty stamped keyed => exact stamped.writes
  | insertRefused found new stamped plain => exact stamped.writes
  | keyLost found new stamped generated failed => exact stamped.writes
  | keyRefused found new stamped generated => exact stamped.writes

/-- The stamps of a touch and those of its save go into the same columns. -/
theorem Touching.writes_of_error {resolved : Except Error Executor} {r r' : Record m} {e : Error}
    {events : List Event} (h : Touching resolved r (.error e) r' events) :
    Writes r.Stampable r r' := by
  cases h with
  | saved on stamped saving =>
      refine stamped.writes.trans (saving.writes_of_error.mono fun column => ?_)
      exact Stampable.of_writes stamped.writes

/-- Of an update, the fill comes first. A column that is stamped afterwards could be stamped
before the call, unless the fill has written it. -/
theorem Updating.writes_of_error {g : Guard} {row : Row} {resolved : Except Error Executor}
    {r r' : Record m} {e : Error} {events : List Event}
    (h : Updating g row resolved r (.error e) r' events) :
    Writes (fun key => r.persisted = true ∧ (r.Stampable key ∨ Accepts m g row key)) r r' := by
  generalize hresult : Except.error e = result at h
  cases h with
  | unfilled old filled => exact filled.mono fun key accepted => ⟨old, .inr accepted⟩
  | saved old filled saving =>
      next result r₁ =>
      cases result with
      | ok done => cases hresult
      | error e =>
          refine (filled.mono fun key accepted => ⟨old, .inr accepted⟩).trans
            (saving.writes_of_error.mono fun key stampable => ⟨old, ?_⟩)
          by_cases accepted : Accepts m g row key
          · exact .inr accepted
          · rw [Stampable, filled.isDirty_eq accepted, filled.persisted] at stampable
            exact .inl stampable
  | unresolved new failed => exact .refl r
  | nothing new found empty => exact .refl r
  | everywhere answer new found something => exact .refl r

theorem Deleting.eq_of_error {resolved : Except Error Executor} {r r' : Record m} {e : Error}
    {events : List Event} (h : Deleting resolved r (.error e) r' events) : r' = r := by
  cases h <;> rfl

theorem Adjusting.eq_of_error {step : Step} {column : String} {amount : Value}
    {resolved : Except Error Executor} {r r' : Record m} {e : Error} {events : List Event}
    (h : Adjusting step column amount resolved r (.error e) r' events) : r' = r := by
  generalize hresult : Except.error e = result at h
  cases h with
  | stored => cases hresult
  | _ => rfl

variable [Pool σ]

/-- Whatever makes a call fail, the record can be used as before. A failed save or touch has
stamped columns that were not dirty, and that of the creation only in a record that was not
persisted. A failed update of a persisted record may have filled it as well. A failed deletion
or adjustment has changed nothing. -/
theorem recoverable_of_error (held held' : Held m σ) (e : Error) :
    (∀ stamping, saveWith stamping held = .error e held' →
      Recoverable held.record.Stampable held.record held'.record) ∧
    (touch held = .error e held' →
      Recoverable held.record.Stampable held.record held'.record) ∧
    (∀ row, update row held = .error e held' →
      Recoverable (fun key => held.record.persisted = true ∧ (held.record.Stampable key ∨
        Accepts m (m.guardWith (held.session.registry.isUnguarded m.path)) row key))
        held.record held'.record) ∧
    (delete held = .error e held' → held'.record = held.record) ∧
    ∀ step column amount, adjust step column amount held = .error e held' →
      held'.record = held.record := by
  refine ⟨fun stamping run => ?_, fun run => ?_, fun row run => ?_, fun run => ?_,
    fun step column amount run => ?_⟩
  · obtain ⟨events, -, saving⟩ := (saveWith_ends stamping held).of_error run
    exact saving.writes_of_error.recoverable
  · obtain ⟨events, -, touching⟩ := (touch_ends held).of_error run
    exact touching.writes_of_error.recoverable
  · obtain ⟨events, -, updating⟩ := (update_ends row held).of_error run
    exact updating.writes_of_error.recoverable
  · obtain ⟨events, -, deleting⟩ := (delete_ends held).of_error run
    exact deleting.eq_of_error
  · obtain ⟨events, -, adjusting⟩ := (adjust_ends step column amount held).of_error run
    exact adjusting.eq_of_error

/-- An executor that refuses the first statement. -/
def busy : Scripted := (Scripted.idle false).pushAffected (.error (.query "locked"))

/-- The stamp of a refused save stays in the record. -/
theorem refused_recoverable : ∃ held' : Held Specimen.users ScriptedPool,
    saveWith true ⟨Specimen.renamed, Specimen.session busy⟩ =
      .error (.database (.query "locked")) held' ∧
    held'.record.isDirty ["updated_at"] = true ∧
    Recoverable Specimen.renamed.Stampable Specimen.renamed held'.record := by
  refine ⟨_, rfl, by decide, ?_⟩
  exact (recoverable_of_error ⟨Specimen.renamed, Specimen.session busy⟩ _ _).1 true rfl

end LiveRecord.Record
