import LiveRecord.Proofs.Idempotence

/-!
# What a save of a persisted record writes

A save decides three times what is dirty: whether there is anything to do, whether the caller has
changed the time of the last update, and which columns to send once that time is stamped. Stamping
changes one column of the live attributes at most, so the three answers fit together: the one
statement sets the columns that were dirty before, and the stamped column if its stored form is not
the saved one.
-/

namespace LiveRecord.Record

open Timestamps (updatedAt)

variable {m : Model} {σ : Type} {r r₁ : Record m} {reading : Option DateTime}

/-- The live attributes that a save sends. If it reads the clock, the reading is the time of the
last update, unless the caller has changed that. -/
def sentAttributes (r : Record m) : Option DateTime → Row
  | none => r.attributes.current
  | some now =>
    if r.isDirty [updatedAt] then r.attributes.current
    else r.attributes.current.insert updatedAt (r.schema.stampForm updatedAt now)

/-- The record with the live attributes that a save sends, before anything is saved. -/
def sending (r : Record m) (reading : Option DateTime) : Record m :=
  { r with attributes := { r.attributes with current := r.sentAttributes reading } }

/-- The reading of the model's clock as an event, if there is one. -/
def readings (m : Model) (reading : Option DateTime) : List Event :=
  reading.toList.map (.clockRead m.path)

/-- Is the row what a save writes that has read the clock, or has not? It holds some of the live
attributes in their order: those that were dirty before, and the time of the last update if it was
stamped with something else than the saved one. -/
structure ChangeSet (r : Record m) (reading : Option DateTime) (row : Row) : Prop where
  live : row.entries.Sublist (r.sentAttributes reading).entries
  mem_iff : ∀ column, column ∈ row.keys ↔ column ∈ r.dirty.keys ∨
    column = updatedAt ∧ updatedAt ∉ r.dirty.keys ∧ ∃ now, reading = some now ∧
      r.attributes.differs updatedAt (r.schema.stampForm updatedAt now) = true

/-!
## Stamping
-/

/-- A persisted record is stamped in the column of the last update or not at all. -/
theorem stampedAt_of_persisted (old : r.persisted = true) (now : DateTime) :
    r.stampedAt now = r.sending (some now) := by
  rw [stampedAt, stampedColumns, Timestamps.stamps, old, sending, sentAttributes]
  cases r.isDirty [updatedAt] with
  | true => rfl
  | false => rfl

/-- The clock is read if stamping is on for the save and the model. -/
theorem Stamped.exists_reading {stamping : Bool} {events : List Event}
    (h : Stamped stamping r events r₁) (old : r.persisted = true) :
    ∃ reading, (reading.isSome = true ↔ stamping = true ∧ m.timestamps = true) ∧
      events = readings m reading ∧ r₁ = r.sending reading := by
  cases h with
  | skipped off =>
      refine ⟨none, ?_, rfl, rfl⟩
      rw [← Bool.and_eq_true, off]
      exact Iff.rfl
  | stamped on now =>
      refine ⟨some now, ?_, rfl, stampedAt_of_persisted old now⟩
      rw [← Bool.and_eq_true, on]
      exact Iff.rfl

/-- Stamping leaves the other columns alone. -/
theorem get?_sentAttributes (reading : Option DateTime) {column : String}
    (other : column ≠ updatedAt) :
    (r.sentAttributes reading).get? column = r.attributes.current.get? column := by
  cases reading with
  | none => rfl
  | some now =>
      rw [sentAttributes]
      split
      · rfl
      · exact Dict.get?_insert_of_ne _ _ (Ne.symm other)

/-- After the stamping the column of the last update is dirty if it was before, or if the stamp is
not what is saved. -/
theorem isDirty_sending_updatedAt : (r.sending reading).isDirty [updatedAt] = true ↔
    r.isDirty [updatedAt] = true ∨ r.isDirty [updatedAt] = false ∧ ∃ now, reading = some now ∧
      r.attributes.differs updatedAt (r.schema.stampForm updatedAt now) = true := by
  cases reading with
  | none => simp [sending, sentAttributes]
  | some now =>
      rw [sending, sentAttributes]
      cases dirty : r.isDirty [updatedAt] with
      | true => simp [dirty]
      | false => simp [isDirty, Attributes.isDirty_singleton, Attributes.differs]

/-- What is dirty after the stamping is what the save is to write. -/
theorem changeSet_dirty (r : Record m) (reading : Option DateTime) :
    r.ChangeSet reading (r.sending reading).dirty where
  live := List.filter_sublist
  mem_iff column := by
    simp only [← isDirty_singleton_iff, Bool.not_eq_true]
    by_cases stamp : column = updatedAt
    · rw [stamp, isDirty_sending_updatedAt, eq_self, true_and]
    · have same : (r.sending reading).isDirty [column] = r.isDirty [column] :=
        Attributes.isDirty_singleton_congr (get?_sentAttributes reading stamp) rfl
      rw [same]
      exact (or_iff_left fun h => stamp h.1).symm

/-!
## Saving
-/

/-- There is a key to find the row by if one is declared and held. -/
theorem exists_updateKey {key : String} (declared : m.primaryKey = some key)
    (there : key ∈ r.attributes.snapshot.keys ∨ key ∈ r.attributes.current.keys) :
    ∃ v, r.updateKey = .ok (key, v) := by
  have held : ((r.attributes.snapshot.get? key).or (r.attributes.current.get? key)).isSome := by
    rw [Option.isSome_or, Bool.or_eq_true]
    exact there.imp Dict.contains_iff.2 Dict.contains_iff.2
  obtain ⟨v, held⟩ := Option.isSome_iff_exists.1 held
  exact ⟨v, updateKey_eq_ok_iff.2 ⟨declared, held⟩⟩

/-- What comes of the save of a persisted record that holds changes: the record is stamped, and one
statement is sent to the executor if there is a key to find the row by. -/
structure SavedChanges (stamping : Bool) (executor : Executor) (r : Record m)
    (reading : Option DateTime) (result : Except Error Bool) (r' : Record m)
    (events : List Event) : Prop where
  read_iff : reading.isSome = true ↔ stamping = true ∧ m.timestamps = true
  sent : ∀ key, m.primaryKey = some key →
    key ∈ r.attributes.snapshot.keys ∨ key ∈ (r.sentAttributes reading).keys →
    ∃ v condition row answer, r.ChangeSet reading row ∧
      (r.attributes.snapshot.get? key).or ((r.sentAttributes reading).get? key) = some v ∧
      condition.AsksFor key v ∧
      events = readings m reading ++ [.exchanged executor (.executed (.statement
        (.update m.table (row.entries.map fun entry => .set entry.1 entry.2) [condition]))
        answer)] ∧
      result = (answer.mapError .database).map fun _ => true
  unsent : (∀ key, m.primaryKey = some key →
      key ∉ r.attributes.snapshot.keys ∧ key ∉ (r.sentAttributes reading).keys) →
    events = readings m reading ∧ ∃ e, result = .error e
  saved : ∀ done, result = .ok done → r' = (r.sending reading).sync
  kept : ∀ e, result = .error e → r' = r.sending reading

namespace SavedChanges

variable {stamping : Bool} {executor : Executor} {key : String} {v : Value}

/-- Without a key nothing is sent. -/
theorem of_unkeyed {e : Error}
    (read_iff : reading.isSome = true ↔ stamping = true ∧ m.timestamps = true)
    (failed : (r.sending reading).updateKey = .error e) :
    SavedChanges stamping executor r reading (.error e) (r.sending reading) (readings m reading)
    where
  read_iff := read_iff
  sent key declared there := by
    obtain ⟨v, keyed⟩ := exists_updateKey (r := r.sending reading) declared there
    cases failed.symm.trans keyed
  unsent _ := ⟨rfl, e, rfl⟩
  saved done h := by cases h
  kept _ _ := rfl

/-- With a key the statement is sent, and its answer decides about the snapshot. -/
theorem of_keyed {result : Except Error Bool} {r' : Record m}
    (read_iff : reading.isSome = true ↔ stamping = true ∧ m.timestamps = true)
    (keyed : (r.sending reading).updateKey = .ok (key, v)) (answer : Except DatabaseError Nat)
    (returned : result = (answer.mapError .database).map fun _ => true)
    (saved : ∀ done, result = .ok done → r' = (r.sending reading).sync)
    (kept : ∀ e, result = .error e → r' = r.sending reading) :
    SavedChanges stamping executor r reading result r' (readings m reading ++
      [.exchanged executor
        (.executed (.statement ((r.sending reading).changes key v)) answer)]) where
  read_iff := read_iff
  sent name declared _ := by
    obtain ⟨declared', held⟩ := updateKey_eq_ok_iff.1 keyed
    obtain rfl : key = name := Option.some.inj (declared'.symm.trans declared)
    exact ⟨v, _, _, answer, changeSet_dirty r reading, held, .of_holds key v, rfl, returned⟩
  unsent absent := by
    obtain ⟨declared, held⟩ := updateKey_eq_ok_iff.1 keyed
    have none : (r.attributes.snapshot.get? key).or ((r.sentAttributes reading).get? key) = none :=
      Option.or_eq_none_iff.2 ⟨Dict.get?_eq_none_iff.2 (absent key declared).1,
        Dict.get?_eq_none_iff.2 (absent key declared).2⟩
    cases held.symm.trans none
  saved := saved
  kept := kept

end SavedChanges

/-- The save of a persisted record that holds changes stamps it and sends them. -/
theorem Saving.savedChanges {stamping : Bool} {resolved : Except Error Executor}
    {result : Except Error Bool} {r' : Record m} {events : List Event}
    (h : Saving stamping resolved r result r' events) {executor : Executor}
    (found : resolved = .ok executor) (old : r.persisted = true)
    (dirty : r.dirty.isEmpty = false) :
    ∃ reading, SavedChanges stamping executor r reading result r' events := by
  cases h using Saving.persistedCases old with
  | unresolved failed => cases failed.symm.trans found
  | clean _ unchanged => cases unchanged.symm.trans dirty
  | unkeyed _ _ stamped failed =>
      obtain ⟨reading, read_iff, rfl, rfl⟩ := stamped.exists_reading old
      exact ⟨reading, .of_unkeyed read_iff failed⟩
  | @updated _ key v n _ _ found' _ stamped keyed =>
      obtain rfl := Except.ok.inj (found'.symm.trans found)
      obtain ⟨reading, read_iff, rfl, rfl⟩ := stamped.exists_reading old
      refine ⟨reading, .of_keyed read_iff keyed (.ok n) rfl (fun _ _ => rfl) fun e h => ?_⟩
      cases h
  | @updateRefused _ key v cause _ _ found' _ stamped keyed =>
      obtain rfl := Except.ok.inj (found'.symm.trans found)
      obtain ⟨reading, read_iff, rfl, rfl⟩ := stamped.exists_reading old
      refine ⟨reading, .of_keyed read_iff keyed (.error cause) rfl ?_ fun _ _ => rfl⟩
      intro done h
      cases h

variable [Pool σ]

/-- Let a persisted record be saved whose connection is found. If nothing is dirty, nothing is sent
and no clock is read. Otherwise the clock is read once if stamping is on for the call and the model,
and not at all if not. The reading is stored as the time of the last update, unless that is dirty,
and nothing else is stored. Then, if the key column is declared and is in the snapshot or among the
live attributes, one update is sent. It sets, in the order of the attributes, the columns that were
dirty and the time of the last update, if that was stamped with a value whose stored form is not in
the snapshot; each is set to its live value. If the save succeeds, the live attributes become the
snapshot, and if it fails, the snapshot stays. -/
theorem save_writes_changes (stamping : Bool) (held : Held m σ) {executor : Executor}
    (found : held.session.resolved held.record.connection = .ok executor)
    (old : held.record.persisted = true) :
    (saveWith stamping).Ends held fun result r' events =>
      (held.record.dirty.isEmpty = true →
        result = .ok true ∧ r' = held.record.sync ∧ events = []) ∧
      (held.record.dirty.isEmpty = false →
        ∃ reading, SavedChanges stamping executor held.record reading result r' events) := by
  refine (saveWith_ends stamping held).mono fun result r' events saving => ⟨?_, ?_⟩
  · exact saving.of_clean found old
  · exact saving.savedChanges found old

/-- Of a user whose name is to be saved, the name and the time of the update are written. -/
theorem renamed_writes_name_and_time : ∃ (saved : Held Specimen.users ScriptedPool)
    (now : DateTime) (row : Row) (answer : Except DatabaseError Nat),
    saveWith true ⟨Specimen.renamed, Specimen.session (.idle false)⟩ = .ok true saved ∧
      saved.session.transcript = [.clockRead "app::User" now, .exchanged ⟨0, .sqlite⟩
        (.executed (.statement (.update "users" (row.entries.map fun entry => .set entry.1 entry.2)
          [.equals "id" (.int 1)])) answer)] ∧
      (∀ column, column ∈ row.keys ↔ column = "name" ∨ column = "updated_at") ∧
      saved.record.snapshot? "name" = some (.text "Grace") := by
  obtain ⟨saved, run⟩ : ∃ saved,
      saveWith true ⟨Specimen.renamed, Specimen.session (.idle false)⟩ = .ok true saved := ⟨_, rfl⟩
  obtain ⟨events, grows, -, changed⟩ := (save_writes_changes true
    ⟨Specimen.renamed, Specimen.session (.idle false)⟩ rfl rfl).of_ok run
  obtain ⟨reading, changes⟩ := changed rfl
  obtain ⟨now, rfl⟩ := Option.isSome_iff_exists.1 (changes.read_iff.2 ⟨rfl, rfl⟩)
  obtain ⟨v, condition, row, answer, set, held, asks, sent, -⟩ :=
    changes.sent "id" rfl (.inl (by decide))
  obtain rfl : .int 1 = v := Option.some.inj held
  refine ⟨saved, now, row, answer, run, ?_, fun column => ?_, ?_⟩
  · cases asks
    rw [grows.transcript, sent]
    rfl
  · rw [set.mem_iff]
    have dirty : Specimen.renamed.dirty.keys = ["name"] := rfl
    have unsaved : Specimen.renamed.attributes.differs "updated_at" = fun _ => true := rfl
    simp [dirty, updatedAt, unsaved]
  · rw [changes.saved true rfl]
    rfl

end LiveRecord.Record
