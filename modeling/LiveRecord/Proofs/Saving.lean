import LiveRecord.Proofs.Writing

/-!
# The outcomes of saving

`Saving` lists everything that can come of a save: what it returns, what it leaves of the record
and which events it causes. A save that is refused has stamped the record and otherwise left it
alone, and one that succeeds takes a snapshot of what it has sent. What is proved about saves is
proved from this list, so that only this module opens the definition of a save.
-/

namespace LiveRecord.Record

open Sql (Condition Statement)

variable {m : Model} {σ : Type} [Pool σ]

/-- The update of a row by what is dirty. -/
def changes (r : Record m) (key : String) (v : Value) : Statement :=
  .updateOf m.table r.dirty [.holds key v]

/-- The insertion of a record. -/
def insertion (r : Record m) (returning : Option String) : Statement :=
  .insert m.table r.attributes.current.entries returning

/-- The key that the database generates, if it generates one. -/
def generatedKey? (m : Model) : Option String := if m.incrementing then m.primaryKey else none

/-- The key of the row that an update of the record is about, with its name. -/
def updateKey (r : Record m) : Except Error (String × Value) :=
  (keyName m).bind fun key => (r.keyForUpdate key).map fun v => (key, v)

theorem updateKey_eq_ok_iff {r : Record m} {key : String} {v : Value} :
    r.updateKey = .ok (key, v) ↔ m.primaryKey = some key ∧
      (r.attributes.snapshot.get? key).or (r.attributes.current.get? key) = some v := by
  rw [← keyName_eq_ok_iff, ← keyForUpdate_eq_ok_iff]
  constructor
  · intro keyed
    obtain ⟨name, named, keyed⟩ := Except.exists_of_bind_eq_ok keyed
    obtain ⟨w, found, same⟩ := Except.exists_of_map_eq_ok keyed
    cases same
    exact ⟨named, found⟩
  · rintro ⟨named, found⟩
    rw [updateKey, named]
    exact congrArg (Except.map fun v => (key, v)) found

theorem updateKey_of_snapshot {r : Record m} {key : String} {v : Value}
    (named : m.primaryKey = some key) (held : r.attributes.snapshot.get? key = some v) :
    r.updateKey = .ok (key, v) :=
  updateKey_eq_ok_iff.2 ⟨named, by rw [held, Option.some_or]⟩

/-- What can come of a save of the record `r`, given what the resolver says about its
connection: the result, the record afterwards, and the events. -/
inductive Saving (stamping : Bool) (resolved : Except Error Executor) (r : Record m) :
    Except Error Bool → Record m → List Event → Prop
  | unresolved {e : Error} (failed : resolved = .error e) : Saving stamping resolved r (.error e) r []
  | clean {executor : Executor} (found : resolved = .ok executor) (old : r.persisted = true)
      (clean : r.dirty.isEmpty = true) : Saving stamping resolved r (.ok true) r.sync []
  /-- There is no key to find the row by. -/
  | unkeyed {executor : Executor} {e : Error} {r₁ : Record m} {events : List Event}
      (found : resolved = .ok executor) (old : r.persisted = true)
      (dirty : r.dirty.isEmpty = false) (stamped : Stamped stamping r events r₁)
      (failed : r₁.updateKey = .error e) : Saving stamping resolved r (.error e) r₁ events
  | updated {executor : Executor} {key : String} {v : Value} {n : Nat} {r₁ : Record m}
      {events : List Event} (found : resolved = .ok executor) (old : r.persisted = true)
      (dirty : r.dirty.isEmpty = false) (stamped : Stamped stamping r events r₁)
      (keyed : r₁.updateKey = .ok (key, v)) :
      Saving stamping resolved r (.ok true) r₁.sync
        (events ++ [.exchanged executor (.executed (.statement (r₁.changes key v)) (.ok n))])
  | updateRefused {executor : Executor} {key : String} {v : Value} {cause : DatabaseError}
      {r₁ : Record m} {events : List Event} (found : resolved = .ok executor)
      (old : r.persisted = true) (dirty : r.dirty.isEmpty = false)
      (stamped : Stamped stamping r events r₁) (keyed : r₁.updateKey = .ok (key, v)) :
      Saving stamping resolved r (.error (.database cause)) r₁
        (events ++ [.exchanged executor (.executed (.statement (r₁.changes key v)) (.error cause))])
  | inserted {executor : Executor} {n : Nat} {r₁ : Record m} {events : List Event}
      (found : resolved = .ok executor) (new : r.persisted = false)
      (stamped : Stamped stamping r events r₁) (plain : generatedKey? m = none) :
      Saving stamping resolved r (.ok true) { r₁ with persisted := true }.sync
        (events ++ [.exchanged executor (.executed (.statement (r₁.insertion none)) (.ok n))])
  | insertRefused {executor : Executor} {cause : DatabaseError} {r₁ : Record m}
      {events : List Event} (found : resolved = .ok executor) (new : r.persisted = false)
      (stamped : Stamped stamping r events r₁) (plain : generatedKey? m = none) :
      Saving stamping resolved r (.error (.database cause)) r₁
        (events ++ [.exchanged executor (.executed (.statement (r₁.insertion none)) (.error cause))])
  | keyed {executor : Executor} {key : String} {id : Value} {r₁ r₂ : Record m}
      {events : List Event} (found : resolved = .ok executor) (new : r.persisted = false)
      (stamped : Stamped stamping r events r₁) (generated : generatedKey? m = some key)
      (stored : r₁.write key id = .ok r₂) :
      Saving stamping resolved r (.ok true) { r₂ with persisted := true }.sync
        (events ++ [.exchanged executor
          (.insertedForKey (.statement (r₁.insertion (some key))) key (.ok id))])
  /-- The row is inserted, but its key cannot be stored in the record. -/
  | keyLost {executor : Executor} {key : String} {id : Value} {e : Error} {r₁ : Record m}
      {events : List Event} (found : resolved = .ok executor) (new : r.persisted = false)
      (stamped : Stamped stamping r events r₁) (generated : generatedKey? m = some key)
      (failed : r₁.write key id = .error e) :
      Saving stamping resolved r (.error e) r₁
        (events ++ [.exchanged executor
          (.insertedForKey (.statement (r₁.insertion (some key))) key (.ok id))])
  | keyRefused {executor : Executor} {key : String} {cause : DatabaseError} {r₁ : Record m}
      {events : List Event} (found : resolved = .ok executor) (new : r.persisted = false)
      (stamped : Stamped stamping r events r₁) (generated : generatedKey? m = some key) :
      Saving stamping resolved r (.error (.database cause)) r₁
        (events ++ [.exchanged executor
          (.insertedForKey (.statement (r₁.insertion (some key))) key (.error cause))])

/-- A save that returns says that the record has been saved. -/
theorem Saving.eq_true {stamping done : Bool} {resolved : Except Error Executor}
    {r r' : Record m} {events : List Event}
    (h : Saving stamping resolved r (.ok done) r' events) : done = true := by
  cases h <;> rfl

/-- A save of a persisted record inserts nothing. -/
theorem Saving.persistedCases {stamping : Bool} {resolved : Except Error Executor}
    {r : Record m} (old : r.persisted = true)
    {motive : ∀ {result r' events}, Saving stamping resolved r result r' events → Prop}
    (unresolved : ∀ {e} (failed : resolved = .error e), motive (.unresolved failed))
    (clean : ∀ {executor} (found : resolved = .ok executor) (unchanged : r.dirty.isEmpty = true),
      motive (.clean found old unchanged))
    (unkeyed : ∀ {executor e r₁ events} (found : resolved = .ok executor)
      (dirty : r.dirty.isEmpty = false) (stamped : Stamped stamping r events r₁)
      (failed : r₁.updateKey = .error e), motive (.unkeyed found old dirty stamped failed))
    (updated : ∀ {executor key v n r₁ events} (found : resolved = .ok executor)
      (dirty : r.dirty.isEmpty = false) (stamped : Stamped stamping r events r₁)
      (keyed : r₁.updateKey = .ok (key, v)),
      motive (.updated (n := n) found old dirty stamped keyed))
    (updateRefused : ∀ {executor key v cause r₁ events} (found : resolved = .ok executor)
      (dirty : r.dirty.isEmpty = false) (stamped : Stamped stamping r events r₁)
      (keyed : r₁.updateKey = .ok (key, v)),
      motive (.updateRefused found old dirty stamped keyed :
        Saving stamping resolved r (.error (.database cause)) r₁ _))
    {result : Except Error Bool} {r' : Record m} {events : List Event}
    (h : Saving stamping resolved r result r' events) : motive h := by
  cases h with
  | unresolved failed => exact unresolved failed
  | clean found old unchanged => exact clean found unchanged
  | unkeyed found old dirty stamped failed => exact unkeyed found dirty stamped failed
  | updated found old dirty stamped keyed => exact updated found dirty stamped keyed
  | updateRefused found old dirty stamped keyed => exact updateRefused found dirty stamped keyed
  | inserted _ new => cases old.symm.trans new
  | insertRefused _ new => cases old.symm.trans new
  | keyed _ new => cases old.symm.trans new
  | keyLost _ new => cases old.symm.trans new
  | keyRefused _ new => cases old.symm.trans new

/-- What can come of the sending part of a save, after which a snapshot is taken if all went
well. -/
def Sending (stamping : Bool) (resolved : Except Error Executor) (r : Record m) :
    Except Error Unit → Record m → List Event → Prop
  | .ok _, r', events => Saving stamping resolved r (.ok true) r'.sync events
  | .error e, r', events => Saving stamping resolved r (.error e) r' events

theorem saveChanges_ends {held : Held m σ} {resolved : Except Error Executor}
    {executor : Executor} (found : resolved = .ok executor)
    (old : held.record.persisted = true) (stamping : Bool) :
    (saveChanges (.on m executor held.record.connection) stamping).Ends held
      (Sending stamping resolved held.record) := by
  refine .current ?_
  cases dirty : held.record.dirty.isEmpty with
  | true =>
      rw [if_pos rfl, ← bind_pure (Edit.note _)]
      exact .note fun s _ => .pure (.clean found old dirty)
  | false =>
      rw [if_neg Bool.false_ne_true]
      refine stamping_ends fun r₁ events s _ stamped => .current ?_
      rw [if_neg (by simp [stamped.isEmpty_dirty dirty])]
      refine .ofExcept (fun key hkey => .ofExcept (fun v hv => ?_) fun e he => ?_) fun e he => ?_
      · have keyed : r₁.updateKey = .ok (key, v) := by
          rw [updateKey, hkey]
          exact congrArg (Except.map fun v => (key, v)) hv
        refine .note fun s _ => ?_
        rw [Query.update, if_neg (by simp [stamped.isEmpty_dirty dirty])]
        refine .exchange WP.query_write (fun n s _ => ?_) fun cause => ?_
        · exact .pure (.updated found old dirty stamped keyed)
        · exact .updateRefused found old dirty stamped keyed
      · rw [List.append_nil]
        refine .unkeyed found old dirty stamped ?_
        rw [updateKey, hkey]
        exact congrArg (Except.map fun v => (key, v)) he
      · rw [List.append_nil]
        refine .unkeyed found old dirty stamped ?_
        rw [updateKey, he]
        rfl

theorem saveNew_ends {held : Held m σ} {resolved : Except Error Executor}
    {executor : Executor} (found : resolved = .ok executor)
    (new : held.record.persisted = false) (stamping : Bool) :
    (saveNew (.on m executor held.record.connection) stamping).Ends held
      (Sending stamping resolved held.record) := by
  rw [saveNew]
  refine stamping_ends fun r₁ events s _ stamped => .current ?_
  dsimp only
  split
  · next key hkey hgen =>
    have generated : generatedKey? m = some key := by rw [generatedKey?, if_pos hgen, hkey]
    refine .exchange WP.query_insertGetKey (fun id s _ => .note fun s _ => ?_) fun cause => ?_
    · refine .write (fun r₂ stored => ?_) fun e failed => ?_
      · rw [← bind_pure (Edit.change _)]
        exact .change (.pure (.keyed found new stamped generated stored))
      · exact .keyLost found new stamped generated failed
    · exact .keyRefused found new stamped generated
  · next other =>
    have plain : generatedKey? m = none := by
      rw [generatedKey?]
      split
      · next hgen =>
        cases hkey : m.primaryKey with
        | none => rfl
        | some key => exact absurd hgen (other key hkey)
      · rfl
    refine .exchange WP.query_write (fun n s _ => .note fun s _ => ?_) fun cause => ?_
    · rw [← bind_pure (Edit.change _)]
      exact .change (.pure (.inserted found new stamped plain))
    · exact .insertRefused found new stamped plain

/-- Every save has one of the listed outcomes. -/
theorem saveWith_ends (stamping : Bool) (held : Held m σ) :
    (saveWith stamping).Ends held
      (Saving stamping (held.session.resolved held.record.connection) held.record) := by
  refine .current (.query (fun executor found => ?_) fun e failed => .unresolved failed)
  have completed {send : Edit m σ Unit} (sends : send.Ends held
      (Sending stamping (held.session.resolved held.record.connection) held.record)) :
      Edit.Ends (send >>= fun _ => Edit.change sync >>= fun _ => pure true) held
        (Saving stamping (held.session.resolved held.record.connection) held.record) := by
    refine .bind sends (fun e r events failed => failed) fun _ r events s _ sent => ?_
    refine .change (.pure ?_)
    rw [List.append_nil]
    exact sent
  split
  · next old => exact completed (saveChanges_ends found old stamping)
  · next new => exact completed (saveNew_ends found (by simpa using new) stamping)

/-- What can come of a touch. -/
inductive Touching (resolved : Except Error Executor) (r : Record m) :
    Except Error Bool → Record m → List Event → Prop
  | untimed (off : m.timestamps = false) : Touching resolved r (.ok false) r []
  | saved {result : Except Error Bool} {r₁ r₂ : Record m} {events more : List Event}
      (on : m.timestamps = true) (stamped : Stamped true r events r₁)
      (saving : Saving true resolved r₁ result r₂ more) :
      Touching resolved r result r₂ (events ++ more)

theorem touch_ends (held : Held m σ) :
    touch.Ends held
      (Touching (held.session.resolved held.record.connection) held.record) := by
  rw [touch]
  cases on : m.timestamps with
  | false => exact .pure (.untimed on)
  | true =>
      refine .bind (stamp_ends held) ?_ ?_
      · rintro e r events ⟨hr, -⟩
        cases hr
      · rintro _ r₁ events s grows ⟨-, stamped⟩
        refine (saveWith_ends true ⟨r₁, s⟩).mono fun result r₂ more saving => ?_
        dsimp only at saving
        rw [grows.resolved, stamped.writes.connection] at saving
        exact .saved on stamped saving

/-- What can come of `Record.update`, given the mass-assignment rules of the moment. -/
inductive Updating (g : Guard) (row : Row) (resolved : Except Error Executor) (r : Record m) :
    Except Error UpdateOutcome → Record m → List Event → Prop
  | unfilled {e : Error} {r₁ : Record m} (old : r.persisted = true)
      (filled : Writes (Accepts m g row) r r₁) : Updating g row resolved r (.error e) r₁ []
  | saved {result : Except Error Bool} {r₁ r₂ : Record m} {events : List Event}
      (old : r.persisted = true) (filled : Writes (Accepts m g row) r r₁)
      (saving : Saving true resolved r₁ result r₂ events) :
      Updating g row resolved r (result.map .saved) r₂ events
  | unresolved {e : Error} (new : r.persisted = false) (failed : resolved = .error e) :
      Updating g row resolved r (.error e) r []
  | nothing {executor : Executor} (new : r.persisted = false) (found : resolved = .ok executor)
      (empty : row.isEmpty = true) : Updating g row resolved r (.ok (.table 0)) r []
  /-- The columns of the row are set in the whole table. -/
  | everywhere {executor : Executor} (answer : Except DatabaseError Nat)
      (new : r.persisted = false) (found : resolved = .ok executor)
      (something : row.isEmpty = false) :
      Updating g row resolved r ((answer.mapError .database).map .table) r
        [.exchanged executor (.executed (.statement (.updateOf m.table row [])) answer)]

/-- An update of a persisted record is a fill, and a save unless the fill has failed. -/
theorem Updating.of_persisted {g : Guard} {row : Row} {resolved : Except Error Executor}
    {r r' : Record m} {outcome : Except Error UpdateOutcome} {events : List Event}
    (h : Updating g row resolved r outcome r' events) (old : r.persisted = true) :
    (∃ e, outcome = .error e ∧ events = [] ∧ Writes (Accepts m g row) r r') ∨
      ∃ result r₁, outcome = result.map .saved ∧ Writes (Accepts m g row) r r₁ ∧
        Saving true resolved r₁ result r' events := by
  cases h with
  | unfilled _ filled => exact .inl ⟨_, rfl, rfl, filled⟩
  | saved _ filled saving => exact .inr ⟨_, _, rfl, filled, saving⟩
  | unresolved new => cases old.symm.trans new
  | nothing new => cases old.symm.trans new
  | everywhere _ new => cases old.symm.trans new

theorem update_ends (row : Row) (held : Held m σ) :
    (update row).Ends held
      (Updating (m.guardWith (held.session.registry.isUnguarded m.path)) row
        (held.session.resolved held.record.connection) held.record) := by
  refine .current ?_
  split
  · next old =>
    refine .bind (fill_ends row held) ?_ ?_
    · rintro e r₁ events ⟨rfl, filled⟩
      exact .unfilled old filled
    · rintro _ r₁ events s grows ⟨rfl, filled⟩
      refine .bind (saveWith_ends true ⟨r₁, s⟩) ?_ ?_
      · intro e r₂ more saving
        dsimp only at saving
        rw [grows.resolved, filled.connection] at saving
        exact .saved old filled saving
      · intro done r₂ more _ _ saving
        dsimp only at saving
        rw [grows.resolved, filled.connection] at saving
        refine .pure ?_
        rw [List.append_nil]
        exact .saved old filled saving
  · next new =>
    have new : held.record.persisted = false := by simpa using new
    refine .query (fun executor found => ?_) fun e failed => .unresolved new failed
    rw [Query.update]
    split
    · next empty => exact .pure (.nothing new found empty)
    · next something =>
      refine .exchange WP.query_write (fun n s _ => .pure ?_) fun cause => ?_
      · exact .everywhere (.ok n) new found (by simpa using something)
      · exact .everywhere (.error cause) new found (by simpa using something)

end LiveRecord.Record
