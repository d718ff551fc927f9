import LiveRecord.Proofs.Operation
import LiveRecord.Proofs.Saving
import LiveRecord.Proofs.Specimen
import LiveRecord.Proofs.StoredRow

/-!
# The snapshot mirrors the row

A record that was loaded from a row and is edited and saved, successfully or not, keeps a snapshot
whose values agree with the row. Its updates are addressed by the key of the snapshot, so they
find the row even if the key itself has been edited, and they carry all columns in which the
attributes differ from the snapshot, so that after a save the attributes agree with the row as
well.

The invariant is `Mirroring`. Writing attributes keeps it, because it is about the snapshot; a
save carries it over from the row before to the row after the statement.
-/

namespace LiveRecord

open Sql (Condition)

namespace Row

/-- The event is no exchange, or it is an update of the row of a table by its key. -/
def Addressed (table key : String) (row : Row) : Event → Prop
  | .exchanged _ exchange => ∃ assignments condition v w answer,
      exchange = .executed (.statement (.update table assignments [condition])) answer ∧
        condition.AsksFor key v ∧ row.get? key = some w ∧ v.Agrees w
  | .noted _ | .clockRead .. => True

/-- Every exchange is an update of the row by the key that it has at that moment. -/
def AllAddressed (table key : String) : Row → List Event → Prop
  | _, [] => True
  | row, event :: rest =>
    row.Addressed table key event ∧ AllAddressed table key (row.afterEvent table event) rest

variable {table key : String} {row : Row} {events more : List Event}

theorem AllAddressed.append (h : row.AllAddressed table key events)
    (k : (row.after table events).AllAddressed table key more) :
    row.AllAddressed table key (events ++ more) := by
  induction events generalizing row with
  | nil => exact k
  | cons event rest ih => exact ⟨h.1, ih h.2 k⟩

end Row

namespace Record

variable {m : Model} {σ : Type} {key : String} {stored : Row} {r r' : Record m}

/-- The record stands for a stored row: the snapshot agrees with the row and holds its key. -/
structure Mirroring (key : String) (stored : Row) (r : Record m) : Prop where
  persisted : r.persisted = true
  snapshot : r.attributes.snapshot.Mirrors stored
  keyed : r.attributes.snapshot.contains key = true
  contains : r.contains key = true

/-- A record is saved if all its attributes agree with the row. -/
def Saved (stored : Row) (r : Record m) : Prop := r.attributes.current.Mirrors stored

namespace Mirroring

theorem ofRow {row : Row} (there : row.contains key = true) (connection : Option String) :
    Mirroring key row (ofRow m row connection) := ⟨rfl, .refl row, there, there⟩

theorem of_writes {p : String → Prop} (h : Mirroring key stored r) (writes : Writes p r r') :
    Mirroring key stored r' where
  persisted := writes.persisted.trans h.persisted
  snapshot := writes.snapshot.symm ▸ h.snapshot
  keyed := writes.snapshot.symm ▸ h.keyed
  contains := writes.contains h.contains

/-- The key by which an update finds the row agrees with the key of the row. -/
theorem agrees_updateKey (h : Mirroring key stored r) (named : m.primaryKey = some key)
    {name : String} {v : Value} (found : r.updateKey = .ok (name, v)) :
    name = key ∧ ∃ w, stored.get? key = some w ∧ v.Agrees w := by
  obtain ⟨old, there⟩ := Option.isSome_iff_exists.1 h.keyed
  cases (updateKey_of_snapshot named there).symm.trans found
  exact ⟨rfl, h.snapshot _ _ there⟩

/-- Once the dirty columns are set in the row, all attributes agree with it: a column that is not
dirty agrees with the snapshot. -/
theorem saved_of_changes (h : Mirroring key stored r) {stored' : Row}
    (set : ∀ column, stored'.get? column = (r.dirty.get? column).or (stored.get? column)) :
    Saved stored' r := by
  intro column v there
  rw [set]
  rcases Attributes.dirty_or_same there with dirty | ⟨clean, old, hold, same⟩
  · exact ⟨v, by rw [Record.dirty, dirty, Option.some_or], .refl v⟩
  · obtain ⟨w, hw, agrees⟩ := h.snapshot column old hold
    refine ⟨w, by rw [Record.dirty, clean, hw, Option.none_or], ?_⟩
    exact (Value.Agrees.of_same same).symm.trans agrees

theorem sync (h : Mirroring key stored r) {stored' : Row} (saved : Saved stored' r) :
    Mirroring key stored' r.sync := ⟨h.persisted, saved, h.contains, h.contains⟩

end Mirroring

/-- What an operation makes of a record that mirrors a row: it mirrors the row that the
operation's statements leave, and if it has been saved, its attributes agree with that row. -/
def MirrorsOn (key : String) (stored : Row) (result : Except Error Bool) (r : Record m)
    (events : List Event) : Prop :=
  stored.AllAddressed m.table key events ∧
    Mirroring key (stored.after m.table events) r ∧
    (result = .ok true → Saved (stored.after m.table events) r)

theorem mirrorsOn_unsaved {result : Except Error Bool} {events : List Event}
    (unsaved : result ≠ .ok true) (addressed : stored.AllAddressed m.table key events)
    (mirroring : Mirroring key (stored.after m.table events) r) :
    MirrorsOn key stored result r events :=
  ⟨addressed, mirroring, fun saved => absurd saved unsaved⟩

/-- Stamping touches no row. -/
theorem Stamped.after {stamping : Bool} {events : List Event} (h : Stamped stamping r events r')
    (table : String) (stored : Row) : stored.after table events = stored := by
  cases h <;> rfl

theorem Stamped.allAddressed {stamping : Bool} {events : List Event}
    (h : Stamped stamping r events r') (table key : String) (stored : Row) :
    stored.AllAddressed table key events := by
  cases h with
  | skipped _ => trivial
  | stamped _ _ => exact ⟨trivial, trivial⟩

/-- After the clock has been read, the rest of an operation starts from the row as it was. -/
theorem Stamped.mirrorsOn {stamping : Bool} {events more : List Event} {r'' : Record m}
    {result : Except Error Bool} (h : Stamped stamping r events r')
    (rest : MirrorsOn key stored result r'' more) :
    MirrorsOn key stored result r'' (events ++ more) := by
  have same := h.after m.table stored
  rw [MirrorsOn, Row.after_append, same]
  exact ⟨(h.allAddressed m.table key stored).append (same.symm ▸ rest.1), rest.2⟩

theorem Saving.mirrorsOn {stamping : Bool} {resolved : Except Error Executor}
    {result : Except Error Bool} {events : List Event}
    (h : Saving stamping resolved r result r' events) (named : m.primaryKey = some key)
    (mirroring : Mirroring key stored r) : MirrorsOn key stored result r' events := by
  cases h using Saving.persistedCases mirroring.persisted with
  | unresolved failed => exact mirrorsOn_unsaved (by simp) trivial mirroring
  | clean found clean =>
      have saved : Saved stored r := mirroring.saved_of_changes fun column => by
        rw [Dict.isEmpty_iff.1 clean column, Option.none_or]
      exact ⟨trivial, mirroring.sync saved, fun _ => saved⟩
  | unkeyed found dirty stamped failed =>
      next executor e =>
      have rest : MirrorsOn key stored (.error e) r' [] :=
        mirrorsOn_unsaved (by simp) trivial (mirroring.of_writes stamped.writes)
      simpa using stamped.mirrorsOn rest
  | updated found dirty stamped keyed =>
      next executor name v n r₁ events =>
      have mirroring := mirroring.of_writes stamped.writes
      obtain ⟨rfl, w, there, agrees⟩ := mirroring.agrees_updateKey named keyed
      have asks := Condition.AsksFor.of_holds name v
      have meets := asks.meets_iff.2 ⟨w, there, agrees⟩
      have saved : Saved (stored.after m.table
          [.exchanged executor (.executed (.statement (r₁.changes name v)) (.ok n))]) r₁ := by
        refine mirroring.saved_of_changes fun column => ?_
        simp only [Row.after, List.foldl_cons, List.foldl_nil, Row.afterEvent, changes,
          Sql.Statement.updateOf, List.all_cons, List.all_nil, meets, Bool.and_true, and_self,
          if_true]
        exact Row.get?_foldl_set _ r₁.dirty.nodup stored column
      exact stamped.mirrorsOn
        ⟨⟨⟨_, _, v, w, .ok n, rfl, asks, there, agrees⟩, trivial⟩, mirroring.sync saved,
          fun _ => saved⟩
  | updateRefused found dirty stamped keyed =>
      next executor name v cause events =>
      have mirroring := mirroring.of_writes stamped.writes
      obtain ⟨rfl, w, there, agrees⟩ := mirroring.agrees_updateKey named keyed
      exact stamped.mirrorsOn (mirrorsOn_unsaved (by simp)
        ⟨⟨_, _, v, w, .error cause, rfl, .of_holds name v, there, agrees⟩, trivial⟩ mirroring)

theorem Touching.mirrorsOn {resolved : Except Error Executor} {result : Except Error Bool}
    {events : List Event} (h : Touching resolved r result r' events)
    (named : m.primaryKey = some key) (mirroring : Mirroring key stored r) :
    MirrorsOn key stored result r' events := by
  cases h with
  | untimed off => exact mirrorsOn_unsaved (by simp) trivial mirroring
  | saved on stamped saving =>
      exact stamped.mirrorsOn (saving.mirrorsOn named (mirroring.of_writes stamped.writes))

/-- Writing attributes sends nothing and saves nothing. -/
theorem mirrorsOn_of_writes {p : String → Prop} {α : Type} {edit : Edit m σ α} {s : Session σ}
    (mirroring : Mirroring key stored r)
    (ends : edit.Ends ⟨r, s⟩ fun _ r' events => events = [] ∧ Writes p r r') :
    Edit.Ends (edit >>= fun _ => pure false) ⟨r, s⟩ (MirrorsOn key stored) := by
  refine .bind ends ?_ ?_
  · rintro e r' events ⟨rfl, writes⟩
    exact mirrorsOn_unsaved (by simp) trivial (mirroring.of_writes writes)
  · rintro _ r' events s' _ ⟨rfl, writes⟩
    exact .pure (mirrorsOn_unsaved (by simp) trivial (mirroring.of_writes writes))

variable [Pool σ]

/-- Every operation that edits or saves keeps the invariant. -/
theorem mirrorsOn_of_editsOrSaves (named : m.primaryKey = some key) {op : Operation}
    (ok : op.EditsOrSaves) (mirroring : Mirroring key stored r) (s : Session σ) :
    op.perform.Ends (⟨r, s⟩ : Held m σ) (MirrorsOn key stored) := by
  cases op with
  | set name v =>
      refine .write (fun r' written => ?_) fun e _ => ?_
      · have writes := Writes.single (p := fun _ => True) trivial written
        exact .pure (mirrorsOn_unsaved (by simp) trivial (mirroring.of_writes writes))
      · exact mirrorsOn_unsaved (by simp) trivial mirroring
  | fill row => exact mirrorsOn_of_writes mirroring (fill_ends row _)
  | forceFill row => exact mirrorsOn_of_writes mirroring (forceFill_ends row _)
  | saveWith stamping =>
      exact (saveWith_ends stamping _).mono fun result r' events saving =>
        saving.mirrorsOn named mirroring
  | touch =>
      exact (touch_ends _).mono fun result r' events touching =>
        touching.mirrorsOn named mirroring
  | update row =>
      refine .bind (update_ends row _) ?_ ?_
      · intro e r' events updating
        rcases updating.of_persisted mirroring.persisted with
          ⟨_, -, rfl, filled⟩ | ⟨result, r₁, -, filled, saving⟩
        · exact mirrorsOn_unsaved (by simp) trivial (mirroring.of_writes filled)
        · have after := saving.mirrorsOn named (mirroring.of_writes filled)
          exact mirrorsOn_unsaved (by simp) after.1 after.2.1
      · intro outcome r' events s' _ updating
        rcases updating.of_persisted mirroring.persisted with
          ⟨_, failed, -⟩ | ⟨result, r₁, done, filled, saving⟩
        · cases failed
        · cases result with
          | error e => cases done
          | ok saved =>
              cases done
              refine .pure ?_
              rw [List.append_nil]
              exact saving.mirrorsOn named (mirroring.of_writes filled)
  | unset | replace | sync | syncKey | delete | adjust => cases ok

/-- A save of a persisted record that returns says that the record has been saved. -/
theorem eq_true_of_saves {op : Operation} {done : Bool} (saves : op.Saves done)
    (old : r.persisted = true) (s : Session σ) :
    op.perform.Ends (⟨r, s⟩ : Held m σ) fun result _ _ => result = .ok done → done = true := by
  cases op with
  | saveWith stamping =>
      refine (saveWith_ends stamping _).mono ?_
      rintro _ r' events saving rfl
      exact saving.eq_true
  | touch =>
      refine (touch_ends _).mono ?_
      exact fun _ _ _ _ _ => saves
  | update row =>
      refine .bind (update_ends row _) (fun e r' events _ => nofun) ?_
      intro outcome r' events s' _ updating
      rcases updating.of_persisted old with ⟨_, failed, -⟩ | ⟨result, r₁, returned, -, saving⟩
      · cases failed
      · cases result with
        | error e => cases returned
        | ok saved =>
            cases returned
            obtain rfl := saving.eq_true
            exact .pure fun same => (Except.ok.inj same).symm
  | _ => cases saves

/-- Let a record be loaded from a row that holds the primary key of its type, and let it be edited
and saved any number of times, whatever the executors, the resolvers and the clocks do. Then every
statement has been an update of that row by its key. Every value of the snapshot agrees with the
row that the accepted updates have made of the loaded one, and so does every live value once a
save has returned. -/
theorem snapshot_mirrors_row {row : Row} {connection : Option String} {s : Session σ}
    {events : List Event} {held : Held m σ} (named : m.primaryKey = some key)
    (there : row.contains key = true)
    (run : Reaches Operation.EditsOrSaves ⟨.ofRow m row connection, s⟩ events held) :
    row.AllAddressed m.table key events ∧
    held.record.attributes.snapshot.Mirrors (row.after m.table events) ∧
    ∀ (op : Operation) (done : Bool), op.Saves done → (op.run held).1 = .ok done →
      ∃ more, (op.run held).2.session.transcript = held.session.transcript ++ more ∧
        (op.run held).2.record.attributes.current.Mirrors (row.after m.table (events ++ more)) := by
  have invariant : row.AllAddressed m.table key events ∧
      Mirroring key (row.after m.table events) held.record := by
    refine Reaches.invariant (fun events r => row.AllAddressed m.table key events ∧
      Mirroring key (row.after m.table events) r) ?_ ?_ run
    · exact ⟨trivial, .ofRow there connection⟩
    · rintro events r s op ok ⟨addressed, mirroring⟩
      refine (mirrorsOn_of_editsOrSaves named ok mirroring s).mono ?_
      rintro result r' more ⟨addressed', mirroring', -⟩
      rw [Row.after_append]
      exact ⟨addressed.append addressed', mirroring'⟩
  refine ⟨invariant.1, invariant.2.snapshot, fun op done saves returned => ?_⟩
  obtain ⟨_, -, honest⟩ := Operation.run_of_ends
    (eq_true_of_saves saves invariant.2.persisted held.session)
  obtain rfl := honest returned
  obtain ⟨more, grows, -, -, live⟩ := Operation.run_of_ends
    (mirrorsOn_of_editsOrSaves named saves.editsOrSaves invariant.2 held.session)
  refine ⟨more, grows.transcript, ?_⟩
  rw [Row.after_append]
  exact live returned

/-- A changed key reaches the row, and the row is found by it from then on. -/
theorem rekeyed_mirrors : ∃ (events : List Event) (held : Held Specimen.users ScriptedPool),
    held.record.attributes.snapshot.get? "id" = some (.int 7) ∧
    (Specimen.row.after Specimen.users.table events).get? "id" = some (.int 7) ∧
    held.record.attributes.snapshot.Mirrors
      (Specimen.row.after Specimen.users.table events) := by
  have run : Reaches Operation.EditsOrSaves (⟨.ofRow Specimen.users Specimen.row none,
      Specimen.session (.idle false)⟩ : Held Specimen.users ScriptedPool) _ _ :=
    .step (.step .start (.set "id" (.int 7)) trivial rfl) (.saveWith true) trivial rfl
  exact ⟨_, _, rfl, rfl, (snapshot_mirrors_row rfl rfl run).2.1⟩

end Record

end LiveRecord
