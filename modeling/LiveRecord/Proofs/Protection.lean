import LiveRecord.Finding
import LiveRecord.Proofs.Equality
import LiveRecord.Proofs.Specimen
import LiveRecord.Proofs.WrittenColumns

/-!
# Mass-assignment protection

What comes from outside reaches the database through fills only, as long as protection is not
lifted. So the columns that are written by creating and updating records are columns that the
guard admits, besides the timestamp columns.

The invariant is `Record.Unexposed`, which says of a record that a save of it writes no other
columns. A new record has it, a record that was just loaded has it unless one of its values is a
number that is no number, and fills keep it.
-/

namespace LiveRecord

open Timestamps (createdAt updatedAt)

/-- The event is no answered query, or one whose rows hold no number that is no number. -/
def Event.NaNFree : Event → Prop
  | .exchanged _ (.queried _ (.ok rows)) => ∀ row ∈ rows, row.NaNFree
  | _ => True

/-- May a protected call write the column? The guard of the model admits it, or it is a timestamp
column that the model uses. -/
def Model.Assignable (m : Model) (column : String) : Prop :=
  (m.guardWith false).isFillable column = true ∨
    m.timestamps = true ∧ (column = createdAt ∨ column = updatedAt)

variable {m : Model} {σ : Type}

namespace Record

variable {r r' : Record m}

/-- A save of the record writes assignable columns only. -/
structure Unexposed (r : Record m) : Prop where
  dirty : ∀ key ∈ r.dirty.keys, m.Assignable key
  live : r.persisted = false → ∀ key ∈ r.attributes.current.keys, m.Assignable key

namespace Unexposed

theorem new (m : Model) : (Record.new m).Unexposed where
  dirty := List.forall_mem_nil _
  live _ := List.forall_mem_nil _

theorem of_clean (old : r.persisted = true) (clean : r.dirty.isEmpty = true) : r.Unexposed where
  dirty key mem := absurd mem (Dict.get?_eq_none_iff.1 (Dict.isEmpty_iff.1 clean key))
  live new := absurd old (by simp [new])

theorem of_writes {p : String → Prop} (h : r.Unexposed) (writes : Writes p r r')
    (admitted : ∀ key, p key → m.Assignable key) : r'.Unexposed where
  dirty key mem := (writes.admitted_or_dirty mem).elim (admitted key) (h.dirty key)
  live new key mem := (writes.admitted_or_mem mem).elim (admitted key)
    (h.live (writes.persisted.symm.trans new) key)

theorem of_fill {row : Row} (h : r.Unexposed)
    (filled : Writes (Accepts m (m.guardWith false) row) r r') : r'.Unexposed :=
  h.of_writes filled fun _ accepted => .inl accepted.2

end Unexposed

/-- A save of an unexposed record writes assignable columns only. -/
theorem Saving.writesOnly {stamping : Bool} {resolved : Except Error Executor}
    {result : Except Error Bool} {events : List Event}
    (h : Saving stamping resolved r result r' events) (unexposed : r.Unexposed) :
    ∀ event ∈ events, event.WritesOnly m.Assignable :=
  h.writesOnly_of (fun stamped => stamped.writes_timestamps.mono fun _ column => .inr column)
    unexposed.dirty unexposed.live

end Record

/-!
## Calls
-/

/-- What a protected call keeps to: if the rows that it loads hold no number that is no number, it
writes assignable columns only. -/
def Model.Protected (m : Model) (events : List Event) : Prop :=
  (∀ event ∈ events, event.NaNFree) → ∀ event ∈ events, event.WritesOnly m.Assignable

/-- The first part of a call: it writes nothing else, and the record that it is about to save is
unexposed if the rows that it has loaded hold no number that is no number. -/
def Model.Obtains (m : Model) (obtained : Record m → Prop) (events : List Event) : Prop :=
  m.Protected events ∧
    ((∀ event ∈ events, event.NaNFree) → ∀ r, obtained r → r.Unexposed)

theorem Model.Protected.append {events more : List Event} (h : m.Protected events)
    (k : (∀ event ∈ events, event.NaNFree) → m.Protected more) :
    m.Protected (events ++ more) := by
  intro free
  obtain ⟨free, free'⟩ := List.forall_mem_append.1 free
  exact List.forall_mem_append.2 ⟨h free, k free free'⟩

namespace Record

variable {s : Session σ} {r : Record m}

theorem fill_unexposed (protection : s.registry.isUnguarded m.path = false) (row : Row) :
    (fill row).Ends (⟨r, s⟩ : Held m σ) fun _ r' events =>
      events = [] ∧ (r.Unexposed → r'.Unexposed) := by
  refine (fill_ends row _).mono ?_
  rintro result r' events ⟨rfl, filled⟩
  dsimp only at filled
  rw [protection] at filled
  exact ⟨rfl, fun unexposed => unexposed.of_fill filled⟩

theorem ofFill_obtains (protection : s.registry.isUnguarded m.path = false) (row : Row) :
    (ofFill m row).Ends s fun result events =>
      events = [] ∧ ∀ r, result = .ok r → r.Unexposed := by
  refine .bind_applyTo (fill_unexposed protection row) ?_ ?_
  · rintro e r events ⟨rfl, -⟩
    exact ⟨rfl, nofun⟩
  · rintro _ r events s' _ ⟨rfl, unexposed⟩
    refine .pure ⟨rfl, fun r' found => ?_⟩
    cases found
    exact unexposed (.new m)

variable [Pool σ]

theorem save_writesOnly (r : Record m) (s : Session σ) :
    save.Ends ⟨r, s⟩ fun _ _ events =>
      r.Unexposed → ∀ event ∈ events, event.WritesOnly m.Assignable :=
  (saveWith_ends true _).mono fun _ _ _ saving unexposed => saving.writesOnly unexposed

/-- The update of a clean record sends what the fill has written, and stamps. -/
theorem update_protected (protection : s.registry.isUnguarded m.path = false)
    (old : r.persisted = true) (clean : r.dirty.isEmpty = true) (row : Row) :
    ((update row).applyTo r).Ends s fun _ events => m.Protected events := by
  refine .applyTo ((update_ends row _).mono fun outcome r' events updating _ => ?_)
  dsimp only at updating
  rw [protection] at updating
  rcases updating.of_persisted old with ⟨_, -, rfl, -⟩ | ⟨result, r₁, -, filled, saving⟩
  · exact List.forall_mem_nil _
  · exact saving.writesOnly ((Unexposed.of_clean old clean).of_fill filled)

end Record

namespace Model

variable [Pool σ] {s : Session σ}

theorem create_protected (protection : s.registry.isUnguarded m.path = false) (row : Row) :
    (m.create row).Ends s fun _ events => m.Protected events := by
  refine .bind (Record.ofFill_obtains protection row) ?_ ?_
  · rintro e events ⟨rfl, -⟩ _
    exact List.forall_mem_nil _
  · rintro r events s' _ ⟨rfl, unexposed⟩
    refine .bind_applyTo (Record.save_writesOnly r s') ?_ ?_
    · exact fun e r' events only _ => only (unexposed r rfl)
    · intro done r' events _ _ only
      refine .pure ?_
      rw [List.append_nil]
      exact fun _ => only (unexposed r rfl)

theorem firstWith_obtains (row : Row) :
    (m.firstWith row).Ends s fun result events =>
      m.Obtains (fun r => result = .ok (some r)) events := by
  refine .query (fun executor _ => ?_) fun e _ => ⟨fun _ => List.forall_mem_nil _, fun _ _ => nofun⟩
  refine WP.mono WP.query_first ?_
  rintro result reached ⟨answer, rfl, grows⟩
  refine ⟨_, grows, fun _ => List.forall_mem_singleton.2 ⟨_, rfl, List.forall_mem_nil _⟩, ?_⟩
  intro free r found
  cases answer with
  | error cause => cases found
  | ok rows =>
      have first := Except.ok.inj found
      obtain ⟨loaded, mem, rfl⟩ := List.mem_map.1 (List.mem_of_head? first)
      have clean := (Attributes.dirty_sync_isEmpty_iff ⟨loaded, .empty⟩).2
        (List.forall_mem_singleton.1 free loaded mem)
      exact .of_clean rfl clean

theorem firstOrCreate_protected (protection : s.registry.isUnguarded m.path = false) (row : Row) :
    (m.firstOrCreate row).Ends s fun _ events => m.Protected events := by
  refine .bind (firstWith_obtains row) (fun e events found => found.1) ?_
  rintro (_ | r) events s' grows found
  · refine (create_protected ((grows.protection _).trans protection) row).mono ?_
    exact fun _ more created => found.1.append fun _ => created
  · refine .pure ?_
    rw [List.append_nil]
    exact found.1

theorem firstOrNew_obtains (protection : s.registry.isUnguarded m.path = false) (row : Row) :
    (m.firstOrNew row).Ends s fun result events =>
      m.Obtains (fun r => result = .ok r) events := by
  refine .bind (firstWith_obtains row) (fun e events found => ⟨found.1, fun _ _ => nofun⟩) ?_
  rintro (_ | r) events s' grows found
  · refine (Record.ofFill_obtains ((grows.protection _).trans protection) row).mono ?_
    rintro result more ⟨rfl, unexposed⟩
    rw [List.append_nil]
    exact ⟨found.1, fun _ => unexposed⟩
  · refine .pure ?_
    rw [List.append_nil]
    refine ⟨found.1, fun free r' obtained => ?_⟩
    cases obtained
    exact found.2 free r rfl

theorem updateOrCreate_protected (protection : s.registry.isUnguarded m.path = false)
    (row values : Row) :
    (m.updateOrCreate row values).Ends s fun _ events => m.Protected events := by
  refine .bind (firstOrNew_obtains protection row) (fun e events found => found.1) ?_
  intro r events s' grows found
  refine .bind_applyTo (Record.fill_unexposed ((grows.protection _).trans protection) values) ?_ ?_
  · rintro e r' more ⟨rfl, -⟩
    rw [List.append_nil]
    exact found.1
  · rintro _ r' more s'' _ ⟨rfl, filled⟩
    have unexposed (free : ∀ event ∈ events, event.NaNFree) := filled (found.2 free r rfl)
    refine .bind_applyTo (Record.save_writesOnly r' s'') ?_ ?_
    · exact fun e r'' more only => found.1.append fun free _ => only (unexposed free)
    · intro done r'' more _ _ only
      refine .pure ?_
      rw [List.append_nil]
      exact found.1.append fun free _ => only (unexposed free)

/-- As long as the protection of a type is not lifted, what is created, found or created, updated
or created, or updated when nothing was dirty, writes columns that the guard of the type admits,
and timestamp columns. Rows that are loaded on the way must hold no number that is no number, for
such an attribute is dirty as soon as it is loaded. -/
theorem mass_assignment_protected (protection : s.registry.isUnguarded m.path = false) :
    (∀ row, (m.create row).Ends s fun _ events => m.Protected events) ∧
    (∀ row, (m.firstOrCreate row).Ends s fun _ events => m.Protected events) ∧
    (∀ row values, (m.updateOrCreate row values).Ends s fun _ events => m.Protected events) ∧
    ∀ r : Record m, r.persisted = true → r.dirty.isEmpty = true → ∀ row,
      ((Record.update row).applyTo r).Ends s fun _ events => m.Protected events :=
  ⟨create_protected protection, firstOrCreate_protected protection,
    updateOrCreate_protected protection, fun _ old clean => Record.update_protected protection old clean⟩

/-- A row that names a column which may not be mass assigned. -/
def promotion : Row := .ofList [("users.name", .text "Ada"), ("admin", .bool true)]

/-- The user is created without that column. -/
theorem promotion_protected :
    (Specimen.session (.idle false)).registry.isUnguarded Specimen.users.path = false ∧
    ((Specimen.users.create promotion).Ends (Specimen.session (.idle false))
      fun _ events => Specimen.users.Protected events) ∧
    ∃ (r : Record Specimen.users) (later : Session ScriptedPool),
      Specimen.users.create promotion (Specimen.session (.idle false)) = .ok r later ∧
      r.attributes.current.keys = ["name", "updated_at", "created_at", "id"] :=
  ⟨rfl, (mass_assignment_protected rfl).1 promotion, _, _, rfl, rfl⟩

end Model

end LiveRecord
