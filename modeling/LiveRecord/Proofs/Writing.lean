import LiveRecord.Proofs.Outcome
import LiveRecord.Record.Persistence

/-!
# What is written into a record

Filling and stamping change a record by writing attributes, one after another. `Record.Writes`
is such a chain of writes under admitted keys. It keeps the standing of the record, its snapshot
and its settings, removes no attribute, and leaves every other key as it is, with its dirtiness.
-/

namespace LiveRecord

open Timestamps (createdAt updatedAt)

variable {m : Model} {σ : Type}

namespace Record

/-- A chain of writes, all of them under keys that `p` admits. -/
inductive Writes (p : String → Prop) : Record m → Record m → Prop
  | refl (r : Record m) : Writes p r r
  | step {r r₁ r₂ : Record m} {key : String} {v : Value} (admitted : p key)
      (first : r.write key v = .ok r₁) (rest : Writes p r₁ r₂) : Writes p r r₂

namespace Writes

variable {p q : String → Prop} {r r₁ r₂ : Record m}

theorem single {key : String} {v : Value} (admitted : p key) (h : r.write key v = .ok r₁) :
    Writes p r r₁ := .step admitted h (.refl r₁)

theorem mono (h : Writes p r r₁) (imp : ∀ key, p key → q key) : Writes q r r₁ := by
  induction h with
  | refl r => exact .refl r
  | step admitted first _ ih => exact .step (imp _ admitted) first ih

theorem trans (h : Writes p r r₁) (k : Writes p r₁ r₂) : Writes p r r₂ := by
  induction h with
  | refl r => exact k
  | step admitted first _ ih => exact .step admitted first (ih k)

/-- Nothing but the current attributes changes. -/
theorem eq_with_current (h : Writes p r r₁) :
    r₁ = { r with attributes := { r.attributes with current := r₁.attributes.current } } := by
  induction h with
  | refl r => rfl
  | step admitted first rest ih =>
      obtain ⟨stored, -, rfl⟩ := eq_of_write first
      exact ih

theorem persisted (h : Writes p r r₁) : r₁.persisted = r.persisted := by
  rw [h.eq_with_current]

theorem connection (h : Writes p r r₁) : r₁.connection = r.connection := by
  rw [h.eq_with_current]

theorem schema (h : Writes p r r₁) : r₁.schema = r.schema := by
  rw [h.eq_with_current]
  rfl

theorem snapshot (h : Writes p r r₁) : r₁.attributes.snapshot = r.attributes.snapshot := by
  rw [h.eq_with_current]

theorem get?_eq (h : Writes p r r₁) {key : String} (other : ¬ p key) :
    r₁.attributes.current.get? key = r.attributes.current.get? key := by
  induction h with
  | refl r => rfl
  | step admitted first rest ih =>
      obtain ⟨stored, -, rfl⟩ := eq_of_write first
      rw [ih, Attributes.set_current, Dict.get?_insert_of_ne]
      rintro rfl
      exact other admitted

theorem contains (h : Writes p r r₁) {key : String} (there : r.contains key = true) :
    r₁.contains key = true := by
  induction h with
  | refl r => exact there
  | step admitted first rest ih =>
      obtain ⟨stored, -, rfl⟩ := eq_of_write first
      refine ih ?_
      simp only [Record.contains, Attributes.contains, Attributes.set_current, Dict.contains,
        Dict.get?_insert] at there ⊢
      split
      · rfl
      · exact there

theorem isDirty_eq (h : Writes p r r₁) {key : String} (other : ¬ p key) :
    r₁.isDirty [key] = r.isDirty [key] :=
  Attributes.isDirty_singleton_congr (h.get?_eq other) (by rw [h.snapshot])

/-- What is dirty afterwards was dirty before or has been written. -/
theorem admitted_or_dirty (h : Writes p r r₁) {key : String} (dirty : key ∈ r₁.dirty.keys) :
    p key ∨ key ∈ r.dirty.keys := by
  by_cases admitted : p key
  · exact .inl admitted
  · rw [← isDirty_singleton_iff, h.isDirty_eq admitted] at dirty
    exact .inr (isDirty_singleton_iff.1 dirty)

theorem admitted_or_mem (h : Writes p r r₁) {key : String}
    (there : key ∈ r₁.attributes.current.keys) : p key ∨ key ∈ r.attributes.current.keys := by
  by_cases admitted : p key
  · exact .inl admitted
  · rw [← Dict.contains_iff, Dict.contains, h.get?_eq admitted] at there
    exact .inr (Dict.contains_iff.1 there)

/-- Writes that spare the dirty keys leave a dirty record dirty. -/
theorem isEmpty_dirty (h : Writes p r r₁) (spared : ∀ key, p key → r.isDirty [key] = false)
    (dirty : r.dirty.isEmpty = false) : r₁.dirty.isEmpty = false := by
  rw [← Bool.not_eq_true, Dict.isEmpty_iff] at dirty ⊢
  intro clean
  refine dirty fun key => Dict.get?_eq_none_iff.2 fun mem => ?_
  have before := isDirty_singleton_iff.2 mem
  have other : ¬ p key := fun admitted => by
    rw [spared key admitted] at before
    cases before
  rw [← h.isDirty_eq other] at before
  exact Dict.get?_eq_none_iff.1 (clean key) (isDirty_singleton_iff.1 before)

end Writes

end Record

/-!
## Refused values
-/

namespace Schema

/-- Does the column refuse the value? A date column takes dates and blank values only. -/
def Refuses (schema : Schema) (key : String) (v : Value) : Prop :=
  schema.isDate key = true ∧ v.isBlank = false ∧ ∃ failure, v.toDateTime = .error failure

theorem toStorage_error_iff {schema : Schema} {key : String} {v : Value} :
    (∃ e, schema.toStorage key v = .error e) ↔ schema.Refuses key v := by
  have normal : (∃ e, schema.toStorage key v = .error e) ↔
      ∃ e, schema.normalizeDate key v = .error e := by
    rw [toStorage]
    cases schema.normalizeDate key v <;> simp [bind, Except.bind, pure, Except.pure]
  rw [normal, normalizeDate, Refuses, readDate]
  cases schema.isDate key with
  | false => simp
  | true =>
      cases v.isBlank with
      | true => simp
      | false => cases v.toDateTime <;> simp [Except.map]

end Schema

namespace Record

variable {r r₁ : Record m} {key : String} {v : Value}

/-- A value is stored unless its column refuses it. -/
theorem write_error_iff : (∃ e, r.write key v = .error e) ↔ r.schema.Refuses key v := by
  rw [← Schema.toStorage_error_iff, write]
  cases r.schema.toStorage key v <;> simp [bind, Except.bind, pure, Except.pure]

theorem not_refuses_of_write (stored : r.write key v = .ok r₁) : ¬ r.schema.Refuses key v := by
  intro refused
  obtain ⟨e, failed⟩ := write_error_iff.2 refused
  cases stored.symm.trans failed

/-- What has no value in the snapshot is dirty. -/
theorem isDirty_of_unsaved (held : r.attributes.current.get? key = some v)
    (unsaved : r.attributes.snapshot.get? key = none) : r.isDirty [key] = true := by
  rw [isDirty, Attributes.isDirty_singleton, held, Option.any_some, Attributes.differs, unsaved]

end Record

/-!
## Stamping
-/

namespace Schema

/-- The form in which a time is stored under a column. -/
def stampForm (schema : Schema) (column : String) (now : DateTime) : Value :=
  if schema.isStructured column then .text (Value.dateTime now).toJson.print else .dateTime now

/-- A time can be stored under every column. -/
theorem toStorage_dateTime (schema : Schema) (column : String) (now : DateTime) :
    schema.toStorage column (.dateTime now) = .ok (schema.stampForm column now) := by
  have normal : schema.normalizeDate column (.dateTime now) = .ok (.dateTime now) := by
    rw [normalizeDate]
    split <;> rfl
  simp only [toStorage, normal, stampForm]
  rfl

end Schema

namespace Record

/-- The record with a time stored under a column. -/
def stampColumn (now : DateTime) (r : Record m) (column : String) : Record m :=
  { r with attributes := r.attributes.set column (r.schema.stampForm column now) }

/-- The columns that a save stamps. -/
def stampedColumns (r : Record m) (now : DateTime) : List String :=
  (Timestamps.stamps (!r.persisted) now fun column => r.isDirty [column]).map Prod.fst

/-- The record with the timestamp columns stamped for a save. -/
def stampedAt (r : Record m) (now : DateTime) : Record m :=
  (r.stampedColumns now).foldl (stampColumn now) r

/-- May a save stamp the column? It is a timestamp column that is not dirty, and that of the
creation only in a record that is not persisted. -/
def Stampable (r : Record m) (column : String) : Prop :=
  r.isDirty [column] = false ∧
    (column = updatedAt ∨ column = createdAt ∧ r.persisted = false)

/-- What a save with or without stamping makes of a record before it sends anything: either
nothing, or the clock is read once for all columns. -/
inductive Stamped (stamping : Bool) (r : Record m) : List Event → Record m → Prop
  | skipped (off : (stamping && m.timestamps) = false) : Stamped stamping r [] r
  | stamped (on : (stamping && m.timestamps) = true) (now : DateTime) :
      Stamped stamping r [.clockRead m.path now] (r.stampedAt now)

theorem write_dateTime (r : Record m) (column : String) (now : DateTime) :
    r.write column (.dateTime now) = .ok (r.stampColumn now column) := by
  rw [write, Schema.toStorage_dateTime]
  rfl

theorem mem_stampedColumns_iff {r : Record m} {now : DateTime} {column : String} :
    column ∈ r.stampedColumns now ↔ r.Stampable column := by
  simp [stampedColumns, Timestamps.mem_stamps_iff, Stampable]

theorem writes_stampColumns {p : String → Prop} (now : DateTime) {columns : List String}
    (admitted : ∀ column ∈ columns, p column) (r : Record m) :
    Writes p r (columns.foldl (stampColumn now) r) := by
  induction columns generalizing r with
  | nil => exact .refl r
  | cons column rest ih =>
      have first := admitted column List.mem_cons_self
      exact .step first (write_dateTime r column now)
        (ih (fun c hc => admitted c (List.mem_cons_of_mem _ hc)) _)

/-- A stamped column holds the form of the time. -/
theorem get?_stampColumns (now : DateTime) {columns : List String} {column : String}
    (mem : column ∈ columns) (r : Record m) :
    (columns.foldl (stampColumn now) r).attributes.current.get? column =
      some (r.schema.stampForm column now) := by
  induction columns generalizing r with
  | nil => cases mem
  | cons first rest ih =>
      by_cases later : column ∈ rest
      · exact ih later _
      · obtain rfl := (List.mem_cons.1 mem).resolve_right later
        have writes := writes_stampColumns (p := (· ∈ rest)) now (fun _ mem => mem)
          (r.stampColumn now column)
        rw [List.foldl_cons, writes.get?_eq later]
        exact Dict.get?_insert_self _ _ _

/-- Only a model with timestamps is stamped. -/
theorem Stamped.writes_stampable {stamping : Bool} {r r₁ : Record m} {events : List Event}
    (h : Stamped stamping r events r₁) :
    Writes (fun column => m.timestamps = true ∧ r.Stampable column) r r₁ := by
  cases h with
  | skipped _ => exact .refl r
  | stamped on now =>
      exact writes_stampColumns now (fun column hc =>
        ⟨(Bool.and_eq_true_iff.1 on).2, mem_stampedColumns_iff.1 hc⟩) r

theorem Stamped.writes {stamping : Bool} {r r₁ : Record m} {events : List Event}
    (h : Stamped stamping r events r₁) : Writes r.Stampable r r₁ :=
  h.writes_stampable.mono fun _ admitted => admitted.2

theorem Stamped.writes_timestamps {stamping : Bool} {r r₁ : Record m} {events : List Event}
    (h : Stamped stamping r events r₁) :
    Writes (fun column => m.timestamps = true ∧ (column = createdAt ∨ column = updatedAt)) r r₁ := by
  refine h.writes_stampable.mono ?_
  rintro column ⟨on, -, rfl | ⟨rfl, -⟩⟩
  · exact ⟨on, .inr rfl⟩
  · exact ⟨on, .inl rfl⟩

/-- Stamping asks no executor. -/
theorem Stamped.eq_nil_or_clockRead {stamping : Bool} {r r₁ : Record m} {events : List Event}
    (h : Stamped stamping r events r₁) :
    events = [] ∨ ∃ now, events = [.clockRead m.path now] := by
  cases h with
  | skipped _ => exact .inl rfl
  | stamped _ now => exact .inr ⟨now, rfl⟩

/-- Stamping leaves a dirty record dirty. -/
theorem Stamped.isEmpty_dirty {stamping : Bool} {r r₁ : Record m} {events : List Event}
    (h : Stamped stamping r events r₁) (dirty : r.dirty.isEmpty = false) :
    r₁.dirty.isEmpty = false :=
  h.writes.isEmpty_dirty (fun _ stampable => stampable.1) dirty

/-- A column that may be stamped after stamping could be stamped before it. -/
theorem Stampable.of_writes {r r₁ : Record m} (h : Writes r.Stampable r r₁) {column : String}
    (stampable : r₁.Stampable column) : r.Stampable column := by
  by_cases before : r.Stampable column
  · exact before
  · rw [Stampable, h.isDirty_eq before, h.persisted] at stampable
    exact stampable

/-- Stamping writes no event. -/
theorem writeStamps_ends {now : DateTime} {stamps : List (String × Value)}
    (times : ∀ stamp ∈ stamps, stamp.2 = .dateTime now) (held : Held m σ) :
    (writeStamps stamps).Ends held fun result r events => result = .ok () ∧ events = [] ∧
      r = (stamps.map Prod.fst).foldl (stampColumn now) held.record := by
  induction stamps generalizing held with
  | nil => exact .pure ⟨rfl, rfl, rfl⟩
  | cons stamp rest ih =>
      obtain ⟨column, v⟩ := stamp
      obtain rfl : v = .dateTime now := times _ List.mem_cons_self
      have written := write_dateTime held.record column now
      refine .write (fun r hr => ?_) (fun e he => ?_)
      · cases hr.symm.trans written
        exact ih (fun stamp hs => times stamp (List.mem_cons_of_mem _ hs)) _
      · cases he.symm.trans written

theorem stamp_ends (held : Held m σ) :
    stamp.Ends held fun result r events =>
      result = .ok () ∧ Stamped true held.record events r := by
  refine .current ?_
  rw [Timestamps.plan]
  cases on : m.timestamps with
  | false => exact .pure ⟨rfl, .skipped (by simpa using on)⟩
  | true =>
      refine .readClock fun now s _ => ?_
      have times : ∀ stamp ∈ Timestamps.stamps (!held.record.persisted) now
          (fun column => held.record.isDirty [column]), stamp.2 = .dateTime now :=
        fun stamp hs => (Timestamps.mem_stamps_iff.1 hs).1
      refine (writeStamps_ends times _).mono ?_
      rintro result r events ⟨hr, rfl, rfl⟩
      exact ⟨hr, .stamped (by simpa using on) now⟩

/-- Stamping if asked to, before the rest of an edit. -/
theorem stamping_ends {α : Type} {stamping : Bool} {f : Unit → Edit m σ α} {held : Held m σ}
    {post : Except Error α → Record m → List Event → Prop}
    (next : ∀ r events s, held.session.Grows events s → Stamped stamping held.record events r →
      (f ()).Ends ⟨r, s⟩ fun result r' more => post result r' (events ++ more)) :
    Edit.Ends (if stamping = true then stamp >>= f else f ()) held post := by
  cases stamping with
  | false => exact next held.record [] held.session (.refl _) (.skipped rfl)
  | true =>
      refine .bind (stamp_ends held) ?_ ?_
      · rintro e r events ⟨hr, -⟩
        cases hr
      · rintro _ r events s grows ⟨-, stamped⟩
        exact next r events s grows stamped

end Record

/-!
## Filling
-/

namespace Guard

theorem mem_keys_of_keepFillable {g : Guard} {row : Row} {key : String}
    (h : key ∈ (g.keepFillable row).keys) : key ∈ row.keys := by
  rw [keepFillable] at h
  split at h
  · exact h
  · exact (List.filter_sublist.map Prod.fst).mem h

end Guard

namespace Record

/-- Does the fill from a row write the key? It is a key of the row, table names dropped, that the
guard admits. -/
def Accepts (m : Model) (g : Guard) (row : Row) (key : String) : Prop :=
  key ∈ (row.mapKeys (unqualified m.table)).keys ∧ g.isFillable key = true

theorem fillEntry_ends (g : Guard) (key : String) (v : Value) (held : Held m σ) :
    (fillEntry g key v).Ends held fun _ r events => events = [] ∧
      Writes (fun name => name = key ∧ g.isFillable name = true) held.record r := by
  rw [fillEntry]
  split
  · next fillable =>
    refine .note fun s _ => ?_
    rw [← bind_pure (Edit.write key v)]
    refine .write (fun r hr => ?_) (fun e _ => ⟨rfl, .refl _⟩)
    exact .pure ⟨rfl, .single ⟨rfl, fillable⟩ hr⟩
  · split
    · exact .throw ⟨rfl, .refl _⟩
    · rw [← bind_pure (Edit.note _)]
      exact .note fun s _ => .pure ⟨rfl, .refl _⟩

theorem fillEntries_ends (g : Guard) (entries : List (String × Value)) (held : Held m σ) :
    (fillEntries g entries).Ends held fun _ r events => events = [] ∧
      Writes (fun key => key ∈ Entries.keys entries ∧ g.isFillable key = true) held.record r := by
  induction entries generalizing held with
  | nil => exact .pure ⟨rfl, .refl _⟩
  | cons entry rest ih =>
      obtain ⟨key, v⟩ := entry
      have first : ∀ name, name = key ∧ g.isFillable name = true →
          name ∈ Entries.keys ((key, v) :: rest) ∧ g.isFillable name = true := by
        rintro name ⟨rfl, fillable⟩
        exact ⟨List.mem_cons_self, fillable⟩
      refine .bind (fillEntry_ends g key v held) ?_ ?_
      · rintro e r events ⟨rfl, writes⟩
        exact ⟨rfl, writes.mono first⟩
      · rintro _ r events s _ ⟨rfl, writes⟩
        refine (ih ⟨r, s⟩).mono ?_
        rintro result r' events ⟨rfl, more⟩
        refine ⟨rfl, (writes.mono first).trans (more.mono ?_)⟩
        exact fun name h => ⟨List.mem_cons_of_mem _ h.1, h.2⟩

/-- A fill sends nothing, and whether it fails or not, it has written accepted keys only. -/
theorem fill_ends (row : Row) (held : Held m σ) :
    (fill row).Ends held fun _ r events => events = [] ∧
      Writes (Accepts m (m.guardWith (held.session.registry.isUnguarded m.path)) row)
        held.record r := by
  refine .guardOf ((fillEntries_ends _ _ held).mono ?_)
  rintro result r events ⟨rfl, writes⟩
  exact ⟨rfl, writes.mono fun key h => ⟨Guard.mem_keys_of_keepFillable h.1, h.2⟩⟩

theorem forceFill_ends (row : Row) (held : Held m σ) :
    (forceFill row).Ends held fun _ r events => events = [] ∧
      Writes (Accepts m (m.guardWith true) row) held.record r := by
  refine WP.unguarded_iff.2 (WP.mono (fill_ends row _) ?_)
  rintro result reached ⟨events, grows, rfl, writes⟩
  refine ⟨[], grows.of_scope, rfl, ?_⟩
  rw [held.session.isUnguarded_openScope] at writes
  exact writes

end Record

end LiveRecord
