import LiveRecord.Proofs.Performed
import LiveRecord.Proofs.Specimen

/-!
# The form of stored values

Values come into a record from its user, from clocks, as generated keys and as results of
arithmetic, and all of them are put into the form of their column before they are stored. So the
attributes of a record that was built in memory are always in that form: what has a structured cast
is the text of a JSON document, and what is a date otherwise is a date-time or blank. A copy takes
the attributes as they are and the date columns with them.

Only two calls can break the form: replacing all attributes by a row, and making a date column of an
attribute that is there already. Rows of the database are stored as they are, so the result does not
hold of loaded records.
-/

namespace LiveRecord

namespace Value

theorem isBlank_iff {v : Value} : v.isBlank = true ↔ v = .null ∨ v = .text "" := by
  cases v <;> simp [isBlank]

end Value

namespace Schema

variable {schema : Schema} {key : String} {v stored : Value}

/-- Is the value in the form in which the column stores values? -/
structure InForm (schema : Schema) (key : String) (v : Value) : Prop where
  /-- A structured column holds the text of a document. -/
  structured : schema.isStructured key = true → ∃ d : Json.Document, v = .text d.print
  /-- Any other date column holds a date-time or a blank value. -/
  dated : schema.isStructured key = false → schema.isDate key = true →
    v = .null ∨ v = .text "" ∨ ∃ t, v = .dateTime t

/-- A date is normalised unless it is blank. -/
theorem eq_of_normalizeDate (normal : schema.normalizeDate key v = .ok stored)
    (dated : schema.isDate key = true) :
    stored = .null ∨ stored = .text "" ∨ ∃ t, stored = .dateTime t := by
  rw [normalizeDate, dated, Bool.true_and] at normal
  cases blank : v.isBlank with
  | true =>
      rw [blank, Bool.not_true, if_neg Bool.false_ne_true] at normal
      cases normal
      rcases Value.isBlank_iff.1 blank with rfl | rfl
      · exact .inl rfl
      · exact .inr (.inl rfl)
  | false =>
      rw [blank, Bool.not_false, if_pos rfl] at normal
      obtain ⟨t, -, made⟩ := Except.exists_of_bind_eq_ok normal
      cases made
      exact .inr (.inr ⟨t, rfl⟩)

/-- Whatever is stored is put into the form of its column. -/
theorem inForm_of_toStorage (stores : schema.toStorage key v = .ok stored) :
    schema.InForm key stored := by
  obtain ⟨w, normal, stores⟩ := Except.exists_of_bind_eq_ok stores
  cases structured : schema.isStructured key with
  | true =>
      rw [structured, if_pos rfl] at stores
      cases stores
      constructor
      · intro _
        exact ⟨w.toJson, rfl⟩
      · intro plain
        cases structured.symm.trans plain
  | false =>
      rw [structured, if_neg Bool.false_ne_true] at stores
      cases stores
      constructor
      · intro other
        cases structured.symm.trans other
      · intro _ dated
        exact eq_of_normalizeDate normal dated

/-- A date column without a cast reads what is in its form as it is. -/
theorem read_of_inForm (form : schema.InForm key v) (dated : schema.isDate key = true)
    (uncast : schema.hasCast key = false) : schema.read key v = .ok v := by
  have plain : schema.isStructured key = false := by
    rw [hasCast, Option.isSome_eq_false_iff, Option.isNone_iff_eq_none] at uncast
    rw [isStructured, uncast, Option.any_none]
  rw [read, uncast, if_neg Bool.false_ne_true, dated, Bool.true_and]
  rcases form.dated plain dated with rfl | rfl | ⟨t, rfl⟩
  · rfl
  · rfl
  · rfl

end Schema

namespace Record

variable {m : Model} {σ : Type} {r r' : Record m} {events : List Event}

/-- Are all attributes in the form of their columns? -/
def InForm (r : Record m) : Prop :=
  ∀ key v, r.attributes.current.get? key = some v → r.schema.InForm key v

/-- A column that is not named stays what it was. -/
theorem isDate_addDates (r : Record m) {keys : List String} {key : String} (other : key ∉ keys) :
    (r.addDates keys).schema.isDate key = r.schema.isDate key := by
  have columns (dates : List String) : key ∈ keys.foldl addDate dates ↔ key ∈ dates := by
    induction keys generalizing dates with
    | nil => rfl
    | cons first rest ih =>
        have ne := List.ne_of_not_mem_cons other
        rw [List.foldl_cons, ih (List.not_mem_of_not_mem_cons other), addDate]
        split
        · rfl
        · rw [List.mem_append, List.mem_singleton, or_iff_left ne]
  rw [Bool.eq_iff_iff, Schema.isDate_iff, Schema.isDate_iff, Schema.dateColumns,
    Schema.dateColumns, List.mem_append, List.mem_append]
  exact or_congr_left (columns r.dates)

namespace InForm

theorem new (m : Model) : (Record.new m).InForm := by
  intro key v held
  cases held

theorem write {key : String} {v : Value} (form : r.InForm) (written : r.write key v = .ok r') :
    r'.InForm := by
  obtain ⟨stored, stores, rfl⟩ := eq_of_write written
  intro name w held
  rw [Attributes.set_current, Dict.get?_insert] at held
  split at held
  · next same =>
    cases held
    exact same ▸ Schema.inForm_of_toStorage stores
  · exact form name w held

/-- What is left when attributes are taken away is in form. -/
theorem of_subset (form : r.InForm) (schema : r'.schema = r.schema)
    (held : ∀ key v, r'.attributes.current.get? key = some v →
      r.attributes.current.get? key = some v) : r'.InForm := by
  intro key v there
  rw [schema]
  exact form key v (held key v there)

theorem sync (form : r.InForm) : r.sync.InForm := form

/-- The standing of a record does not matter to its attributes. -/
theorem standing (form : r.InForm) (persisted : Bool) :
    ({ r with persisted := persisted } : Record m).InForm := form

theorem syncKey (form : r.InForm) (key : String) : (r.syncKey key).InForm := by
  refine form.of_subset rfl fun name v there => ?_
  rwa [Record.syncKey, Attributes.syncKey_current] at there

theorem of_remove {key : String} (form : r.InForm)
    (removed : (r.remove key).map Prod.snd = .ok r') : r'.InForm := by
  rw [eq_of_remove removed]
  refine form.of_subset rfl fun name v there => ?_
  rw [Dict.get?_erase] at there
  split at there
  · cases there
  · exact there

/-- A copy keeps the date columns of the record. -/
theorem replicate (form : r.InForm) (except : List String) : (r.replicate except).InForm := by
  refine form.of_subset rfl fun key v there => ?_
  rw [Record.replicate, Dict.get?_filter, Option.filter_eq_some_iff] at there
  exact there.1

/-- What is made a date column afterwards must not be an attribute. -/
theorem addDates {keys : List String} (form : r.InForm)
    (fresh : ∀ key ∈ keys, r.contains key = false) : (r.addDates keys).InForm := by
  intro key v there
  have held : r.attributes.current.get? key = some v := there
  have same : (r.addDates keys).schema.isDate key = r.schema.isDate key := by
    refine isDate_addDates r fun mem => ?_
    have absent := fresh key mem
    rw [contains, Attributes.contains, Dict.contains, held] at absent
    cases absent
  have form := form key v held
  exact ⟨form.structured, fun plain dated => form.dated plain (same ▸ dated)⟩

end InForm

/-- Whatever happens to a record keeps the attributes in form. -/
theorem Evolves.inForm {resolved : Except Error Executor} (h : Evolves resolved r r' events)
    (form : r.InForm) : r'.InForm := by
  induction h with
  | done => exact form
  | write stored _ ih => exact ih (form.write stored)
  | remove removed _ ih => exact ih (form.of_remove removed)
  | sync _ ih => exact ih form.sync
  | syncKey key _ ih => exact ih (form.syncKey key)
  | stand persisted _ ih => exact ih (form.standing persisted)
  | readClock _ _ ih | ask _ _ _ ih => exact ih form

variable [Pool σ]

variable (σ) in
/-- The records that can be made in memory and come from there by calls, in whatever sessions, by
copies, and by date columns that are added before they hold anything. -/
inductive Crafted : Record m → Prop
  | new : Crafted (new m)
  | performed {r : Record m} (crafted : Crafted r) (op : Operation) (kept : ¬ op.Replaces)
      (s : Session σ) : Crafted (op.run ⟨r, s⟩).2.record
  | copied {r : Record m} (crafted : Crafted r) (except : List String) :
      Crafted (r.replicate except)
  | dated {r : Record m} (crafted : Crafted r) (keys : List String)
      (fresh : ∀ key ∈ keys, r.contains key = false) : Crafted (r.addDates keys)

theorem Crafted.inForm (crafted : Crafted σ r) : r.InForm := by
  induction crafted with
  | new => exact .new m
  | performed _ op kept s form =>
      obtain ⟨events, -, performed⟩ := Operation.run_of_ends (performed_ends op ⟨_, s⟩)
      exact (performed.evolves kept).inForm form
  | copied _ except form => exact form.replicate except
  | dated _ keys fresh form => exact form.addDates fresh

/-- Let a record be made in memory, and let any methods but a replacement of all attributes be
called on it or on copies of it, whatever the executors, the resolvers and the clocks do. Date
columns may be added that are no attributes at that time. Then every attribute with a structured
cast is the text of a JSON document, and every other attribute in a date column is a date-time, the
absent value or the empty text. So a date column without a cast is read as it is stored, and reading
it never finds a value that is no date. -/
theorem stored_in_form (crafted : Crafted σ r) :
    (∀ key v, r.attributes.get key = .ok v → r.schema.InForm key v) ∧
    ∀ key, r.schema.isDate key = true → r.schema.hasCast key = false →
      r.read key = r.attributes.get key ∧
      ∀ name failure, r.read key ≠ .error (.invalidDate name failure) := by
  have form : ∀ key v, r.attributes.get key = .ok v → r.schema.InForm key v := by
    intro key v held
    refine crafted.inForm key v ?_
    rw [Attributes.get] at held
    split at held
    · next there => rw [there, Except.ok.inj held]
    · cases held
  refine ⟨form, fun key dated uncast => ?_⟩
  have same : r.read key = r.attributes.get key := by
    rw [read]
    cases held : r.attributes.get key with
    | error e => rfl
    | ok v => exact Schema.read_of_inForm (form key v held) dated uncast
  refine ⟨same, fun name failure failed => ?_⟩
  rw [same, Attributes.get] at failed
  split at failed
  · cases failed
  · cases failed

/-- Users with their labels as a list. -/
def labelling : Model := { Specimen.users with casts := [("labels", .list)] }

/-- The empty list. -/
def noLabels : Json.Document where
  root := .arr []
  distinct := by simp [Json.KeysDistinct, Json.ItemsDistinct]

/-- A session in which everything is accepted. -/
def quiet : Session ScriptedPool := Specimen.session (.idle false)

/-- A user is made and saved, and a copy of it gets a date. -/
theorem copied_user_in_form : ∃ r : Record labelling, Crafted ScriptedPool r ∧
    r.attributes.current.keys = ["labels", "updated_at", "created_at", "due"] ∧
    (∃ d : Json.Document, r.attributes.get "labels" = .ok (.text d.print)) ∧
    r.read "due" = .ok (.dateTime Specimen.newYear) := by
  have made : Crafted ScriptedPool (new labelling) := .new
  have labelled := made.performed (.set "labels" (.json noLabels)) id quiet
  have saved := labelled.performed (.saveWith true) id quiet
  have copy := saved.copied ["id"]
  have dated := copy.dated ["due"] (List.forall_mem_singleton.2 rfl)
  have crafted := dated.performed (.set "due" (.dateTime Specimen.newYear)) id quiet
  obtain ⟨form, dates⟩ := stored_in_form crafted
  refine ⟨_, crafted, rfl, ?_, ?_⟩
  · obtain ⟨d, labels⟩ := (form "labels" _ rfl).structured rfl
    exact ⟨d, congrArg Except.ok labels⟩
  · exact (dates "due" (by decide) (by decide)).1

end Record

end LiveRecord
