import LiveRecord.Finding
import LiveRecord.Proofs.Filling
import LiveRecord.Proofs.JsonText
import LiveRecord.Proofs.OwnRow
import LiveRecord.Proofs.QueryChain
import LiveRecord.Proofs.StorageForm
import LiveRecord.Proofs.StoredRow

/-!
# Looking up and creating

A record is looked for by the values of a row as they are given, and if there is none, it is created
from the row, which puts the values into the form of their columns. The lookup and the insertion
agree in a column if the value is in its form already: if it has no structured cast, whose form is
the text of a document, and if what is given for a date is a date-time or blank. Otherwise a second
lookup does not find the row that the first one has created.
-/

namespace LiveRecord

open Sql (Condition Statement)

/-!
## Values that are kept
-/

/-- White space at the end follows what is visible. -/
theorem Text.trimEnd_cons {c : Char} (cs : List Char) (visible : isBlank c = false) :
    trimEnd (c :: cs) = c :: trimEnd cs := by
  rw [trimEnd, trimEnd, List.reverse_cons, List.dropWhile_append]
  split
  · next blank =>
    rw [List.isEmpty_iff.1 blank]
    simp [visible]
  · rw [List.reverse_append]
    rfl

namespace DateTime

open Spelling

theorem run_quote (rest : List Char) (steps : List Step) (found : Fields) :
    run (looseDate ++ steps) found ('"' :: rest) = none := by
  have visible : Text.trimStart ('"' :: rest) = '"' :: rest := Text.trimStart_cons rest (by decide)
  rw [looseDate, List.cons_append, run, Step.run, visible]
  rfl

/-- No spelling of a date begins with a quote. -/
theorem read?_quote (rest : List Char) : read? ('"' :: rest) = none := by
  have stamped : run stamp .unknown ('"' :: rest) = none := rfl
  have alone : run looseDate .unknown ('"' :: rest) = none := run_quote rest [] .unknown
  simp only [read?, cascade, List.findSome?_cons, List.findSome?_nil, dateTime?, stamped,
    List.append_assoc, run_quote, Date.read?, alone]
  rfl

end DateTime

namespace Value

variable {v : Value}

theorem agrees_text_iff {s : String} : v.Agrees (.text s) ↔ v = .text s := by
  cases v <;> simp [Agrees, same]

theorem agrees_dateTime_iff {t : DateTime} : v.Agrees (.dateTime t) ↔ v = .dateTime t := by
  cases v <;> simp [Agrees, same]

/-- The text of a string in quotes is no date. -/
theorem toDateTime_print_ofString (s : String) :
    (Value.text (Json.Document.ofString s).print).toDateTime =
      .error (.unrecognized (Json.Document.ofString s).print) := by
  have visible : Text.isBlank '"' = false := by decide
  have trimmed : (Text.trim (Json.Document.ofString s).print).toList =
      '"' :: Text.trimEnd (s.toList.flatMap Json.escape ++ ['"']) := by
    rw [Text.trim, String.toList_ofList, Json.Document.print, String.toList_ofList,
      Json.Document.ofString, Json.text, Json.quoted, Text.trimStart_cons _ visible,
      Text.trimEnd_cons _ visible]
  unfold toDateTime
  simp only [trimmed, DateTime.read?_quote]

end Value

/-- A text is longer when it is printed in quotes. -/
theorem Json.Document.print_ofString_ne (s : String) : (ofString s).print ≠ s := by
  intro same
  have longer := Json.length_le_flatMap_escape s.toList
  have length : (ofString s).print.toList.length = s.toList.length := by rw [same]
  rw [print, String.toList_ofList, ofString, Json.text, Json.quoted, List.length_cons,
    List.length_append, List.length_singleton] at length
  omega

namespace Schema

variable {schema : Schema} {key : String} {v stored : Value}

/-- Is a value stored under the column as it is given? -/
def Keeps (schema : Schema) (key : String) (v : Value) : Prop :=
  schema.isStructured key = false ∧
    (schema.isDate key = true → v.isBlank = true ∨ ∃ t, v = .dateTime t)

theorem toStorage_of_keeps (keeps : schema.Keeps key v) : schema.toStorage key v = .ok v := by
  obtain ⟨plain, dated⟩ := keeps
  have normal : schema.normalizeDate key v = .ok v := by
    rw [normalizeDate]
    split
    · next date =>
      rw [Bool.and_eq_true, Bool.not_eq_true'] at date
      rcases dated date.1 with blank | ⟨t, rfl⟩
      · cases blank.symm.trans date.2
      · rfl
    · rfl
  rw [toStorage, normal]
  simp only [bind, Except.bind, plain, Bool.false_eq_true, if_false]
  rfl

/-- A value agrees with what is stored for it only if it is stored as it is given. -/
theorem keeps_of_agrees (stores : schema.toStorage key v = .ok stored)
    (agrees : v.Agrees stored) : schema.Keeps key v := by
  obtain ⟨w, normal, stores⟩ := Except.exists_of_bind_eq_ok stores
  rw [normalizeDate] at normal
  cases structured : schema.isStructured key with
  | true =>
      rw [structured, if_pos rfl] at stores
      cases stores
      obtain rfl := Value.agrees_text_iff.1 agrees
      split at normal
      · obtain ⟨t, read, rfl⟩ := Except.exists_of_map_eq_ok normal
        rw [readDate, Value.toJson, Value.toDateTime_print_ofString] at read
        cases read
      · have printed := congrArg (fun u => u.toJson.print) (Except.ok.inj normal)
        exact absurd printed (Json.Document.print_ofString_ne _)
  | false =>
      rw [structured, if_neg Bool.false_ne_true] at stores
      cases stores
      refine ⟨structured, fun dated => ?_⟩
      rw [dated, Bool.true_and] at normal
      split at normal
      · obtain ⟨t, read, rfl⟩ := Except.exists_of_map_eq_ok normal
        exact .inr ⟨t, Value.agrees_dateTime_iff.1 agrees⟩
      · next blank => exact .inl (by simpa using blank)

end Schema

/-!
## Rows
-/

namespace Dict

variable {α : Type}

/-- Renaming that changes no key changes nothing. -/
theorem mapKeys_of_fixed (d : Dict α) {rename : String → String}
    (fixed : ∀ key ∈ d.keys, rename key = key) : d.mapKeys rename = d := by
  have same : (d.entries.map fun entry => (rename entry.1, entry.2)) = d.entries := by
    refine (List.map_congr_left fun entry mem => ?_).trans d.entries.map_id
    rw [fixed entry.1 (List.mem_map_of_mem mem), id]
  rw [mapKeys, same, ofList_entries]

end Dict

namespace Row

variable {schema : Schema} {row inserted : Row}

/-- The conditions that the columns hold the values of the row. -/
def conditions (row : Row) : List Condition :=
  row.entries.map fun entry => .holds entry.1 entry.2

/-- The conditions ask for the values of the row, one after another. -/
def AskedBy (row : Row) (conditions : List Condition) : Prop :=
  List.Forall₂ (fun entry condition => condition.AsksFor entry.1 entry.2) row.entries conditions

theorem askedBy_conditions (row : Row) : row.AskedBy row.conditions :=
  List.forall₂_map_right_iff.2 (List.forall₂_same.2 fun entry _ => .of_holds entry.1 entry.2)

/-- Does the inserted row hold the values of the row in the form of their columns? -/
def StoredAs (schema : Schema) (row inserted : Row) : Prop :=
  ∀ key v, row.get? key = some v →
    ∃ stored, schema.toStorage key v = .ok stored ∧ inserted.get? key = some stored

/-- The inserted row is found again if all values have been stored as they were given. -/
theorem StoredAs.meets_iff (h : StoredAs schema row inserted) :
    row.conditions.all (·.meets inserted) = true ↔
      ∀ key v, row.get? key = some v → schema.Keeps key v := by
  rw [conditions, List.all_map, List.all_eq_true]
  constructor
  · intro meets key v given
    obtain ⟨stored, stores, held⟩ := h key v given
    have found := meets (key, v) (Dict.get?_eq_some_iff.1 given)
    obtain ⟨w, there, agrees⟩ := (Condition.AsksFor.of_holds key v).meets_iff.1 found
    cases held.symm.trans there
    exact Schema.keeps_of_agrees stores agrees
  · rintro keeps ⟨key, v⟩ mem
    have given := Dict.get?_eq_some_iff.2 mem
    obtain ⟨stored, stores, held⟩ := h key v given
    cases stores.symm.trans (Schema.toStorage_of_keeps (keeps key v given))
    exact (Condition.AsksFor.of_holds key v).meets_iff.2 ⟨v, held, .refl v⟩

end Row

namespace Record

variable {m : Model} {r r₁ r' : Record m} {events : List Event} {key : String} {v : Value}

/-- A save of a record that is not persisted asks for its insertion, after it has been stamped. -/
theorem Saving.insertion_of_asked {stamping : Bool} {resolved : Except Error Executor}
    {result : Except Error Bool} (h : Saving stamping resolved r result r' events)
    (new : r.persisted = false) {executor : Executor} {exchange : Exchange}
    (asked : .exchanged executor exchange ∈ events) :
    resolved = .ok executor ∧ ∃ r₁ stamps returning, Stamped stamping r stamps r₁ ∧
      exchange.request = .statement (r₁.insertion returning) := by
  rcases h.asks_of_new new with rfl | ⟨_, _, r₁, stamps, returning, found, stamped, rfl, request⟩
  · cases asked
  · rcases stamped.eq_nil_or_clockRead with rfl | ⟨now, rfl⟩
    · cases List.mem_singleton.1 asked
      exact ⟨found, r₁, _, returning, stamped, request⟩
    · rcases List.mem_cons.1 asked with clock | asked
      · cases clock
      · cases List.mem_singleton.1 asked
        exact ⟨found, r₁, _, returning, stamped, request⟩

end Record

/-!
## Calls
-/

namespace Model

variable {m : Model} {σ : Type} {s : Session σ} {row : Row}

/-- The lookup of the values of a row. -/
def lookup (m : Model) (row : Row) : Request :=
  .statement (.select m.table row.conditions [] (some 1))

/-- A row whose keys are columns that the guard admits is stored whole or refused. -/
theorem ofFill_stores (plain : ∀ key ∈ row.keys, unqualified m.table key = key)
    (accepted : ∀ key ∈ row.keys,
      (m.guardWith (s.registry.isUnguarded m.path)).isFillable key = true) :
    (Record.ofFill m row).Ends s fun result events =>
      events = [] ∧ ∀ r, result = .ok r → Record.Stores (.new m) row.entries r := by
  have admitted : (m.guardWith (s.registry.isUnguarded m.path)).admitted row.entries =
      row.entries := by
    refine List.filter_eq_self.2 fun entry mem => ?_
    exact accepted entry.1 (List.mem_map_of_mem mem)
  have partly (refused : (m.guardWith (s.registry.isUnguarded m.path)).RefusesAll) :
      row.isEmpty = true := by
    refine List.isEmpty_iff.2 (List.eq_nil_iff_forall_not_mem.2 fun entry mem => ?_)
    have admits := accepted entry.1 (List.mem_map_of_mem mem)
    rw [Guard.not_isFillable_of_refusesAll refused] at admits
    cases admits
  have filled := Record.fill_filled row ⟨.new m, s⟩
  rw [Dict.mapKeys_of_fixed row plain] at filled
  dsimp only at filled
  rw [admitted] at filled
  refine .bind_applyTo (filled partly) ?_ ?_
  · intro e r events filled
    exact ⟨filled.silent, nofun⟩
  · intro _ r events s' _ filled
    refine .pure ⟨by rw [filled.silent]; rfl, fun r' made => ?_⟩
    cases made
    cases filled.storing with
    | all stored => exact stored

variable [Pool σ]

/-- The insertion of a created record holds the given values in their form. -/
theorem create_storedAs (plain : ∀ key ∈ row.keys, unqualified m.table key = key)
    (accepted : ∀ key ∈ row.keys,
      (m.guardWith (s.registry.isUnguarded m.path)).isFillable key = true) :
    (m.create row).Ends s fun _ events =>
      ∀ executor exchange, .exchanged executor exchange ∈ events →
        s.resolved m.connection = .ok executor ∧ ∃ (inserted : Row) (returning : Option String),
          exchange.request = .statement (.insert m.table inserted.entries returning) ∧
          row.StoredAs (Record.new m).schema inserted := by
  refine .bind (ofFill_stores plain accepted) ?_ ?_
  · rintro e events ⟨rfl, -⟩ executor exchange asked
    cases asked
  · rintro r events s' grows ⟨rfl, made⟩
    have stored := made r rfl
    have saves := Record.saveWith_ends true ⟨r, s'⟩
    dsimp only at saves
    rw [grows.resolved, stored.writes.connection] at saves
    have inserts {result : Except Error Bool} {r' : Record m} {events : List Event}
        (saving : Record.Saving true (s.resolved m.connection) r result r' events)
        {executor : Executor} {exchange : Exchange}
        (asked : .exchanged executor exchange ∈ events) :
        s.resolved m.connection = .ok executor ∧ ∃ (inserted : Row) (returning : Option String),
          exchange.request = .statement (.insert m.table inserted.entries returning) ∧
          row.StoredAs (Record.new m).schema inserted := by
      obtain ⟨found, r₁, stamps, returning, stamped, request⟩ :=
        saving.insertion_of_asked stored.writes.persisted asked
      refine ⟨found, r₁.attributes.current, returning, request, fun key v given => ?_⟩
      obtain ⟨w, stores, held⟩ := stored.get?_of_mem row.nodup (Dict.get?_eq_some_iff.1 given)
      refine ⟨w, stores, ?_⟩
      -- What has been filled in is dirty, so that no stamp has replaced it.
      have dirty : r.isDirty [key] = true := by
        refine Record.isDirty_of_unsaved held ?_
        rw [stored.writes.snapshot]
        rfl
      rw [stamped.writes.get?_eq, held]
      rintro ⟨clean, -⟩
      cases dirty.symm.trans clean
    refine .bind_applyTo saves ?_ ?_
    · intro e r' events saving executor exchange asked
      exact inserts saving asked
    · intro done r' events _ _ saving
      refine .pure fun executor exchange asked => inserts saving ?_
      rw [List.nil_append, List.append_nil] at asked
      exact asked

/-- A lookup by the values of a row asks once, and finds nothing only if there is no row. -/
theorem firstWith_asks (m : Model) (row : Row) (s : Session σ) :
    (m.firstWith row).Ends s fun result events =>
      (∀ executor exchange, .exchanged executor exchange ∈ events →
        exchange.request = m.lookup row) ∧
      (result = .ok none → ∃ executor, s.resolved m.connection = .ok executor ∧
        events = [.exchanged executor (.queried (m.lookup row) (.ok []))]) := by
  refine .query (fun executor found => ?_) fun e _ => ?_
  · have asked : (((Query.on m executor m.connection).whereRow row).limitTo 1).selection =
        .select m.table row.conditions [] (some 1) := by
      rw [Query.whereRow_eq]
      rfl
    refine WP.mono WP.query_first ?_
    rintro result reached ⟨answer, rfl, grows⟩
    rw [asked] at grows
    refine ⟨_, grows, ?_, fun none => ⟨executor, found, ?_⟩⟩
    · intro other exchange mem
      cases List.mem_singleton.1 mem
      rfl
    · cases answer with
      | error cause => cases none
      | ok rows =>
          have first := Except.ok.inj none
          rw [List.head?_eq_none_iff, List.map_eq_nil_iff] at first
          rw [first, Query.whereRow_eq]
          rfl
  · constructor
    · intro executor exchange asked
      cases asked
    · intro none
      cases none

/-- Let a row have keys that carry no table name and that the guard admits at the moment. If a call
of `firstOrCreate` with the row inserts anything, it has looked for a row of the table in which the
given columns hold the given values, a value that is absent being tested as such, and found none.
The insertion binds for each given column the form in which the column stores the value. It is the
given value if and only if the column has no structured cast and, if it is a date column, the value
is a date-time, absent or the empty text. So another lookup by the row is met by the row inserted if
and only if this is so for all given columns. -/
theorem firstOrCreate_stores_forms (plain : ∀ key ∈ row.keys, unqualified m.table key = key)
    (accepted : ∀ key ∈ row.keys,
      (m.guardWith (s.registry.isUnguarded m.path)).isFillable key = true) :
    (m.firstOrCreate row).Ends s fun _ events =>
      ∀ executor exchange table entries returning, .exchanged executor exchange ∈ events →
        exchange.request = .statement (.insert table entries returning) →
        ∃ (conditions : List Condition) (inserted : Row), row.AskedBy conditions ∧
          events.head? = some (.exchanged executor (.queried
            (.statement (.select m.table conditions [] (some 1))) (.ok []))) ∧
          entries = inserted.entries ∧
          (∀ key v, row.get? key = some v → ∃ stored,
            (Record.new m).schema.toStorage key v = .ok stored ∧
            inserted.get? key = some stored ∧ (stored = v ↔ (Record.new m).schema.Keeps key v)) ∧
          (conditions.all (·.meets inserted) = true ↔
            ∀ key v, row.get? key = some v → (Record.new m).schema.Keeps key v) := by
  refine .bind (firstWith_asks m row s) ?_ ?_
  · rintro e events ⟨asks, -⟩ executor exchange table entries returning asked insert
    cases (asks executor exchange asked).symm.trans insert
  · rintro (_ | r) events s' grows ⟨asks, missed⟩
    · obtain ⟨executor, found, rfl⟩ := missed rfl
      rw [← grows.protection] at accepted
      refine (create_storedAs plain accepted).mono fun result more creates => ?_
      intro other exchange table entries returning asked insert
      rcases List.mem_cons.1 asked with looked | asked
      · cases looked
        cases insert
      · obtain ⟨same, inserted, _, request, stored⟩ := creates other exchange asked
        rw [grows.resolved] at same
        cases found.symm.trans same
        cases request.symm.trans insert
        refine ⟨row.conditions, inserted, row.askedBy_conditions, rfl, rfl, fun key v given => ?_,
          stored.meets_iff⟩
        obtain ⟨w, stores, held⟩ := stored key v given
        refine ⟨w, stores, held, ?_, fun keeps => ?_⟩
        · rintro rfl
          exact Schema.keeps_of_agrees stores (.refl w)
        · exact Except.ok.inj (stores.symm.trans (Schema.toStorage_of_keeps keeps))
    · refine .pure fun executor exchange table entries returning asked insert => ?_
      rw [List.append_nil] at asked
      cases (asks executor exchange asked).symm.trans insert

/-- Users without timestamps whose labels are a list. -/
def tagging : Model :=
  { Specimen.users with
    fillable := ["name", "labels"], casts := [("labels", .list)], timestamps := false }

/-- A user without labels. -/
def untagged : Row := .ofList [("name", .text "Ada"), ("labels", .json Record.noLabels)]

/-- The user is looked for by the list and created with its text, and is not found again. -/
theorem untagged_stores_forms : ∃ (later : Session ScriptedPool) (executor : Executor)
    (exchange : Exchange) (conditions : List Condition) (inserted : Row)
    (returning : Option String),
    conditions = [.equals "name" (.text "Ada"), .equals "labels" (.json Record.noLabels)] ∧
    later.transcript = [
      .exchanged executor (.queried (.statement (.select "users" conditions [] (some 1))) (.ok [])),
      .exchanged executor exchange] ∧
    exchange.request = .statement (.insert "users" inserted.entries returning) ∧
    inserted.get? "name" = some (.text "Ada") ∧
    (∃ s, inserted.get? "labels" = some (.text s)) ∧
    conditions.all (·.meets inserted) = false := by
  have forms : (tagging.firstOrCreate untagged).Ends (Specimen.session (.idle false)) _ :=
    firstOrCreate_stores_forms (by decide) (by decide)
  obtain ⟨events, grows, stores⟩ := WP.of_ok forms rfl
  have sent : [_, _] = events := grows.transcript
  subst sent
  obtain ⟨conditions, inserted, asked, -, same, given, again⟩ :=
    stores _ _ _ _ _ (.tail _ (.head _)) rfl
  have looked : conditions =
      [.equals "name" (.text "Ada"), .equals "labels" (.json Record.noLabels)] := by
    obtain - | ⟨first, - | ⟨second, - | -⟩⟩ := asked
    cases first
    cases second
    rfl
  subst looked
  have structured : (Record.new tagging).schema.isStructured "labels" = true := by decide
  refine ⟨_, _, _, _, inserted, some "id", rfl, grows.transcript, ?_, ?_, ?_, ?_⟩
  · rw [← same]
    rfl
  · obtain ⟨stored, -, held, kept⟩ := given "name" (.text "Ada") rfl
    rw [held, kept.2 ⟨by decide, fun dated => absurd dated (by decide)⟩]
  · obtain ⟨stored, stores, held, -⟩ := given "labels" (.json Record.noLabels) rfl
    obtain ⟨d, rfl⟩ := (Schema.inForm_of_toStorage stores).structured structured
    exact ⟨d.print, held⟩
  · rw [← Bool.not_eq_true, again]
    intro keeps
    cases (keeps "labels" _ rfl).1.symm.trans structured

/-- A lookup is not always by the values that are stored afterwards. -/
theorem lists_looked_up_as_given : ¬ ∀ (m : Model) (row : Row) (s : Session ScriptedPool),
    row.isEmpty = false → (∀ key ∈ row.keys, unqualified m.table key = key) →
    (∀ key ∈ row.keys, (m.guardWith (s.registry.isUnguarded m.path)).isFillable key = true) →
    (∀ key ∈ row.keys, key ≠ Timestamps.createdAt ∧ key ≠ Timestamps.updatedAt) →
    (m.firstOrCreate row).Ends s fun _ events =>
      ∀ executor exchange table entries returning, .exchanged executor exchange ∈ events →
        exchange.request = .statement (.insert table entries returning) →
        ∀ key v, row.get? key = some v → (key, v) ∈ entries := by
  intro same
  have ends := same tagging untagged (Specimen.session (.idle false)) rfl (by decide) (by decide)
    (by decide)
  obtain ⟨events, grows, stores⟩ := WP.of_ok ends rfl
  have sent : [_, _] = events := grows.transcript
  subst sent
  have kept : _ ∈ [("name", Value.text "Ada"), ("labels", .text "[]")] :=
    stores _ _ _ _ _ (.tail _ (.head _)) rfl "labels" (.json Record.noLabels) rfl
  simp at kept

end Model

end LiveRecord
