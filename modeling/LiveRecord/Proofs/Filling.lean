import LiveRecord.Proofs.DenyList
import LiveRecord.Proofs.Specimen
import LiveRecord.Proofs.Writing
import Mathlib.Data.List.Induction

/-!
# What a fill stores

A fill reduces the keys of a row to columns, drops the columns that the guard does not admit, and
stores the others one after another until one is refused. Only under a total guard it stores
nothing and fails at the first column. `Record.Storing` describes how storing entries ends, and
`fill_follows_guard` says that a fill is exactly such a storing of the admitted columns.

The guard is asked twice, first for the row as a whole and then for each column. The two filters
have different rules for an empty allow-list, but the second one never admits what the first has dropped.
-/

namespace LiveRecord

/-!
## The columns of a row
-/

theorem afterBeginning?_eq_some_iff {beginning cs rest : List Char} :
    afterBeginning? beginning cs = some rest ↔ cs = beginning ++ rest := by
  induction beginning generalizing cs with
  | nil => simp [afterBeginning?]
  | cons b bs ih =>
      cases cs with
      | nil => simp [afterBeginning?]
      | cons c cs =>
          rw [afterBeginning?]
          split
          · next same => simp [same, ih]
          · next other => simp [Ne.symm other]

theorem unqualified_eq_iff {table key column : String} :
    unqualified table key = column ↔
      key = table ++ "." ++ column ∨ key = column ∧ ∀ other, key ≠ table ++ "." ++ other := by
  have qualified (rest : List Char) : key.toList = table.toList ++ ['.'] ++ rest ↔
      key = table ++ "." ++ String.ofList rest := by
    rw [← String.toList_inj]
    simp
  rw [unqualified]
  split
  · next rest found =>
    have named := (qualified rest).1 (afterBeginning?_eq_some_iff.1 found)
    constructor
    · rintro rfl
      exact .inl named
    · rintro (again | ⟨-, unnamed⟩)
      · rw [named, String.append_right_inj] at again
        exact again
      · exact absurd named (unnamed _)
  · next none =>
    have unnamed : ∀ other, key ≠ table ++ "." ++ other := by
      intro other named
      have found := (qualified other.toList).2 (by rw [String.ofList_toList]; exact named)
      rw [afterBeginning?_eq_some_iff.2 found] at none
      cases none
    constructor
    · rintro rfl
      exact .inr ⟨rfl, unnamed⟩
    · rintro (named | ⟨same, -⟩)
      · exact absurd named (unnamed column)
      · exact same

namespace Dict

variable {α : Type}

theorem ofList_concat (entries : List (String × α)) (entry : String × α) :
    ofList (entries ++ [entry]) = (ofList entries).insert entry.1 entry.2 := by
  rw [ofList, List.foldl_append]
  rfl

/-- A dictionary is made of its entries. -/
theorem ofList_entries (d : Dict α) : ofList d.entries = d := by
  have same (entries : List (String × α)) (distinct : (Entries.keys entries).Nodup) :
      (ofList entries).entries = entries := by
    induction entries using List.reverseRecOn with
    | nil => rfl
    | append_singleton earlier entry ih =>
        rw [Entries.keys, List.map_append, List.nodup_append] at distinct
        obtain ⟨distinct, -, apart⟩ := distinct
        have fresh : entry.1 ∉ Entries.keys earlier :=
          fun mem => apart _ mem _ List.mem_cons_self rfl
        rw [ofList_concat]
        show Entries.assign entry.1 entry.2 (ofList earlier).entries = _
        rw [ih distinct, Entries.assign_of_not_mem fresh]
  exact Dict.ext (same d.entries d.nodup)

/-- A repeated key keeps its first place. -/
theorem keys_ofList (entries : List (String × α)) :
    (ofList entries).keys = (Entries.keys entries).eraseDups := by
  induction entries using List.reverseRecOn with
  | nil => rfl
  | append_singleton earlier entry ih =>
      have split : Entries.keys (earlier ++ [entry]) = Entries.keys earlier ++ [entry.1] :=
        List.map_append
      rw [ofList_concat, keys_insert, ih, split, List.eraseDups_append]
      by_cases again : entry.1 ∈ Entries.keys earlier
      · simp [again, List.mem_eraseDups, List.removeAll]
      · simp [again, List.mem_eraseDups, List.removeAll, List.eraseDups_cons]

/-- A repeated key keeps its last value. -/
theorem get?_ofList (entries : List (String × α)) (key : String) :
    (ofList entries).get? key =
      ((entries.filter fun entry => entry.1 == key).getLast?).map Prod.snd := by
  induction entries using List.reverseRecOn with
  | nil => rfl
  | append_singleton earlier entry ih =>
      rw [ofList_concat, get?_insert, ih, List.filter_append]
      by_cases same : entry.1 = key
      · simp [same]
      · simp [same]

theorem keys_mapKeys (d : Dict α) (rename : String → String) :
    (d.mapKeys rename).keys = (d.keys.map rename).eraseDups := by
  rw [mapKeys, keys_ofList, keys, Entries.keys, Entries.keys, List.map_map, List.map_map]
  rfl

theorem get?_mapKeys (d : Dict α) (rename : String → String) (key : String) :
    (d.mapKeys rename).get? key =
      ((d.entries.filter fun entry => rename entry.1 == key).getLast?).map Prod.snd := by
  rw [mapKeys, get?_ofList, List.filter_map, List.getLast?_map, Option.map_map]
  rfl

end Dict

/-!
## Storing entries
-/

namespace Record

variable {m : Model} {σ : Type}

/-- A value that is refused is refused as a date. -/
theorem exists_of_write_error {r : Record m} {key : String} {v : Value} {e : Error}
    (failed : r.write key v = .error e) : ∃ failure, e = .invalidDate key failure := by
  rw [write, Schema.toStorage, Schema.normalizeDate, Schema.readDate] at failed
  split at failed
  · cases read : v.toDateTime with
    | ok t =>
        rw [read] at failed
        cases failed
    | error failure =>
        rw [read] at failed
        cases failed
        exact ⟨failure, rfl⟩
  · cases failed

/-- Entries are stored one after another, all of them. -/
inductive Stores : Record m → List (String × Value) → Record m → Prop
  | nil (r : Record m) : Stores r [] r
  | cons {r r₁ r₂ : Record m} {key : String} {v : Value} {rest : List (String × Value)}
      (first : r.write key v = .ok r₁) (next : Stores r₁ rest r₂) : Stores r ((key, v) :: rest) r₂

/-- What can come of storing entries one after another: the first one that is refused is reported,
and those before it stay stored. -/
inductive Storing (r : Record m) (entries : List (String × Value)) :
    Except Error Unit → Record m → Prop
  | all {r' : Record m} (stored : Stores r entries r') : Storing r entries (.ok ()) r'
  | refused {before after : List (String × Value)} {key : String} {v : Value}
      {failure : DateFailure} {r' : Record m} (order : entries = before ++ (key, v) :: after)
      (stored : Stores r before r') (failed : r'.write key v = .error (.invalidDate key failure)) :
      Storing r entries (.error (.invalidDate key failure)) r'

namespace Stores

variable {r r' : Record m} {entries : List (String × Value)}

theorem writes (h : Stores r entries r') : Writes (· ∈ Entries.keys entries) r r' := by
  induction h with
  | nil r => exact .refl r
  | cons first _ ih =>
      refine .step List.mem_cons_self first (ih.mono fun key mem => ?_)
      exact List.mem_cons_of_mem _ mem

/-- What is stored can be stored. -/
theorem not_refuses (h : Stores r entries r') {entry : String × Value} (mem : entry ∈ entries) :
    ¬ r.schema.Refuses entry.1 entry.2 := by
  induction h with
  | nil r => cases mem
  | cons first _ ih =>
      rcases List.mem_cons.1 mem with rfl | mem
      · exact not_refuses_of_write first
      · have same := (Writes.single (p := fun _ => True) trivial first).schema
        rw [← same]
        exact ih mem

/-- Each key holds its value in the form for the key. -/
theorem get?_of_mem (h : Stores r entries r') (distinct : (Entries.keys entries).Nodup)
    {key : String} {v : Value} (mem : (key, v) ∈ entries) :
    ∃ stored, r.schema.toStorage key v = .ok stored ∧
      r'.attributes.current.get? key = some stored := by
  induction h with
  | nil r => cases mem
  | cons first next ih =>
      obtain ⟨absent, distinct⟩ := List.nodup_cons.1 distinct
      obtain ⟨stored, stores, rfl⟩ := eq_of_write first
      rcases List.mem_cons.1 mem with same | mem
      · cases same
        refine ⟨stored, stores, ?_⟩
        rw [next.writes.get?_eq absent]
        exact Dict.get?_insert_self _ _ _
      · exact ih distinct mem

end Stores

namespace Storing

variable {r r' : Record m} {entries : List (String × Value)} {result : Except Error Unit}

theorem writes (h : Storing r entries result r') : Writes (· ∈ Entries.keys entries) r r' := by
  cases h with
  | all stored => exact stored.writes
  | refused order stored failed =>
      refine stored.writes.mono fun key mem => ?_
      rw [order, Entries.keys, List.map_append]
      exact List.mem_append_left _ mem

theorem cons {r₁ : Record m} {key : String} {v : Value} (first : r.write key v = .ok r₁)
    (h : Storing r₁ entries result r') : Storing r ((key, v) :: entries) result r' := by
  cases h with
  | all stored => exact .all (.cons first stored)
  | refused order stored failed =>
      subst order
      exact .refused rfl (.cons first stored) failed

/-- All entries are stored if none is refused by its column. -/
theorem eq_ok_iff (h : Storing r entries result r') :
    result = .ok () ↔ ∀ entry ∈ entries, ¬ r.schema.Refuses entry.1 entry.2 := by
  cases h with
  | all stored => exact iff_of_true rfl fun entry mem => stored.not_refuses mem
  | refused order stored failed =>
      refine iff_of_false nofun fun accepted => ?_
      have refuses := write_error_iff.1 ⟨_, failed⟩
      rw [stored.writes.schema] at refuses
      refine accepted (_, _) ?_ refuses
      rw [order]
      exact List.mem_append_right _ List.mem_cons_self

theorem ne_massAssignment (h : Storing r entries result r') (key : String) :
    result ≠ .error (.massAssignment key) := by
  cases h with
  | all => nofun
  | refused => nofun

end Storing

end Record

/-!
## Two filters
-/

namespace Guard

variable {g : Guard}

/-- Does the guard refuse a row as a whole? -/
def RefusesAll (g : Guard) : Prop := g.totallyGuarded = true ∧ g.unguarded = false

/-- The entries whose keys the guard admits. -/
def admitted (g : Guard) (entries : List (String × Value)) : List (String × Value) :=
  entries.filter fun entry => g.isFillable entry.1

theorem admitted_cons (g : Guard) (key : String) (v : Value) (rest : List (String × Value)) :
    g.admitted ((key, v) :: rest) =
      if g.isFillable key then (key, v) :: g.admitted rest else g.admitted rest :=
  List.filter_cons

theorem not_isFillable_of_refusesAll (h : g.RefusesAll) (key : String) :
    g.isFillable key = false := by
  obtain ⟨total, protection⟩ := h
  rw [totallyGuarded, Bool.and_eq_true, List.isEmpty_iff, deniesAll_iff] at total
  rw [← Bool.not_eq_true, isFillable_iff protection, total.1, total.2]
  simp

theorem keepFillable_of_refusesAll (h : g.RefusesAll) (row : Row) : g.keepFillable row = row := by
  obtain ⟨total, -⟩ := h
  rw [totallyGuarded, Bool.and_eq_true] at total
  rw [keepFillable, total.1, Bool.true_or, if_pos rfl]

/-- The filter for a whole row drops no key that the filter for single keys admits. -/
theorem admitted_keepFillable (g : Guard) (row : Row) :
    g.admitted (g.keepFillable row).entries = g.admitted row.entries := by
  rw [keepFillable]
  split
  · rfl
  · next listed =>
    rw [Bool.or_eq_true, not_or, Bool.not_eq_true, Bool.not_eq_true,
      List.isEmpty_eq_false_iff] at listed
    rw [admitted, admitted, Dict.filter, List.filter_filter]
    refine List.filter_congr fun entry _ => ?_
    cases fillable : g.isFillable entry.1 with
    | false => rfl
    | true =>
        rcases (isFillable_iff listed.2).1 fillable with named | ⟨empty, -⟩
        · rw [List.contains_iff_mem.2 named, Bool.and_self]
        · exact absurd empty listed.1

end Guard

namespace Record

variable {m : Model} {σ : Type} {g : Guard} {key : String} {v : Value} {held : Held m σ}

theorem fillEntry_of_fillable (fillable : g.isFillable key = true) :
    (fillEntry g key v).Ends held fun result r events => events = [] ∧
      (result = .ok () ∧ held.record.write key v = .ok r ∨
        ∃ e, result = .error e ∧ held.record.write key v = .error e ∧ r = held.record) := by
  rw [fillEntry, if_pos fillable]
  refine .note fun s _ => ?_
  rw [← bind_pure (Edit.write key v)]
  refine .write (fun r stored => .pure ⟨rfl, .inl ⟨rfl, stored⟩⟩) fun e failed => ?_
  exact ⟨rfl, .inr ⟨e, rfl, failed, rfl⟩⟩

theorem fillEntry_of_dropped (fillable : g.isFillable key = false)
    (partly : g.totallyGuarded = false) :
    (fillEntry g key v).Ends held fun result r events =>
      events = [] ∧ result = .ok () ∧ r = held.record := by
  rw [fillEntry, fillable, partly, if_neg Bool.false_ne_true, if_neg Bool.false_ne_true,
    ← bind_pure (Edit.note _)]
  exact .note fun s _ => .pure ⟨rfl, rfl, rfl⟩

/-- Unless the guard refuses the row as a whole, the admitted entries are stored. -/
theorem fillEntries_storing (partly : ¬ g.RefusesAll) (entries : List (String × Value))
    (held : Held m σ) : (fillEntries g entries).Ends held fun result r events =>
      events = [] ∧ Storing held.record (g.admitted entries) result r := by
  induction entries generalizing held with
  | nil => exact .pure ⟨rfl, .all (.nil _)⟩
  | cons entry rest ih =>
      obtain ⟨key, v⟩ := entry
      rw [Guard.admitted_cons]
      cases fillable : g.isFillable key with
      | true =>
          rw [if_pos rfl]
          refine .bind (fillEntry_of_fillable fillable) ?_ ?_
          · rintro e r events ⟨rfl, ⟨hr, -⟩ | ⟨_, hr, failed, rfl⟩⟩
            · cases hr
            · cases hr
              obtain ⟨failure, rfl⟩ := exists_of_write_error failed
              exact ⟨rfl, .refused rfl (.nil _) failed⟩
          · rintro _ r events s _ ⟨rfl, ⟨-, stored⟩ | ⟨_, hr, -⟩⟩
            · refine (ih ⟨r, s⟩).mono ?_
              rintro result r' events ⟨rfl, storing⟩
              exact ⟨rfl, storing.cons stored⟩
            · cases hr
      | false =>
          rw [if_neg Bool.false_ne_true]
          have total : g.totallyGuarded = false := by
            rw [← Bool.not_eq_true]
            intro total
            refine partly ⟨total, ?_⟩
            cases protection : g.unguarded with
            | false => rfl
            | true => simp [Guard.isFillable, protection] at fillable
          refine .bind (fillEntry_of_dropped fillable total) ?_ ?_
          · rintro e r events ⟨-, hr, -⟩
            cases hr
          · rintro _ r events s _ ⟨rfl, -, rfl⟩
            exact ih _

theorem fillEntries_refused (refused : g.RefusesAll) (rest : List (String × Value)) :
    (fillEntries g ((key, v) :: rest)).Ends held fun result r events =>
      events = [] ∧ result = .error (.massAssignment key) ∧ r = held.record := by
  have throws : (fillEntry g key v : Edit m σ Unit) = throw (.massAssignment key) := by
    rw [fillEntry, Guard.not_isFillable_of_refusesAll refused, refused.1,
      if_neg Bool.false_ne_true, if_pos rfl]
  rw [fillEntries, throws]
  exact .throw ⟨rfl, rfl, rfl⟩

/-- Storing some entries is all that has happened: no executor and no clock was asked. -/
structure Filled (r : Record m) (entries : List (String × Value)) (result : Except Error Unit)
    (r' : Record m) (events : List Event) : Prop where
  silent : events = []
  storing : Storing r entries result r'
  /-- The fill succeeds if every entry can be stored. -/
  eq_ok_iff : result = .ok () ↔ ∀ entry ∈ entries, ¬ r.schema.Refuses entry.1 entry.2
  ne_massAssignment : ∀ key, result ≠ .error (.massAssignment key)
  /-- Other attributes keep their values. -/
  others : ∀ key, key ∉ Entries.keys entries →
    r'.attributes.current.get? key = r.attributes.current.get? key
  /-- Nothing but the attributes has changed. -/
  kept : r' = { r with attributes := { r.attributes with current := r'.attributes.current } }

theorem Storing.filled {r r' : Record m} {entries : List (String × Value)}
    {result : Except Error Unit} (h : Storing r entries result r') :
    Filled r entries result r' [] where
  silent := rfl
  storing := h
  eq_ok_iff := h.eq_ok_iff
  ne_massAssignment := h.ne_massAssignment
  others _ other := h.writes.get?_eq other
  kept := h.writes.eq_with_current

/-- A fill stores the columns that the guard admits, unless it refuses the row as a whole. -/
theorem fill_filled (row : Row) (held : Held m σ)
    (partly : (m.guardWith (held.session.registry.isUnguarded m.path)).RefusesAll →
      (row.mapKeys (unqualified m.table)).isEmpty = true) :
    (fill row).Ends held (Filled held.record
      ((m.guardWith (held.session.registry.isUnguarded m.path)).admitted
        (row.mapKeys (unqualified m.table)).entries)) := by
  refine .guardOf ?_
  generalize m.guardWith (held.session.registry.isUnguarded m.path) = g at partly ⊢
  generalize row.mapKeys (unqualified m.table) = columns at partly ⊢
  rw [← Guard.admitted_keepFillable]
  by_cases refused : g.RefusesAll
  · have empty : columns.entries = [] := List.isEmpty_iff.1 (partly refused)
    rw [Guard.keepFillable_of_refusesAll refused, empty]
    exact .pure (Storing.all (.nil _)).filled
  · refine (fillEntries_storing refused _ held).mono ?_
    rintro result r events ⟨rfl, storing⟩
    exact storing.filled

theorem fill_refused (row : Row) (held : Held m σ)
    (refused : (m.guardWith (held.session.registry.isUnguarded m.path)).RefusesAll)
    {first : String} (leads : first ∈ (row.mapKeys (unqualified m.table)).keys.head?) :
    (fill row).Ends held fun result r events =>
      events = [] ∧ result = .error (.massAssignment first) ∧ r = held.record := by
  refine .guardOf ?_
  generalize m.guardWith (held.session.registry.isUnguarded m.path) = g at refused ⊢
  generalize row.mapKeys (unqualified m.table) = columns at leads ⊢
  rw [Guard.keepFillable_of_refusesAll refused]
  rw [Dict.keys, Entries.keys] at leads
  cases entries : columns.entries with
  | nil =>
      rw [entries] at leads
      cases leads
  | cons entry rest =>
      rw [entries] at leads
      cases leads
      exact fillEntries_refused refused rest

/-- Without protection all columns are stored. -/
theorem forceFill_filled (row : Row) (held : Held m σ) :
    (forceFill row).Ends held
      (Filled held.record (row.mapKeys (unqualified m.table)).entries) := by
  refine WP.unguarded_iff.2 ?_
  have lifted := held.session.isUnguarded_openScope m.path
  have whole (entries : List (String × Value)) : (m.guardWith true).admitted entries = entries :=
    List.filter_eq_self.2 fun entry _ => rfl
  have inside := fill_filled row ⟨held.record, (held.session.openScope m.path).2⟩
  dsimp only at inside
  rw [lifted, whole] at inside
  refine WP.mono (inside fun refused => ?_) ?_
  · cases refused.2
  · rintro result reached ⟨events, grows, filled⟩
    exact ⟨events, grows.of_scope, filled⟩

/-- A fill reduces the keys of a row to columns: one name of the model's own table in front of a key
is dropped, and a repeated column keeps its first place and its last value. If the type is totally
guarded and protection is not lifted, a row that has a column is refused at its first one, and the
record is as it was. Otherwise the fill stores the columns that the guard admits, one after another,
and the filter for a whole row has dropped none of them. A fill with protection lifted stores all
columns. -/
theorem fill_follows_guard (row : Row) (held : Held m σ) :
    let columns := row.mapKeys (unqualified m.table)
    let g := m.guardWith (held.session.registry.isUnguarded m.path)
    (∀ key column, unqualified m.table key = column ↔
      key = m.table ++ "." ++ column ∨ key = column ∧ ∀ other, key ≠ m.table ++ "." ++ other) ∧
    columns.keys = (row.keys.map (unqualified m.table)).eraseDups ∧
    (∀ column, columns.get? column = ((row.entries.filter fun entry =>
      unqualified m.table entry.1 == column).getLast?).map Prod.snd) ∧
    (∀ column, g.isFillable column = true →
      (g.keepFillable columns).get? column = columns.get? column) ∧
    (g.RefusesAll → ∀ first ∈ columns.keys.head?, (fill row).Ends held fun result r events =>
      events = [] ∧ result = .error (.massAssignment first) ∧ r = held.record) ∧
    ((g.RefusesAll → columns.isEmpty = true) →
      (fill row).Ends held (Filled held.record (g.admitted columns.entries))) ∧
    (forceFill row).Ends held (Filled held.record columns.entries) := by
  intro columns g
  refine ⟨fun _ _ => unqualified_eq_iff, ?_, ?_, ?_, ?_, ?_, forceFill_filled row held⟩
  · rw [Dict.keys_mapKeys]
  · intro column
    exact Dict.get?_mapKeys row _ column
  · intro column fillable
    exact Guard.get?_keepFillable columns fillable
  · intro refused first leads
    exact fill_refused row held refused leads
  · intro partly
    exact fill_filled row held partly

/-- The users, none of whose columns may be mass assigned. -/
def locked : Model := { Specimen.users with fillable := [] }

/-- A row with a name of its table in front of one key, a column that may not be assigned, and the
first column again. -/
def nickname : Row :=
  .ofList [("users.name", .text "Ada"), ("admin", .bool true), ("name", .text "Grace")]

/-- The last name is stored, and nothing if the type is totally guarded. -/
theorem nickname_filled :
    ¬ (Specimen.users.guardWith false).RefusesAll ∧
    (fill nickname).Ends (⟨new Specimen.users, Specimen.session (.idle false)⟩ :
        Held Specimen.users ScriptedPool)
      (Filled (new Specimen.users) [("name", .text "Grace")]) ∧
    (locked.guardWith false).RefusesAll ∧
    (fill nickname).Ends (⟨new locked, Specimen.session (.idle false)⟩ : Held locked ScriptedPool)
      fun result r events =>
        events = [] ∧ result = .error (.massAssignment "name") ∧ r = new locked := by
  have partly : ¬ (Specimen.users.guardWith false).RefusesAll := by
    intro refused
    cases refused.1
  have refused : (locked.guardWith false).RefusesAll := ⟨rfl, rfl⟩
  refine ⟨partly, ?_, refused, ?_⟩
  · obtain ⟨-, -, -, -, -, stores, -⟩ := fill_follows_guard nickname
      (⟨new Specimen.users, Specimen.session (.idle false)⟩ : Held Specimen.users ScriptedPool)
    exact stores fun total => absurd total partly
  · obtain ⟨-, -, -, -, refuses, -⟩ := fill_follows_guard nickname
      (⟨new locked, Specimen.session (.idle false)⟩ : Held locked ScriptedPool)
    exact refuses refused "name" rfl

end Record

end LiveRecord
