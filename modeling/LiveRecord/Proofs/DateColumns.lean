import LiveRecord.Proofs.IsoText
import LiveRecord.Proofs.Specimen
import Mathlib

/-!
# Columns that are dates more than once

The list of date columns may name a column several times: the timestamp columns are on it anyway,
and nothing keeps a declaration from repeating itself. Writing the dates goes through the list and
visits such a column again, where it finds the text that it has put there.

What a list of columns does to a row is described column by column: each holds its value after as
many visits as the list names it. So neither the order of the list nor a repetition matters for a
column whose text reads back and is written in the same way, which is every column if dates are
written in the layout `Pattern.iso`. If dates cannot be written, the order decides which of them
is reported.
-/

namespace LiveRecord

namespace Projection

variable (p : Projection)

/-- The value of a date column as it is shown. A blank one stands for no date. -/
def written (key : String) (v : Value) : Except Error Value :=
  if v.isBlank then .ok v
  else do
    let date ← Schema.readDate key v
    let text ← p.dateFormat.write date
    return .text text

/-- What a visit makes of a column, which may hold nothing. -/
def visit (key : String) : Option Value → Except Error (Option Value)
  | none => .ok none
  | some v => (p.written key v).map some

/-- What some visits make of a column. -/
def visits (key : String) : Nat → Option Value → Except Error (Option Value)
  | 0, held => .ok held
  | n + 1, held => (p.visit key held).bind (visits key n)

/-- What a visit leaves in the column is left alone by the next one. -/
def Settled (key : String) (held : Option Value) : Prop :=
  ∀ shown, p.visit key held = .ok shown → p.visit key shown = .ok shown

/-- Can the date of the column not be written? -/
def undated (row : Row) (key : String) : Bool := !(p.visit key (row.get? key)).isOk

variable {p} {key : String} {row row' : Row} {held : Option Value}

theorem visit_of_blank {v : Value} (blank : v.isBlank = true) :
    p.visit key (some v) = .ok (some v) := by
  rw [visit, written, if_pos blank]
  rfl

/-- A value that stands for a date is written as its text. -/
theorem visit_of_date {v : Value} {t : DateTime} {text : String} (some_date : v.isBlank = false)
    (read : v.toDateTime = .ok t) (write : p.dateFormat.write t = .ok text) :
    p.visit key (some v) = .ok (some (.text text)) := by
  rw [visit, written, some_date, if_neg Bool.false_ne_true, Schema.readDate, read]
  simp only [bind, Except.bind, write]
  rfl

/-- In the layout that reads back, a date is written once and for all. -/
theorem settled_of_iso (iso : p.dateFormat = .iso) (key : String) (held : Option Value) :
    p.Settled key held := by
  have write (t : DateTime) : p.dateFormat.write t = .ok t.isoText := by
    rw [iso, DateFormat.write_iso]
  intro shown h
  cases held with
  | none => cases h; rfl
  | some v =>
      cases blank : v.isBlank with
      | true =>
          rw [visit_of_blank blank] at h
          cases h
          exact visit_of_blank blank
      | false =>
          cases read : v.toDateTime with
          | error failure =>
              rw [visit, written, blank, if_neg Bool.false_ne_true, Schema.readDate, read] at h
              cases h
          | ok t =>
              rw [visit_of_date blank read (write t)] at h
              cases h
              exact visit_of_date (Value.isBlank_isoText t) (Value.toDateTime_isoText t) (write t)

/-- Later visits change nothing if the first one has settled the column. -/
theorem visits_succ {n : Nat} (settled : 0 < n → p.Settled key held) :
    p.visits key (n + 1) held = p.visit key held := by
  have again {shown : Option Value} (fixed : p.visit key shown = .ok shown) (n : Nat) :
      p.visits key n shown = .ok shown := by
    induction n with
    | zero => rfl
    | succ n ih => rw [visits, fixed]; exact ih
  rw [visits]
  cases h : p.visit key held with
  | error e => rfl
  | ok shown =>
      cases n with
      | zero => rfl
      | succ n => exact again (settled (Nat.succ_pos n) shown h) _

/-! ## One visit -/

theorem writeDate_eq : p.writeDate key row =
    (p.visit key (row.get? key)).map fun shown => shown.elim row (row.insert key) := by
  unfold writeDate
  cases held : row.get? key with
  | none => rfl
  | some v =>
      simp only [visit, written]
      by_cases blank : v.isBlank = true
      · rw [if_pos blank, if_pos blank]
        exact congrArg Except.ok (Dict.insert_of_get? held).symm
      · rw [if_neg blank, if_neg blank]
        cases Schema.readDate key v with
        | error e => rfl
        | ok date => cases h : p.dateFormat.write date <;> simp [bind, Except.bind, h] <;> rfl

/-- A visit changes the column and nothing else. -/
theorem of_writeDate (h : p.writeDate key row = .ok row') :
    row'.keys = row.keys ∧ p.visit key (row.get? key) = .ok (row'.get? key) ∧
      ∀ other, other ≠ key → row'.get? other = row.get? other := by
  rw [writeDate_eq] at h
  cases held : row.get? key with
  | none =>
      rw [held] at h
      cases h
      exact ⟨rfl, congrArg Except.ok held.symm, fun _ _ => rfl⟩
  | some v =>
      rw [held, visit] at h
      cases shown : p.written key v with
      | error e => rw [shown] at h; cases h
      | ok w =>
          rw [shown] at h
          cases h
          refine ⟨?_, ?_, fun other ne => Dict.get?_insert_of_ne row w (Ne.symm ne)⟩
          · exact (Dict.keys_insert row key w).trans (if_pos (Dict.mem_keys_of_get? held))
          · rw [visit, shown]
            exact congrArg Except.ok (Dict.get?_insert_self row key w).symm

/-- A visit fails exactly as the column does. -/
theorem writeDate_eq_error_iff {e : Error} :
    p.writeDate key row = .error e ↔ p.visit key (row.get? key) = .error e := by
  rw [writeDate_eq]
  cases p.visit key (row.get? key) <;> simp [Except.map]

/-! ## A list of columns -/

variable {keys : List String}

theorem writeDates_cons (key : String) (keys : List String) (row : Row) :
    p.writeDates (key :: keys) row = (p.writeDate key row).bind (p.writeDates keys) := by
  rw [writeDates, List.foldlM_cons]
  rfl

theorem writeDates_singleton (key : String) (row : Row) :
    p.writeDates [key] row = p.writeDate key row := by
  rw [writeDates_cons]
  cases p.writeDate key row <;> rfl

theorem writeDates_append (before after : List String) (row : Row) :
    p.writeDates (before ++ after) row =
      (p.writeDates before row).bind (p.writeDates after) := by
  rw [writeDates, List.foldlM_append]
  rfl

/-- The dates are written if every column can be visited as often as it is named, and then each
holds what its visits have made of it. -/
theorem writeDates_eq_ok_iff : p.writeDates keys row = .ok row' ↔
    row'.keys = row.keys ∧
      ∀ key, p.visits key (keys.count key) (row.get? key) = .ok (row'.get? key) := by
  induction keys generalizing row with
  | nil =>
      constructor
      · intro h
        cases h
        exact ⟨rfl, fun _ => rfl⟩
      · rintro ⟨same, get⟩
        have unchanged : row' = row :=
          Dict.eq_of_get? same fun key => (Except.ok.inj (get key)).symm
        rw [unchanged]
        rfl
  | cons first rest ih =>
      rw [writeDates_cons]
      cases middle : p.writeDate first row with
      | error e =>
          refine iff_of_false nofun ?_
          rintro ⟨-, get⟩
          have failed := get first
          rw [List.count_cons_self, visits, writeDate_eq_error_iff.1 middle] at failed
          cases failed
      | ok mid =>
          obtain ⟨same, here, others⟩ := of_writeDate middle
          have there (key : String) : p.visits key ((first :: rest).count key) (row.get? key) =
              p.visits key (rest.count key) (mid.get? key) := by
            by_cases h : key = first
            · subst h
              rw [List.count_cons_self, visits, here]
              rfl
            · rw [List.count_cons_of_ne (Ne.symm h), others key h]
          rw [Except.bind, ih, same]
          simp only [there]

variable (p) in
/-- Is every column settled that is named more than once? -/
def SettledOnce (keys : List String) (row : Row) : Prop :=
  ∀ key, 2 ≤ keys.count key → p.Settled key (row.get? key)

/-- A settled column counts once, however often it is named. -/
theorem visits_count (settled : 2 ≤ keys.count key → p.Settled key held) :
    p.visits key (keys.count key) held = if key ∈ keys then p.visit key held else .ok held := by
  split
  · next mem =>
    have once : 0 < keys.count key := List.count_pos_iff.2 mem
    obtain ⟨n, count⟩ : ∃ n, keys.count key = n + 1 := ⟨keys.count key - 1, by omega⟩
    rw [count] at settled ⊢
    exact visits_succ fun more => settled (by omega)
  · next absent =>
    rw [List.count_eq_zero.2 absent]
    rfl

theorem writeDates_eq_ok_iff_of_settled (settled : p.SettledOnce keys row) :
    p.writeDates keys row = .ok row' ↔ row'.keys = row.keys ∧
      ∀ key, (if key ∈ keys then p.visit key (row.get? key) else .ok (row.get? key)) =
        .ok (row'.get? key) := by
  simp only [writeDates_eq_ok_iff, visits_count (settled _)]

/-- A settled column that has been named before need not be named again. -/
theorem writeDates_again {before after : List String}
    (settled : p.Settled key (row.get? key)) (mem : key ∈ before) :
    p.writeDates (before ++ key :: after) row = p.writeDates (before ++ after) row := by
  rw [writeDates_append, writeDates_append]
  cases middle : p.writeDates before row with
  | error e => rfl
  | ok mid =>
      have shown := (writeDates_eq_ok_iff.1 middle).2 key
      rw [visits_count fun _ => settled, if_pos mem] at shown
      have fixed : p.writeDate key mid = .ok mid := by
        rw [writeDate_eq, settled _ shown]
        cases held : mid.get? key with
        | none => rfl
        | some v => exact congrArg Except.ok (Dict.insert_of_get? held)
      show p.writeDates (key :: after) mid = p.writeDates after mid
      rw [writeDates_cons, fixed]
      rfl

theorem undated_iff : p.undated row key = true ↔ ∃ e, p.visit key (row.get? key) = .error e := by
  rw [undated]
  cases p.visit key (row.get? key) <;> simp [Except.isOk, Except.toBool]

/-- If the dates cannot be written, the first column on the list that fails is reported. -/
theorem find?_of_writeDates_error (settled : p.SettledOnce keys row) {e : Error}
    (h : p.writeDates keys row = .error e) :
    ∃ key, keys.find? (p.undated row) = some key ∧ p.visit key (row.get? key) = .error e := by
  induction keys using List.reverseRecOn with
  | nil => cases h
  | append_singleton before last ih =>
      have earlier : p.SettledOnce before row := fun key twice =>
        settled key (Nat.le_trans twice ((List.sublist_append_left before [last]).count_le key))
      rw [List.find?_append]
      cases middle : p.writeDates before row with
      | error e' =>
          rw [writeDates_append, middle] at h
          cases h
          obtain ⟨key, first, failed⟩ := ih earlier middle
          exact ⟨key, by rw [first]; rfl, failed⟩
      | ok mid =>
          obtain ⟨-, shown⟩ := (writeDates_eq_ok_iff_of_settled earlier).1 middle
          have fresh : last ∉ before := by
            intro mem
            have twice : 2 ≤ (before ++ [last]).count last := by
              have once : 0 < before.count last := List.count_pos_iff.2 mem
              rw [List.count_append, List.count_singleton_self]
              omega
            rw [writeDates_again (settled last twice) mem, List.append_nil, middle] at h
            cases h
          have failed : p.visit last (row.get? last) = .error e := by
            have same := shown last
            rw [if_neg fresh] at same
            rw [Except.ok.inj same, ← writeDate_eq_error_iff]
            rw [writeDates_append, middle] at h
            have single : p.writeDates [last] mid = .error e := h
            rwa [writeDates_singleton] at single
          have none : before.find? (p.undated row) = none := by
            refine List.find?_eq_none.2 fun key mem undated => ?_
            obtain ⟨e', failed⟩ := undated_iff.1 undated
            have same := shown key
            rw [if_pos mem, failed] at same
            cases same
          refine ⟨last, ?_, failed⟩
          rw [none, Option.none_or, List.find?_cons_of_pos (undated_iff.2 ⟨e, failed⟩)]

section Lists

variable {keys' : List String} (same : ∀ key, key ∈ keys ↔ key ∈ keys')
  (settled : p.SettledOnce keys row) (settled' : p.SettledOnce keys' row)

include same settled settled'

theorem writeDates_eq_ok_iff_of_same :
    p.writeDates keys row = .ok row' ↔ p.writeDates keys' row = .ok row' := by
  simp only [writeDates_eq_ok_iff_of_settled settled, writeDates_eq_ok_iff_of_settled settled',
    same]

theorem writeDates_eq_of_same
    (first : keys.find? (p.undated row) = keys'.find? (p.undated row)) :
    p.writeDates keys row = p.writeDates keys' row := by
  cases h : p.writeDates keys row with
  | ok row' => exact ((writeDates_eq_ok_iff_of_same same settled settled').1 h).symm
  | error e =>
      cases h' : p.writeDates keys' row with
      | ok row' =>
          rw [(writeDates_eq_ok_iff_of_same same settled settled').2 h'] at h
          cases h
      | error e' =>
          obtain ⟨key, found, failed⟩ := find?_of_writeDates_error settled h
          obtain ⟨key', found', failed'⟩ := find?_of_writeDates_error settled' h'
          obtain rfl : key = key' := Option.some.inj (found.symm.trans (first.trans found'))
          exact congrArg Except.error (Except.error.inj (failed.symm.trans failed'))

end Lists

/-! ## What is shown -/

variable (p) in
/-- The same projection with other date columns. -/
def withDates (dates : List String) : Projection :=
  { p with schema := { p.schema with dates := dates } }

variable (p) in
/-- The attributes that are shown, as they are stored. -/
def shown (a : Attributes) : Row := a.current.filter fun key _ => p.shows key

variable {a : Attributes} {dates dates' : List String}

theorem apply_withDates : (p.withDates dates).apply a =
    (p.writeDates (p.withDates dates).schema.dateColumns (p.shown a)).bind
      (p.decodeColumns (p.schema.casts.map Prod.fst)) :=
  rfl

theorem settled_none (key : String) : p.Settled key none := by
  intro shown h
  cases h
  rfl

theorem settled_shown (settled : p.shows key = true → p.Settled key (a.current.get? key)) :
    p.Settled key ((p.shown a).get? key) := by
  rw [shown, Dict.get?_filter]
  cases held : a.current.get? key with
  | none => exact settled_none key
  | some v =>
      cases shows : p.shows key with
      | false => simpa [Option.filter, shows] using settled_none key
      | true => simpa [Option.filter, shows, held] using settled shows

end Projection

namespace Record

variable {m : Model}

/-- Adding a date column changes what is shown only through the list of date columns. -/
theorem toRow_addDates (r : Record m) (keys : List String) :
    (r.addDates keys).toRow =
      (r.projection.withDates (keys.foldl addDate r.dates)).apply r.attributes :=
  rfl

/-- Adding the column of the creation as a date changes nothing if the column is settled. -/
theorem toRow_addDates_createdAt {r : Record m}
    (settled : r.projection.Settled Timestamps.createdAt
      ((r.projection.shown r.attributes).get? Timestamps.createdAt)) :
    (r.addDates [Timestamps.createdAt]).toRow = r.toRow := by
  rw [toRow_addDates, List.foldl_cons, List.foldl_nil, addDate]
  split
  · rfl
  · have again : r.projection.writeDates ((r.dates ++ [Timestamps.createdAt]) ++
        [Timestamps.createdAt, Timestamps.updatedAt]) (r.projection.shown r.attributes) =
          r.projection.writeDates ((r.dates ++ [Timestamps.createdAt]) ++ [Timestamps.updatedAt])
            (r.projection.shown r.attributes) :=
      Projection.writeDates_again settled
        (List.mem_append_right r.dates (List.mem_singleton_self Timestamps.createdAt))
    rw [List.append_assoc _ _ [Timestamps.updatedAt]] at again
    rw [Projection.apply_withDates, toRow]
    exact congrArg (Except.bind · _) again

end Record

/-- Let two declarations of date columns name the same columns, the timestamp columns included, in
any order and any number of times. Let dates be written in the layout `Pattern.iso`, or let every
shown column that a list of date columns names more than once be settled. Then the same is shown
under both declarations or the output fails under both. It also fails with the same error if the
first column whose date cannot be written is the same one on both lists. Adding the column of the
creation to the dates of a record changes nothing under the same conditions on that column. -/
theorem Projection.apply_of_same_dates (p : Projection) (a : Attributes)
    (dates dates' : List String)
    (same : ∀ key, (p.withDates dates).schema.isDate key = (p.withDates dates').schema.isDate key)
    (settled : p.dateFormat = .iso ∨ ∀ key, p.shows key = true →
      2 ≤ (p.withDates dates).schema.dateColumns.count key ∨
        2 ≤ (p.withDates dates').schema.dateColumns.count key →
      p.Settled key (a.current.get? key)) :
    (∀ row, (p.withDates dates).apply a = .ok row ↔ (p.withDates dates').apply a = .ok row) ∧
    ((p.withDates dates).schema.dateColumns.find? (p.undated (p.shown a)) =
        (p.withDates dates').schema.dateColumns.find? (p.undated (p.shown a)) →
      (p.withDates dates).apply a = (p.withDates dates').apply a) ∧
    ∀ (m : Model) (r : Record m),
      (m.dateFormat = .iso ∨ (r.projection.shows Timestamps.createdAt = true →
        r.projection.Settled Timestamps.createdAt
          (r.attributes.current.get? Timestamps.createdAt))) →
      (r.addDates [Timestamps.createdAt]).toRow = r.toRow := by
  have columns (key : String) : key ∈ (p.withDates dates).schema.dateColumns ↔
      key ∈ (p.withDates dates').schema.dateColumns := by
    rw [← Schema.isDate_iff, ← Schema.isDate_iff, same]
  have once : p.SettledOnce (p.withDates dates).schema.dateColumns (p.shown a) :=
    fun key twice => settled.elim (settled_of_iso · key _) fun all =>
      settled_shown fun shows => all key shows (.inl twice)
  have once' : p.SettledOnce (p.withDates dates').schema.dateColumns (p.shown a) :=
    fun key twice => settled.elim (settled_of_iso · key _) fun all =>
      settled_shown fun shows => all key shows (.inr twice)
  have decoded {keys keys' : List String} {row : Row}
      (carried : ∀ dated, p.writeDates keys (p.shown a) = .ok dated →
        p.writeDates keys' (p.shown a) = .ok dated)
      (h : (p.writeDates keys (p.shown a)).bind
        (p.decodeColumns (p.schema.casts.map Prod.fst)) = .ok row) :
      (p.writeDates keys' (p.shown a)).bind
        (p.decodeColumns (p.schema.casts.map Prod.fst)) = .ok row := by
    cases written : p.writeDates keys (p.shown a) with
    | error e => rw [written] at h; cases h
    | ok dated =>
        rw [written] at h
        rw [carried dated written]
        exact h
  refine ⟨fun row => ⟨decoded fun dated => ?_, decoded fun dated => ?_⟩, fun first => ?_, ?_⟩
  · exact (writeDates_eq_ok_iff_of_same columns once once').1
  · exact (writeDates_eq_ok_iff_of_same columns once once').2
  · rw [apply_withDates, apply_withDates, writeDates_eq_of_same columns once once' first]
  · intro m r settled
    exact Record.toRow_addDates_createdAt (settled.elim (settled_of_iso · _ _) settled_shown)

namespace Projection

/-- Everything is shown, with dates in a format. -/
def plain (format : DateFormat) : Projection := ⟨⟨[], []⟩, [], [], format⟩

/-- The attributes of a record that was created at New Year. -/
def created : Attributes := ⟨.ofList [(Timestamps.createdAt, .dateTime Specimen.newYear)], .empty⟩

section NewYear

variable {format : DateFormat} {text : String} (h : format.write Specimen.newYear = .ok text)

include h

theorem writeDate_created : (plain format).writeDate Timestamps.createdAt created.current =
    .ok (.ofList [(Timestamps.createdAt, .text text)]) := by
  have written : (plain format).visit Timestamps.createdAt
      (created.current.get? Timestamps.createdAt) = .ok (some (.text text)) :=
    visit_of_date (v := .dateTime Specimen.newYear) rfl rfl h
  rw [writeDate_eq, written]
  rfl

theorem apply_created :
    (plain format).apply created = .ok (.ofList [(Timestamps.createdAt, .text text)]) := by
  show ((plain format).writeDate Timestamps.createdAt created.current >>= _) >>= _ = _
  rw [writeDate_created h]
  rfl

end NewYear

/-- A date alone reads back as the start of the day, so the column of the creation may be declared
as a date. -/
theorem created_on_declared_date :
    (∀ key, ((plain (.custom "%Y-%m-%d")).withDates []).schema.isDate key =
      ((plain (.custom "%Y-%m-%d")).withDates [Timestamps.createdAt]).schema.isDate key) ∧
    ((plain (.custom "%Y-%m-%d")).withDates [Timestamps.createdAt]).apply created =
      .ok (.ofList [(Timestamps.createdAt, .text "2024-01-01")]) := by
  have same (key : String) : ((plain (.custom "%Y-%m-%d")).withDates []).schema.isDate key =
      ((plain (.custom "%Y-%m-%d")).withDates [Timestamps.createdAt]).schema.isDate key := by
    by_cases h : key = Timestamps.createdAt <;> simp [Schema.isDate, plain, withDates, h]
  have write : (DateFormat.custom "%Y-%m-%d").write Specimen.newYear = .ok "2024-01-01" := by
    cbv
  have read : (Value.text "2024-01-01").toDateTime = .ok Specimen.newYear := by
    unfold Value.toDateTime
    rfl
  have settled (key : String) : (plain (.custom "%Y-%m-%d")).Settled key
      (created.current.get? key) := by
    by_cases h : key = Timestamps.createdAt
    · subst h
      intro shown first
      have written : (plain (.custom "%Y-%m-%d")).visit Timestamps.createdAt
          (some (.dateTime Specimen.newYear)) = .ok (some (.text "2024-01-01")) :=
        visit_of_date rfl rfl write
      obtain rfl : some (.text "2024-01-01") = shown := Except.ok.inj (written.symm.trans first)
      exact visit_of_date (by decide) read write
    · have absent : created.current.get? key = none :=
        Dict.get?_insert_of_ne .empty (Value.dateTime Specimen.newYear) (Ne.symm h)
      rw [absent]
      exact settled_none key
  exact ⟨same, ((apply_of_same_dates (plain (.custom "%Y-%m-%d")) created [] _ same
    (.inr fun key _ _ => settled key)).1 _).1 (apply_created write)⟩

/-- Two columns without a date are reported in the order in which they are declared, and a date in
a format that does not read back cannot be written twice. -/
theorem declaration_matters :
    let undatable : Attributes := ⟨.ofList [("a", .bool true), ("b", .bool true)], .empty⟩
    (∀ key, ((plain .iso).withDates ["a", "b"]).schema.isDate key =
      ((plain .iso).withDates ["b", "a"]).schema.isDate key) ∧
    ((plain .iso).withDates ["a", "b"]).apply undatable =
      .error (.invalidDate "a" (.unsupported .bool)) ∧
    ((plain .iso).withDates ["b", "a"]).apply undatable =
      .error (.invalidDate "b" (.unsupported .bool)) ∧
    ((plain (.custom "%d/%m/%Y")).withDates []).apply created =
      .ok (.ofList [(Timestamps.createdAt, .text "01/01/2024")]) ∧
    ((plain (.custom "%d/%m/%Y")).withDates [Timestamps.createdAt]).apply created =
      .error (.invalidDate Timestamps.createdAt (.unrecognized "01/01/2024")) := by
  have write : (DateFormat.custom "%d/%m/%Y").write Specimen.newYear = .ok "01/01/2024" := by
    cbv
  have read : (Value.text "01/01/2024").toDateTime = .error (.unrecognized "01/01/2024") := by
    unfold Value.toDateTime
    rfl
  have again : (plain (.custom "%d/%m/%Y")).writeDate Timestamps.createdAt
      (.ofList [(Timestamps.createdAt, .text "01/01/2024")]) =
        .error (.invalidDate Timestamps.createdAt (.unrecognized "01/01/2024")) := by
    rw [writeDate_eq_error_iff]
    show ((plain (.custom "%d/%m/%Y")).written Timestamps.createdAt (.text "01/01/2024")).map some = _
    rw [written, if_neg (by decide), Schema.readDate, read]
    rfl
  refine ⟨fun key => ?_, rfl, rfl, apply_created write, ?_⟩
  · simp [Schema.isDate, plain, withDates, or_comm]
  · rw [apply_withDates]
    show ((plain (.custom "%d/%m/%Y")).writeDates
      [Timestamps.createdAt, Timestamps.createdAt, Timestamps.updatedAt] created.current).bind _ = _
    rw [writeDates_cons, writeDate_created write]
    show ((plain (.custom "%d/%m/%Y")).writeDates [Timestamps.createdAt, Timestamps.updatedAt]
      (.ofList [(Timestamps.createdAt, .text "01/01/2024")])).bind _ = _
    rw [writeDates_cons, again]
    rfl

end Projection

end LiveRecord
