import LiveRecord.Proofs.Addressing
import LiveRecord.Proofs.Specimen
import LiveRecord.Proofs.StoredRow
import LiveRecord.Proofs.WrittenColumns

/-!
# Changing a column by an amount

The statement of an increment or a decrement changes what the row holds, and the record changes
what it holds itself: the live value of the column, which it then takes for the saved one. Both
add the same amount. So the record is right about the row if its live value agreed with the row
before, and if the column had been edited, the edit is neither in the row afterwards nor is it
still to be saved.
-/

namespace LiveRecord

open Record (Step)

namespace Record.Step

variable {step : Step}

/-- Is the integer what becomes of `a` with the amount `b`? -/
inductive Makes (a b : Int) : Step → Int → Prop
  | sum : Makes a b .increment (a + b)
  | difference : Makes a b .decrement (a - b)

/-- Does the assignment make the change in the row? An increment adds the amount to what the row
holds, and a decrement subtracts it. -/
inductive Assigns (column : String) (amount : Value) : Step → Sql.Assignment → Prop
  | add : Assigns column amount .increment (.add column amount)
  | subtract : Assigns column amount .decrement (.subtract column amount)

theorem assigns_assignment (step : Step) (column : String) (amount : Value) :
    step.Assigns column amount (step.assignment column amount) := by
  cases step with
  | increment => exact .add
  | decrement => exact .subtract

theorem makes_iff {a b c : Int} : step.Makes a b c ↔ c = step.ofInt a b := by
  constructor
  · rintro (_ | _)
    · rfl
    · rfl
  · rintro rfl
    cases step with
    | increment => exact .sum
    | decrement => exact .difference

/-- Two numbers that are changed by one amount are equal only if they were. -/
theorem ofInt_inj {a b amount : Int} :
    step.ofInt a amount = step.ofInt b amount ↔ a = b := by
  cases step <;> simp only [ofInt] <;> omega

theorem ofValue_int {a b c : Int64} :
    step.ofValue (.int a) (.int b) = .ok (.int c) ↔ step.Makes a.toInt b.toInt c.toInt := by
  rw [makes_iff, ← Integer.toInt64?_eq_some_iff, ofValue]
  cases Integer.toInt64? (step.ofInt a.toInt b.toInt) <;> simp

theorem apply_assignment (step : Step) (column : String) (amount : Value) (row : Row) :
    (step.assignment column amount).apply row = row.adjustBy step column amount := by
  cases step <;> rfl

end Record.Step

namespace Schema

variable {schema : Schema} {column : String}

/-- A value of a column that has no cast and holds no date is read as it is stored. -/
theorem read_plain (uncast : schema.hasCast column = false)
    (undated : schema.isDate column = false) (v : Value) : schema.read column v = .ok v := by
  rw [read, uncast, undated]
  rfl

/-- A value is stored as it is in a column that has no structured cast and holds no date. -/
theorem toStorage_unstructured (unstructured : schema.isStructured column = false)
    (undated : schema.isDate column = false) (v : Value) : schema.toStorage column v = .ok v := by
  rw [toStorage, normalizeDate, undated, unstructured]
  rfl

/-- A value is stored as it is in a column that has no cast and holds no date. -/
theorem toStorage_plain (uncast : schema.hasCast column = false)
    (undated : schema.isDate column = false) (v : Value) : schema.toStorage column v = .ok v := by
  refine toStorage_unstructured ?_ undated v
  rw [hasCast, Option.isSome_eq_false_iff, Option.isNone_iff_eq_none] at uncast
  rw [isStructured, uncast]
  rfl

end Schema

namespace Record

variable {m : Model} {σ : Type} {r r' r₁ : Record m} {step : Step} {column : String}
variable {amount w : Value} {n : Nat} {events : List Event}

/-- A change of a persisted record that returns has sent one statement, and the record holds the
changed value as its live and its saved one. -/
theorem Adjusting.of_ok {resolved : Except Error Executor}
    (h : Adjusting step column amount resolved r (.ok n) r' events) (old : r.persisted = true) :
    ∃ executor key v w r₁, keyName m = .ok key ∧ r.attributes.get key = .ok v ∧
      r.adjusted step column amount = .ok w ∧ r.write column w = .ok r₁ ∧
      r' = r₁.syncKey column ∧
      events = [.exchanged executor (.executed
        (.statement (adjustment m step column amount key v)) (.ok n))] := by
  generalize returned : (.ok n : Except Error Nat) = result at h
  cases h with
  | everywhere _ _ new => cases old.symm.trans new
  | stored found _ named keyed value stored =>
      cases returned
      exact ⟨_, _, _, _, _, named, keyed, value, stored, rfl, rfl⟩
  | unresolved => cases returned
  | unkeyed => cases returned
  | unadjusted => cases returned
  | lost => cases returned
  | refused => cases returned

/-- Taking a value for the saved one does not touch the other columns. -/
theorem isDirty_syncKey {key other : String} (r : Record m) (ne : other ≠ key) :
    (r.syncKey key).isDirty [other] = r.isDirty [other] := by
  refine Attributes.isDirty_singleton_congr ?_ ?_
  · rw [syncKey, Attributes.syncKey_current]
  · rw [syncKey, Attributes.get?_snapshot_syncKey, if_neg (Ne.symm ne)]

theorem adjusted_plain {a b : Int64} (uncast : r.schema.hasCast column = false)
    (undated : r.schema.isDate column = false)
    (live : r.attributes.current.get? column = some (.int a)) :
    r.adjusted step column (.int b) = .ok w ↔
      ∃ c : Int64, w = .int c ∧ step.Makes a.toInt b.toInt c.toInt := by
  have current : r.read column = .ok (.int a) := by
    rw [read, Attributes.get, live]
    exact Schema.read_plain uncast undated (.int a)
  rw [adjusted, current]
  show step.ofColumn column (.int a) (.int b) = .ok w ↔ _
  simp only [Step.makes_iff, ← Integer.toInt64?_eq_some_iff]
  rw [Step.ofColumn, Step.ofValue]
  cases Integer.toInt64? (step.ofInt a.toInt b.toInt) with
  | none => simp
  | some c => simp [eq_comm]

/-- What the statement of a change leaves in a row that has the key. -/
theorem get?_after_adjustment {key : String} {v : Value} {s b d : Int64} {executor : Executor}
    {stored : Row} (keyed : ∃ w, stored.get? key = some w ∧ v.Agrees w)
    (held : stored.get? column = some (.int s)) (fits : step.Makes s.toInt b.toInt d.toInt) :
    (stored.after m.table [.exchanged executor (.executed
      (.statement (adjustment m step column (.int b) key v)) (.ok n))]).get? column =
        some (.int d) := by
  have meets : ([.holds key v] : List Sql.Condition).all (·.meets stored) = true := by
    rw [List.all_cons, List.all_nil, Bool.and_true]
    exact (Sql.Condition.AsksFor.of_holds key v).meets_iff.2 keyed
  have changed : stored.adjustBy step column (.int b) = stored.insert column (.int d) := by
    rw [Row.adjustBy, held]
    simp only [Step.ofValue_int.2 fits]
  show (if m.table = m.table ∧ ([.holds key v] : List Sql.Condition).all (·.meets stored) then
    [step.assignment column (.int b)].foldl Sql.Assignment.apply stored else stored).get? column = _
  rw [if_pos ⟨rfl, meets⟩, List.foldl_cons, List.foldl_nil, Step.apply_assignment, changed,
    Dict.get?_insert_self]

/-- An integer column is dirty if its live value is not the saved one. -/
theorem isDirty_int {a s : Int64} (live : r.attributes.current.get? column = some (.int a))
    (before : r.attributes.snapshot.get? column = some (.int s)) :
    r.isDirty [column] = true ↔ a ≠ s := by
  rw [isDirty, Attributes.isDirty_singleton, live, Option.any_some, Attributes.differs, before]
  show (!(s == a)) = true ↔ a ≠ s
  rw [Bool.not_eq_true', beq_eq_false_iff_ne]
  exact ne_comm

variable [Pool σ]

/-- A save of a persisted record does not write a column that is not dirty and is never stamped. -/
theorem saveWith_spares (stamping : Bool) {held : Held m σ} (old : held.record.persisted = true)
    (clean : held.record.isDirty [column] = false)
    (undated : held.record.schema.isDate column = false) :
    (saveWith stamping).Ends held fun _ _ events =>
      ∀ event ∈ events, event.WritesOnly (· ≠ column) := by
  refine (saveWith_ends stamping held).mono fun result r events saving => ?_
  refine saving.writesOnly_of (fun stamped => stamped.writes_timestamps.mono ?_) ?_ ?_
  · rintro key ⟨-, stamp⟩ rfl
    rw [← Bool.not_eq_true, Schema.isDate_iff] at undated
    rcases stamp with rfl | rfl <;> simp [Schema.dateColumns] at undated
  · rintro key dirty rfl
    rw [isDirty_singleton_iff.2 dirty] at clean
    cases clean
  · intro new
    cases old.symm.trans new

/-- Let a column without a cast, which is no date, hold an integer `a` that is to be saved over the
integer `s`, and let it be changed by an integer without a failure. Then the changed `a` is both the
live and the saved value of the record, which takes the column for saved and every other column for
what it was. In a row that has the key of the record and holds `s`, the statement has changed that
instead, unless it runs out of range. So the saved value is that of the row if and only if the
column had not been edited. The next save does not write the column unless it is written again
before. -/
theorem adjust_counts_as_saved {a b s : Int64} (held : Held m σ) {held' : Held m σ}
    (old : held.record.persisted = true) (uncast : held.record.schema.hasCast column = false)
    (undated : held.record.schema.isDate column = false)
    (live : held.record.attributes.current.get? column = some (.int a))
    (before : held.record.snapshot? column = some (.int s))
    (run : adjust step column (.int b) held = .ok n held') :
    (held.record.isDirty [column] = true ↔ a ≠ s) ∧
    ∃ (c : Int64) (events : List Event), step.Makes a.toInt b.toInt c.toInt ∧
      held.session.Grows events held'.session ∧
      held'.record.attributes.current.get? column = some (.int c) ∧
      held'.record.snapshot? column = some (.int c) ∧
      held'.record.isDirty [column] = false ∧
      (∀ other, other ≠ column → held'.record.isDirty [other] = held.record.isDirty [other]) ∧
      (∀ (key : String) (v w : Value) (stored : Row) (d : Int64), m.primaryKey = some key →
        held.record.attributes.current.get? key = some v → stored.get? key = some w →
        v.Agrees w → stored.get? column = some (.int s) →
        step.Makes s.toInt b.toInt d.toInt →
        (stored.after m.table events).get? column = some (.int d) ∧ (c = d ↔ a = s)) ∧
      ∀ (r : Record m) (later : Session σ) (stamping : Bool),
        Writes (· ≠ column) held'.record r →
        (saveWith stamping).Ends ⟨r, later⟩ fun _ _ events =>
          ∀ event ∈ events, event.WritesOnly (· ≠ column) := by
  obtain ⟨events, grows, adjusting⟩ := (adjust_ends step column (.int b) held).of_ok run
  obtain ⟨executor, key, v, w, r₁, named, keyed, value, stored, after, rfl⟩ := adjusting.of_ok old
  obtain ⟨c, rfl, makes⟩ := (adjusted_plain uncast undated live).1 value
  have spared := Writes.single (p := (· = column)) rfl stored
  obtain ⟨form, plain, rfl⟩ := eq_of_write stored
  obtain rfl : .int c = form :=
    Except.ok.inj ((Schema.toStorage_plain uncast undated (.int c)).symm.trans plain)
  have current : held'.record.attributes.current.get? column = some (.int c) := by
    rw [after, syncKey, Attributes.syncKey_current, Attributes.set_current, Dict.get?_insert_self]
  have snapshot : held'.record.snapshot? column = some (.int c) := by
    rw [after, snapshot?, syncKey, Attributes.get?_snapshot_syncKey, if_pos rfl,
      Attributes.set_current, Dict.get?_insert_self, Option.some_or]
  have clean : held'.record.isDirty [column] = false := by
    rw [← Bool.not_eq_true, isDirty_int current snapshot]
    exact not_not_intro rfl
  refine ⟨isDirty_int live before, c, _, makes, grows, current, snapshot, clean, ?_, ?_, ?_⟩
  · intro other ne
    rw [after, isDirty_syncKey _ ne, spared.isDirty_eq ne]
  · intro name u w row d named' live' keyed' agrees rowHolds fits
    rw [keyName, named', Except.ok.injEq] at named
    rw [Attributes.get, ← named, live', Except.ok.injEq] at keyed
    refine ⟨get?_after_adjustment ⟨w, named ▸ keyed', keyed ▸ agrees⟩ rowHolds fits, ?_⟩
    rw [← Int64.toInt_inj, Step.makes_iff.1 makes, Step.makes_iff.1 fits, Step.ofInt_inj,
      Int64.toInt_inj]
  · intro r later stamping others
    refine saveWith_spares stamping ?_ ?_ ?_
    · rw [others.persisted, after]
      exact old
    · rw [others.isDirty_eq (not_not_intro rfl), clean]
    · rw [others.schema, after]
      exact undated

/-- A row that counts visits. -/
def countedRow : Row := .ofList [("id", .int 1), ("visits", .int 3)]

/-- Its record, with another number of visits that has not been saved. -/
def recounted : Record Specimen.users :=
  let loaded := ofRow Specimen.users countedRow none
  { loaded with attributes := loaded.attributes.set "visits" (.int 10) }

theorem recounted_counts_as_saved : ∃ held' : Held Specimen.users ScriptedPool,
    adjust .increment "visits" (.int 2) ⟨recounted, Specimen.session (.idle false)⟩ =
      .ok 1 held' ∧ recounted.isDirty ["visits"] = true ∧
    held'.record.isDirty ["visits"] = false :=
  have run := rfl
  have ⟨edited, _, _, _, _, _, _, clean, _⟩ := adjust_counts_as_saved (a := 10) (s := 3)
    ⟨recounted, Specimen.session (.idle false)⟩ rfl (by decide) (by decide) rfl rfl run
  ⟨_, run, edited.2 (by decide), clean⟩

/-- The row holds 5 and the record 12, which it takes for saved. A save sends nothing. -/
theorem recount_lost : ∃ held' later : Held Specimen.users ScriptedPool,
    adjust .increment "visits" (.int 2) ⟨recounted, Specimen.session (.idle false)⟩ =
      .ok 1 held' ∧
    (countedRow.after "users" held'.session.transcript).get? "visits" = some (.int 5) ∧
    held'.record.snapshot? "visits" = some (.int 12) ∧
    held'.record.isDirty ["visits"] = false ∧
    saveWith true held' = .ok true later ∧
    later.session.transcript = held'.session.transcript :=
  ⟨_, _, rfl, rfl, rfl, rfl, rfl, rfl⟩

end Record

end LiveRecord
