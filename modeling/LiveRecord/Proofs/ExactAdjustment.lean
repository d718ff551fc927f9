import LiveRecord.Proofs.Adjustment
import LiveRecord.Proofs.StructuredCast

/-!
# Adding an amount exactly

An increment or a decrement decodes the value of a column, adds the amount to it, sends one
statement that adds the same amount to the row, and stores the sum in the form of the column, as the
live value and as the saved one. Nothing is sent before the sum is known to exist, and the sum of
two integers is never wrapped. What is stored is read back as the sum, whatever cast the column has.
-/

namespace LiveRecord

namespace Value

/-- Is the value a number? -/
inductive Numeric : Value → Prop
  | int (n : Int64) : Numeric (.int n)
  | float (x : Float) : Numeric (.float x)

theorem asFloat?_eq_none_iff {v : Value} : v.asFloat? = none ↔ ¬ v.Numeric := by
  constructor
  · rintro none (n | x)
    · cases none
    · cases none
  · intro other
    cases v with
    | int n => exact absurd (.int n) other
    | float x => exact absurd (.float x) other
    | null | bool | text | dateTime | json => rfl

/-- A cast that reads an integer from one value, and stores values as they are, reads every integer
as itself. -/
theorem coerce_int_of_coerce {kind : CastKind} {v : Value} {a : Int64}
    (plain : kind.isStructured = false) (reads : v.coerce kind = .ok (.int a)) (c : Int64) :
    (Value.int c).coerce kind = .ok (.int c) := by
  rw [coerce.eq_def] at reads
  split at reads
  · cases reads
  · cases kind with
    | integer | other => rfl
    | text | boolean => cases reads
    | list | mapping | json | object => cases plain
    | float =>
        -- What is read as a binary64 number is no integer.
        dsimp only at reads
        rw [toFloat.eq_def] at reads
        split at reads
        case h_4 => split at reads <;> cases reads
        all_goals cases reads

/-- An integer is the value of its JSON document. -/
theorem ofJson_toJson_int (c : Int64) : Value.ofJson (Value.int c).toJson = .int c := by
  have fits : Integer.toInt64? (Json.Integer.ofInt64 c).val = some c :=
    Integer.toInt64?_eq_some_iff.2 rfl
  show ofNumber (.integer (.ofInt64 c)) = .int c
  rw [ofNumber, fits]

end Value

namespace Schema

variable {schema : Schema} {column : String} {v stored : Value} {a c : Int64}

/-- A column that has been read as an integer reads every integer back that is stored in it. -/
theorem read_int_of_toStorage (undated : schema.isDate column = false)
    (reads : schema.read column v = .ok (.int a))
    (stores : schema.toStorage column (.int c) = .ok stored) :
    schema.read column stored = .ok (.int c) := by
  cases declared : schema.castOf? column with
  | none =>
      have uncast : schema.hasCast column = false := by
        rw [hasCast, declared]
        rfl
      rw [toStorage_plain uncast undated] at stores
      cases stores
      exact read_plain uncast undated (.int c)
  | some kind =>
      have cast : schema.hasCast column = true := by
        rw [hasCast, declared]
        rfl
      rw [read, if_pos cast] at reads ⊢
      cases structured : kind.isStructured with
      | true =>
          have free : (Value.int c).toJson.root.RealFree := trivial
          have shallow : (Value.int c).toJson.root.depth ≤ Json.maxDepth := Nat.zero_le _
          rw [toStorage_structured declared structured undated] at stores
          cases stores
          rw [decode_print declared structured free, if_pos shallow, Value.ofJson_toJson_int]
      | false =>
          have plain : schema.isStructured column = false := by
            rw [isStructured, declared]
            exact structured
          rw [toStorage_unstructured plain undated] at stores
          cases stores
          rw [decode, declared] at reads ⊢
          dsimp only at reads ⊢
          have coerced : v.coerce kind = .ok (.int a) := by
            rw [decodeAs] at reads
            split at reads
            · next made => rw [made, Except.ok.inj reads]
            · cases reads
          rw [decodeAs, Value.coerce_int_of_coerce structured coerced]

end Schema

namespace Record

variable {m : Model} {σ : Type} {r r' r₁ : Record m} {step : Step} {column : String}
variable {amount w : Value}

/-- What becomes of the integer is no signed integer of 64 bits. -/
def Step.Overflows (step : Step) (a b : Int64) : Prop :=
  ∃ c, step.Makes a.toInt b.toInt c ∧ (c < -2 ^ 63 ∨ 2 ^ 63 ≤ c)

theorem Step.overflows_iff {a b : Int64} :
    step.Overflows a b ↔ Integer.toInt64? (step.ofInt a.toInt b.toInt) = none := by
  simp only [Overflows, makes_iff, exists_eq_left, Integer.toInt64?_eq_none_iff, Integer.least,
    Integer.greatest]
  omega

/-- Two values cannot be added if one of them is no number, or if both are integers and the sum is
out of range. -/
theorem Step.ofValue_error_iff {v : Value} : (∃ failure, step.ofValue v amount = .error failure) ↔
    ¬ v.Numeric ∨ ¬ amount.Numeric ∨
      ∃ a b, v = .int a ∧ amount = .int b ∧ step.Overflows a b := by
  rw [ofValue.eq_def, ← Value.asFloat?_eq_none_iff, ← Value.asFloat?_eq_none_iff]
  split
  · next a b =>
    simp only [overflows_iff]
    cases fits : Integer.toInt64? (step.ofInt a.toInt b.toInt) <;> simp [Value.asFloat?, fits]
  · next other =>
    have mixed : ¬ ∃ a b, v = .int a ∧ amount = .int b ∧ step.Overflows a b := by
      rintro ⟨a, b, hv, hb, -⟩
      exact other a b hv hb
    rw [or_iff_left mixed]
    cases v.asFloat? <;> cases amount.asFloat? <;> simp

/-- Why a column of a persisted record cannot be changed by an amount. -/
inductive Unadjustable (r : Record m) (step : Step) (column : String) (amount : Value) : Prop
  | undeclared (missing : m.primaryKey = none)
  | unkeyed {key : String} (declared : m.primaryKey = some key)
      (missing : key ∉ r.attributes.current.keys)
  | absent (missing : column ∉ r.attributes.current.keys)
  | undecoded {e : Error} (failed : r.read column = .error e)
  | notNumeric {v : Value} (read : r.read column = .ok v) (other : ¬ v.Numeric ∨ ¬ amount.Numeric)
  | overflow {a b : Int64} (read : r.read column = .ok (.int a)) (integer : amount = .int b)
      (outside : step.Overflows a b)

/-- The record with a value under a column, live and saved. -/
def withSaved (r : Record m) (column : String) (stored : Value) : Record m :=
  { r with attributes := ⟨r.attributes.current.insert column stored,
    r.attributes.snapshot.insert column stored⟩ }

/-- A column can be changed if the record has a key and the changed value exists. -/
theorem unadjustable_iff : r.Unadjustable step column amount ↔
    ¬ ∃ key v w, keyName m = .ok key ∧ r.attributes.get key = .ok v ∧
      r.adjusted step column amount = .ok w := by
  constructor
  · rintro h ⟨key, v, w, named, keyed, value⟩
    obtain ⟨current, read, stepped⟩ := Except.exists_of_bind_eq_ok value
    have possible : ¬ ∃ failure, step.ofValue current amount = .error failure := by
      rintro ⟨failure, failed⟩
      rw [Step.ofColumn, failed] at stepped
      cases stepped
    rw [Step.ofValue_error_iff] at possible
    cases h with
    | undeclared missing => cases missing.symm.trans (keyName_eq_ok_iff.1 named)
    | unkeyed declared missing =>
        obtain rfl := Option.some.inj (declared.symm.trans (keyName_eq_ok_iff.1 named))
        exact missing (Dict.mem_keys_of_get? (Attributes.get_eq_ok_iff.1 keyed))
    | absent missing =>
        obtain ⟨stored, held, -⟩ := Except.exists_of_bind_eq_ok read
        exact missing (Dict.mem_keys_of_get? (Attributes.get_eq_ok_iff.1 held))
    | undecoded failed => cases failed.symm.trans read
    | notNumeric read' other =>
        obtain rfl := Except.ok.inj (read'.symm.trans read)
        exact possible (other.imp_right .inl)
    | overflow read' integer outside =>
        obtain rfl := Except.ok.inj (read'.symm.trans read)
        exact possible (.inr (.inr ⟨_, _, rfl, integer, outside⟩))
  · intro never
    cases declared : m.primaryKey with
    | none => exact .undeclared declared
    | some key =>
        cases keyed : r.attributes.current.get? key with
        | none => exact .unkeyed declared (Dict.get?_eq_none_iff.1 keyed)
        | some v =>
            cases read : r.read column with
            | error e => exact .undecoded read
            | ok current =>
                cases stepped : step.ofValue current amount with
                | error failure =>
                    rcases Step.ofValue_error_iff.1 ⟨failure, stepped⟩ with
                      other | other | ⟨a, b, rfl, integer, outside⟩
                    · exact .notNumeric read (.inl other)
                    · exact .notNumeric read (.inr other)
                    · exact .overflow read integer outside
                | ok w =>
                    refine absurd ⟨key, v, w, keyName_eq_ok_iff.2 declared,
                      Attributes.get_eq_ok_iff.2 keyed, ?_⟩ never
                    rw [adjusted, read]
                    show step.ofColumn column current amount = .ok w
                    rw [Step.ofColumn, stepped]

/-- Writing a value and taking it for the saved one stores it as both. -/
theorem syncKey_of_write (written : r.write column w = .ok r₁) :
    ∃ stored, r.schema.toStorage column w = .ok stored ∧
      r₁.syncKey column = r.withSaved column stored := by
  obtain ⟨stored, stores, rfl⟩ := eq_of_write written
  refine ⟨stored, stores, ?_⟩
  rw [syncKey, Attributes.syncKey, Attributes.set_current, Dict.get?_insert_self]
  rfl

theorem isDirty_withSaved {other : String} (r : Record m) (stored : Value) (ne : other ≠ column) :
    (r.withSaved column stored).isDirty [other] = r.isDirty [other] :=
  Attributes.isDirty_singleton_congr (Dict.get?_insert_of_ne _ _ (Ne.symm ne))
    (Dict.get?_insert_of_ne _ _ (Ne.symm ne))

theorem read_withSaved (r : Record m) (column : String) (stored : Value) :
    (r.withSaved column stored).read column = r.schema.read column stored := by
  have live : (r.withSaved column stored).attributes.get column = .ok stored :=
    Attributes.get_eq_ok_iff.2 (Dict.get?_insert_self _ _ _)
  rw [read, live]
  rfl

/-- The changed value of an integer column is the sum of the integers. -/
theorem exists_int_of_adjusted {a b : Int64} (read : r.read column = .ok (.int a))
    (value : r.adjusted step column (.int b) = .ok w) :
    ∃ c : Int64, w = .int c ∧ step.Makes a.toInt b.toInt c.toInt := by
  rw [adjusted, read] at value
  have value : step.ofColumn column (.int a) (.int b) = .ok w := value
  rw [Step.ofColumn] at value
  split at value
  · next sum made =>
    obtain rfl := Except.ok.inj value
    rw [Step.ofValue] at made
    split at made
    · next c fits =>
      cases made
      exact ⟨c, rfl, Step.makes_iff.2 (Integer.toInt64?_eq_some_iff.1 fits)⟩
    · cases made
  · cases value

/-- The change of a persisted record sends nothing, or one statement whose answer decides about the
record. A column that is no date takes every changed value. -/
theorem Adjusting.of_persisted {resolved : Except Error Executor} {result : Except Error Nat}
    {events : List Event} (h : Adjusting step column amount resolved r result r' events)
    {executor : Executor} (found : resolved = .ok executor) (old : r.persisted = true)
    (undated : r.schema.isDate column = false) :
    (r.Unadjustable step column amount ∧ (∃ e, result = .error e) ∧ r' = r ∧ events = []) ∨
    ∃ key v w answer, keyName m = .ok key ∧ r.attributes.get key = .ok v ∧
      r.adjusted step column amount = .ok w ∧ result = answer.mapError .database ∧
      events = [.exchanged executor
        (.executed (.statement (adjustment m step column amount key v)) answer)] ∧
      match answer with
      | .ok _ => ∃ stored, r.schema.toStorage column w = .ok stored ∧
        r' = r.withSaved column stored
      | .error _ => r' = r := by
  cases h with
  | unresolved failed => cases failed.symm.trans found
  | everywhere _ _ new => cases old.symm.trans new
  | unkeyed _ _ failed =>
      refine .inl ⟨unadjustable_iff.2 ?_, ⟨_, rfl⟩, rfl, rfl⟩
      rintro ⟨key, v, w, named, keyed, -⟩
      rw [named] at failed
      cases failed.symm.trans keyed
  | unadjusted _ _ _ _ failed =>
      refine .inl ⟨unadjustable_iff.2 ?_, ⟨_, rfl⟩, rfl, rfl⟩
      rintro ⟨key, v, w, -, -, value⟩
      cases failed.symm.trans value
  | @stored _ key v w n _ found' _ named keyed value stored =>
      obtain rfl := Except.ok.inj (found'.symm.trans found)
      exact .inr ⟨key, v, w, .ok n, named, keyed, value, rfl, rfl, syncKey_of_write stored⟩
  | lost _ _ _ _ _ failed =>
      have refuses := write_error_iff.1 ⟨_, failed⟩
      cases undated.symm.trans refuses.1
  | @refused _ key v w cause found' _ named keyed value =>
      obtain rfl := Except.ok.inj (found'.symm.trans found)
      exact .inr ⟨key, v, w, .error cause, named, keyed, value, rfl, rfl, rfl⟩

variable [Pool σ]

/-- Let a column of a persisted record whose connection is found be changed by an amount, and let it
be no date column. If the record has no key, or the column is absent or cannot be decoded, or one of
the values is no number, or the sum of two integers is out of range, nothing is sent and the record
is as it was. Otherwise one statement is sent: under the one condition that the key column holds the
key of the record, an increment adds the amount to the column, and a decrement subtracts it. If the
call returns, that column holds one stored value, live and saved, and nothing else of the record has
changed, so the dirtiness of the other columns is what it was. If the column was read as an integer
and the amount is one, then the column is read as their exact sum or difference. -/
theorem adjust_exact (step : Step) (column : String) (amount : Value) (held : Held m σ)
    {executor : Executor}
    (found : held.session.resolved held.record.connection = .ok executor)
    (old : held.record.persisted = true) (undated : held.record.schema.isDate column = false) :
    (adjust step column amount).Ends held fun result r' events =>
      (held.record.Unadjustable step column amount →
        events = [] ∧ r' = held.record ∧ ∃ e, result = .error e) ∧
      (¬ held.record.Unadjustable step column amount → ∃ key v assignment condition answer,
        m.primaryKey = some key ∧ held.record.attributes.current.get? key = some v ∧
        step.Assigns column amount assignment ∧ condition.AsksFor key v ∧
        events = [.exchanged executor (.executed (.statement
          (.update m.table [assignment] [condition])) answer)] ∧
        result = answer.mapError .database) ∧
      (∀ e, result = .error e → r' = held.record) ∧
      ∀ n, result = .ok n → ∃ stored, r' = held.record.withSaved column stored ∧
        (∀ other, other ≠ column → r'.isDirty [other] = held.record.isDirty [other]) ∧
        ∀ a b, held.record.read column = .ok (.int a) → amount = .int b →
          ∃ c : Int64, step.Makes a.toInt b.toInt c.toInt ∧ r'.read column = .ok (.int c) := by
  refine (adjust_ends step column amount held).mono fun result r' events adjusting => ?_
  rcases adjusting.of_persisted found old undated with
    ⟨refused, ⟨e, rfl⟩, rfl, rfl⟩ | ⟨key, v, w, answer, named, keyed, value, rfl, rfl, left⟩
  · refine ⟨fun _ => ⟨rfl, rfl, e, rfl⟩, fun adjustable => absurd refused adjustable,
      fun _ _ => rfl, fun n returned => ?_⟩
    cases returned
  · have adjustable : ¬ held.record.Unadjustable step column amount := fun refused =>
      unadjustable_iff.1 refused ⟨key, v, w, named, keyed, value⟩
    refine ⟨fun refused => absurd refused adjustable, fun _ => ⟨key, v, _, _, answer,
      keyName_eq_ok_iff.1 named, Attributes.get_eq_ok_iff.1 keyed,
      step.assigns_assignment column amount, .of_holds key v, rfl, rfl⟩, ?_, ?_⟩
    · intro e failed
      cases answer with
      | ok n => cases failed
      | error cause => exact left
    · intro n returned
      cases answer with
      | error cause => cases returned
      | ok n =>
          obtain ⟨stored, stores, rfl⟩ := left
          refine ⟨stored, rfl, fun other ne => isDirty_withSaved _ stored ne, ?_⟩
          rintro a b reads rfl
          obtain ⟨c, rfl, makes⟩ := exists_int_of_adjusted reads value
          obtain ⟨before, -, decodes⟩ := Except.exists_of_bind_eq_ok reads
          refine ⟨c, makes, ?_⟩
          rw [read_withSaved]
          exact Schema.read_int_of_toStorage undated decodes stores

/-- Users whose visits are counted in an integer column. -/
def counting : Model := { Specimen.users with casts := [("visits", .integer)] }

/-- A user whose visits are stored as text. -/
def counted : Record counting :=
  ofRow counting (.ofList [("id", .int 1), ("visits", .text "41")]) none

/-- The text is read as a number, one is added to it in the row, and what is stored is read as the
next number. -/
theorem counted_exactly : ∃ (held' : Held counting ScriptedPool)
    (answer : Except DatabaseError Nat),
    adjust .increment "visits" (.int 1) ⟨counted, Specimen.session (.idle false)⟩ = .ok 1 held' ∧
      held'.session.transcript = [.exchanged ⟨0, .sqlite⟩ (.executed (.statement
        (.update "users" [.add "visits" (.int 1)] [.equals "id" (.int 1)])) answer)] ∧
      ∃ c : Int64, c.toInt = 41 + 1 ∧ held'.record.read "visits" = .ok (.int c) := by
  obtain ⟨held', run⟩ : ∃ held' : Held counting ScriptedPool,
      adjust .increment "visits" (.int 1) ⟨counted, Specimen.session (.idle false)⟩ =
        .ok 1 held' := ⟨_, rfl⟩
  have adjustable : ¬ counted.Unadjustable .increment "visits" (.int 1) := fun refused =>
    unadjustable_iff.1 refused ⟨"id", .int 1, .int 42, rfl, rfl, rfl⟩
  obtain ⟨events, grows, -, sent, -, exact⟩ := (adjust_exact .increment "visits" (.int 1)
    ⟨counted, Specimen.session (.idle false)⟩ rfl rfl (by decide)).of_ok run
  obtain ⟨key, v, assignment, condition, answer, named, keyed, adds, asks, rfl, -⟩ :=
    sent adjustable
  cases named
  obtain rfl : .int 1 = v := Option.some.inj keyed
  obtain ⟨stored, -, -, sums⟩ := exact 1 rfl
  obtain ⟨c, makes, read⟩ := sums 41 1 rfl rfl
  refine ⟨held', answer, run, ?_, c, Step.makes_iff.1 makes, read⟩
  cases adds
  cases asks
  exact grows.transcript

end Record

end LiveRecord
