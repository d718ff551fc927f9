import LiveRecord.Proofs.Addressing
import LiveRecord.Proofs.Saving
import LiveRecord.Proofs.Specimen

/-!
# Writes that a failure hides

Two calls store something in the record after their statement: a save stores the key that an
insertion has generated, and a change by an amount stores the changed value. A date column refuses a
value that stands for no date, and then the call fails although the executor has accepted the
statement. The record is left as if nothing had been written, so making the call again writes again.

No other failure hides a write: a call that fails otherwise has sent nothing or has been refused.
-/

namespace LiveRecord

/-- Has the executor accepted a writing call? -/
def Event.acceptsWrite : Event → Bool
  | .exchanged _ exchange => exchange.isWrite && exchange.accepted
  | .noted _ | .clockRead .. => false

/-- Has a call ended with a failure although one of its writes was accepted? -/
def Hides {α : Type} : Except Error α → List Event → Prop
  | .ok _, _ => False
  | .error _, events => ∃ event ∈ events, event.acceptsWrite = true

/-- Has an accepted insertion returned the value for a key? -/
def Generated (key : String) (id : Value) (events : List Event) : Prop :=
  ∃ executor request, .exchanged executor (.insertedForKey request key (.ok id)) ∈ events

namespace Record

variable {m : Model} {σ : Type} {r r' : Record m} {key : String}
variable {stamping : Bool} {events : List Event}

/-!
## Generated keys
-/

/-- How a save reports a generated key. It hides the insertion if and only if the column refuses the
key, and the record is persisted if and only if it does not. -/
def Reports (schema : Schema) (result : Except Error Bool) (persisted : Bool)
    (events : List Event) : Prop :=
  (Hides result events ↔ ∃ key id, Generated key id events ∧ schema.Refuses key id) ∧
    ∀ key id, Generated key id events → (persisted = true ↔ ¬ schema.Refuses key id)

section Reports

variable {schema : Schema} {result : Except Error Bool} {persisted : Bool}

/-- Without a generated key there is nothing to report. -/
theorem reports_of_shown (shown : ¬ Hides result events)
    (none : ∀ key id, ¬ Generated key id events) : Reports schema result persisted events := by
  refine ⟨iff_of_false shown ?_, fun key id generated => absurd generated (none key id)⟩
  rintro ⟨key, id, generated, -⟩
  exact none key id generated

theorem reports_nil : Reports schema result persisted [] := by
  refine reports_of_shown ?_ (by simp [Generated])
  cases result <;> simp [Hides]

theorem reports_accepted {executor : Executor} {request : Request} {n : Nat} {done : Bool} :
    Reports schema (.ok done) persisted [.exchanged executor (.executed request (.ok n))] :=
  reports_of_shown (by simp [Hides]) (by simp [Generated])

theorem reports_refused {executor : Executor} {exchange : Exchange} {e : Error}
    (refused : exchange.accepted = false) :
    Reports schema (.error e) persisted [.exchanged executor exchange] := by
  refine reports_of_shown (by simp [Hides, Event.acceptsWrite, refused]) ?_
  rintro key id ⟨executor, request, mem⟩
  cases List.mem_singleton.1 mem
  cases refused

theorem reports_generated {executor : Executor} {request : Request} {id : Value}
    (hides : Hides result [.exchanged executor (.insertedForKey request key (.ok id))] ↔
      schema.Refuses key id) (stands : persisted = true ↔ ¬ schema.Refuses key id) :
    Reports schema result persisted
      [.exchanged executor (.insertedForKey request key (.ok id))] := by
  have generated_iff {name : String} {v : Value} :
      Generated name v [.exchanged executor (.insertedForKey request key (.ok id))] ↔
        name = key ∧ v = id := by
    simp [Generated]
  simp only [Reports, generated_iff]
  refine ⟨hides.trans ⟨fun refused => ⟨key, id, ⟨rfl, rfl⟩, refused⟩, ?_⟩, ?_⟩
  · rintro ⟨name, v, ⟨rfl, rfl⟩, refused⟩
    exact refused
  · rintro name v ⟨rfl, rfl⟩
    exact stands

/-- What was stamped before the statement does not matter. -/
theorem Stamped.reports {more : List Event} (h : Stamped stamping r events r')
    (rest : Reports r'.schema result persisted more) :
    Reports r.schema result persisted (events ++ more) := by
  rw [h.writes.schema] at rest
  rcases h.eq_nil_or_clockRead with rfl | ⟨now, rfl⟩
  · exact rest
  · have hides : Hides result ([.clockRead m.path now] ++ more) ↔ Hides result more := by
      cases result <;> simp [Hides, Event.acceptsWrite]
    have generated {key : String} {id : Value} :
        Generated key id ([.clockRead m.path now] ++ more) ↔ Generated key id more := by
      simp [Generated]
    simpa only [Reports, hides, generated] using rest

end Reports

theorem Saving.reports {resolved : Except Error Executor} {result : Except Error Bool}
    (h : Saving stamping resolved r result r' events) :
    Reports r.schema result r'.persisted events := by
  cases h with
  | unresolved failed => exact reports_nil
  | clean found old clean => exact reports_nil
  | unkeyed found old dirty stamped failed =>
      rw [← List.append_nil events]
      exact stamped.reports reports_nil
  | updated found old dirty stamped keyed => exact stamped.reports reports_accepted
  | updateRefused found old dirty stamped keyed => exact stamped.reports (reports_refused rfl)
  | inserted found new stamped plain => exact stamped.reports reports_accepted
  | insertRefused found new stamped plain => exact stamped.reports (reports_refused rfl)
  | keyed found new stamped generated stored =>
      have taken := not_refuses_of_write stored
      exact stamped.reports
        (reports_generated (iff_of_false not_false taken) (iff_of_true rfl taken))
  | keyLost found new stamped generated failed =>
      have refused := write_error_iff.1 ⟨_, failed⟩
      have absent : r'.persisted ≠ true := by simp [stamped.writes.persisted, new]
      exact stamped.reports (reports_generated
        (iff_of_true ⟨_, List.mem_singleton_self _, rfl⟩ refused)
        (iff_of_false absent (not_not_intro refused)))
  | keyRefused found new stamped generated => exact stamped.reports (reports_refused rfl)

theorem Touching.reports {resolved : Except Error Executor} {result : Except Error Bool}
    (h : Touching resolved r result r' events) : Reports r.schema result r'.persisted events := by
  cases h with
  | untimed off => exact reports_nil
  | saved on stamped saving => exact stamped.reports saving.reports

/-!
## Changed values
-/

/-- A change by an amount hides its statement if and only if the record is persisted and the column
refuses the changed value. -/
theorem Adjusting.hides_iff {step : Step} {column : String} {amount : Value}
    {resolved : Except Error Executor} {result : Except Error Nat}
    (h : Adjusting step column amount resolved r result r' events) :
    Hides result events ↔ (∃ event ∈ events, event.acceptsWrite = true) ∧ r.persisted = true ∧
      ∃ w, r.adjusted step column amount = .ok w ∧ r.schema.Refuses column w := by
  cases h with
  | unresolved failed => simp [Hides]
  | everywhere answer found new =>
      refine iff_of_false ?_ (by simp [new])
      cases answer with
      | ok n => exact not_false
      | error cause =>
          change ¬ Hides (.error (.database cause)) _
          simp [Hides, Event.acceptsWrite, Exchange.accepted, Except.isOk, Except.toBool]
  | unkeyed found old failed => simp [Hides]
  | unadjusted found old named keyed failed => simp [Hides]
  | stored found old named keyed value stored =>
      have taken := not_refuses_of_write stored
      simp [Hides, value, taken]
  | lost found old named keyed value failed =>
      have refused := write_error_iff.1 ⟨_, failed⟩
      simp [Hides, old, value, refused]
  | refused found old named keyed value =>
      simp [Hides, Event.acceptsWrite, Exchange.accepted, Except.isOk, Except.toBool]

variable [Pool σ]

/-- A save or a touch that fails hides an accepted write if and only if the executor has returned a
generated key that the column of the key refuses, and after an accepted insertion the record is
persisted if and only if the key was not refused. A change by an amount that fails hides an accepted
write if and only if the record is persisted and the column refuses the changed value. So a write is
never hidden where the primary key and the changed column hold no dates. -/
theorem hides_write_iff_refused (held : Held m σ) :
    (∀ stamping, (saveWith stamping).Ends held fun result r events =>
      Reports held.record.schema result r.persisted events) ∧
    (touch.Ends held fun result r events =>
      Reports held.record.schema result r.persisted events) ∧
    ∀ step column amount, (adjust step column amount).Ends held fun result _ events =>
      (Hides result events ↔ (∃ event ∈ events, event.acceptsWrite = true) ∧
        held.record.persisted = true ∧ ∃ w, held.record.adjusted step column amount = .ok w ∧
          held.record.schema.Refuses column w) := by
  refine ⟨fun stamping => ?_, ?_, fun step column amount => ?_⟩
  · exact (saveWith_ends stamping held).mono fun _ _ _ saving => saving.reports
  · exact (touch_ends held).mono fun _ _ _ touching => touching.reports
  · exact (adjust_ends step column amount held).mono fun _ _ _ adjusting => adjusting.hides_iff

/-- Users whose number is a date column, and the time at which they were seen last as well, which is
read as an integer. -/
def dated : Model := { Specimen.users with casts := [("seen", .integer)], dates := ["id", "seen"] }

/-- A row with a time in microseconds, which is out of range for seconds. -/
def seenRow : Row := .ofList [("id", .int 1), ("seen", .int 1717243200000000)]

/-- A new record is saved twice and a loaded one changed twice. Every call fails, and all four have
written. -/
theorem refused_values_write_twice :
    (∃ failed again : Held dated ScriptedPool,
      save ⟨new dated, Specimen.session (((Scripted.idle false).pushKey (.ok (.text "A1"))).pushKey
        (.ok (.text "A2")))⟩ = .error (.invalidDate "id" (.unrecognized "A1")) failed ∧
      failed.record.persisted = false ∧
      save failed = .error (.invalidDate "id" (.unrecognized "A2")) again ∧
      again.session.transcript.countP Event.acceptsWrite = 2) ∧
    ∃ failed again : Held dated ScriptedPool,
      increment "seen" (.int 5) ⟨ofRow dated seenRow none, Specimen.session (.idle false)⟩ =
        .error (.invalidDate "seen" (.outOfRange "1717243200000005")) failed ∧
      increment "seen" (.int 5) failed =
        .error (.invalidDate "seen" (.outOfRange "1717243200000005")) again ∧
      again.session.transcript.countP Event.acceptsWrite = 2 :=
  ⟨⟨_, _, rfl, rfl, rfl, rfl⟩, _, _, rfl, rfl, rfl⟩

end Record

end LiveRecord
