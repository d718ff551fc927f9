import LiveRecord.Proofs.OwnRow
import LiveRecord.Proofs.Specimen

/-!
# Saving again after a failure

A save of a new record stamps the timestamp columns before it sends anything, and a failure leaves
the stamps in the record. If the snapshot holds no timestamps, a stamped column is dirty, so that the
next attempt leaves it alone. All that an attempt does to the record is then done by the first one
that reads the clock, and every insertion is that of the same row, however often the save fails and
whatever happens to the session in between.
-/

namespace LiveRecord

open Timestamps (createdAt updatedAt)

variable {m : Model} {σ : Type}

/-- The time that has been read, if the event is a reading of a clock. -/
def Event.reading? : Event → Option DateTime
  | .clockRead _ now => some now
  | .noted _ | .exchanged .. => none

/-- The first time that has been read from a clock. -/
def firstReading (events : List Event) : Option DateTime := events.findSome? Event.reading?

theorem firstReading_append (events more : List Event) :
    firstReading (events ++ more) = (firstReading events).or (firstReading more) :=
  List.findSome?_append

/-- Asking for something reads no clock. -/
theorem firstReading_append_exchanged (events : List Event) (executor : Executor)
    (exchange : Exchange) :
    firstReading (events ++ [.exchanged executor exchange]) = firstReading events := by
  rw [firstReading_append]
  exact Option.or_none

namespace Record

variable {r r₁ r' start sent : Record m} {stamping : Bool} {events more : List Event}

/-- A new record whose snapshot holds no timestamps. -/
structure Unstamped (r : Record m) : Prop where
  new : r.persisted = false
  creation : r.snapshot? createdAt = none
  update : r.snapshot? updatedAt = none

theorem Unstamped.of_writes {p : String → Prop} (fresh : r.Unstamped) (writes : Writes p r r₁) :
    r₁.Unstamped where
  new := writes.persisted.trans fresh.new
  creation := by
    rw [snapshot?, writes.snapshot]
    exact fresh.creation
  update := by
    rw [snapshot?, writes.snapshot]
    exact fresh.update

/-- A timestamp column may be stamped as long as it holds nothing. -/
theorem Unstamped.stampable_iff (fresh : r.Unstamped) {column : String} : r.Stampable column ↔
    (column = createdAt ∨ column = updatedAt) ∧ r.attributes.current.get? column = none := by
  have clean_iff (unsaved : r.snapshot? column = none) :
      r.isDirty [column] = false ↔ r.attributes.current.get? column = none := by
    cases held : r.attributes.current.get? column with
    | none => simp [isDirty, Attributes.isDirty_singleton, held]
    | some v => simp [isDirty_of_unsaved held unsaved]
  constructor
  · rintro ⟨clean, rfl | ⟨rfl, -⟩⟩
    · exact ⟨.inr rfl, (clean_iff fresh.update).1 clean⟩
    · exact ⟨.inl rfl, (clean_iff fresh.creation).1 clean⟩
  · rintro ⟨rfl | rfl, empty⟩
    · exact ⟨(clean_iff fresh.creation).2 empty, .inr ⟨rfl, fresh.new⟩⟩
    · exact ⟨(clean_iff fresh.update).2 empty, .inl rfl⟩

theorem writes_stampedAt (r : Record m) (now : DateTime) :
    Writes r.Stampable r (r.stampedAt now) :=
  writes_stampColumns now (fun _ mem => mem_stampedColumns_iff.1 mem) r

/-- A stamped record holds the time under the timestamp columns that held nothing. -/
theorem Unstamped.get?_stampedAt (fresh : r.Unstamped) (now : DateTime) (column : String) :
    (r.stampedAt now).attributes.current.get? column = (r.attributes.current.get? column).or
      (if column = createdAt ∨ column = updatedAt then some (r.schema.stampForm column now)
        else none) := by
  by_cases stampable : r.Stampable column
  · obtain ⟨timestamp, empty⟩ := fresh.stampable_iff.1 stampable
    rw [empty, Option.none_or, if_pos timestamp]
    exact get?_stampColumns now (mem_stampedColumns_iff.2 stampable) r
  · rw [(r.writes_stampedAt now).get?_eq stampable]
    cases held : r.attributes.current.get? column with
    | some v => rfl
    | none =>
        rw [Option.none_or, if_neg]
        exact fun timestamp => stampable (fresh.stampable_iff.2 ⟨timestamp, held⟩)

/-- Stamping a second time changes nothing, whatever the clock shows by then. -/
theorem Unstamped.stampedAt_again (fresh : r.Unstamped) (now later : DateTime) :
    (r.stampedAt now).stampedAt later = r.stampedAt now := by
  have none_left : (r.stampedAt now).stampedColumns later = [] := by
    refine List.eq_nil_iff_forall_not_mem.2 fun column mem => ?_
    obtain ⟨timestamp, empty⟩ :=
      (fresh.of_writes (r.writes_stampedAt now)).stampable_iff.1 (mem_stampedColumns_iff.1 mem)
    rw [fresh.get?_stampedAt, if_pos timestamp] at empty
    cases held : r.attributes.current.get? column <;> simp [held] at empty
  rw [stampedAt, none_left, List.foldl_nil]

/-- The record as a first reading of the clock, if there was one, has stamped it. -/
def stampedOnce (r : Record m) : Option DateTime → Record m
  | none => r
  | some now => r.stampedAt now

/-- Reading the clock again changes neither the first reading nor, after it, the record. -/
theorem Stamped.eq_stampedOnce {stamps : List Event} (fresh : start.Unstamped)
    (stamped : Stamped stamping (start.stampedOnce (firstReading events)) stamps r₁) :
    r₁ = start.stampedOnce (firstReading (events ++ stamps)) := by
  cases stamped with
  | skipped off => rw [List.append_nil]
  | stamped on now =>
      rw [firstReading_append]
      cases first : firstReading events with
      | none => rfl
      | some earlier => exact fresh.stampedAt_again earlier now

/-- All that is asked for among the events is the insertion of one row: of the record as it is, if
saves do not stamp it, or else as the first reading of the clock has stamped it. -/
structure SameRow (stamping : Bool) (start : Record m) (events : List Event) : Prop where
  asks : ∀ executor exchange, .exchanged executor exchange ∈ events → exchange.request =
    .statement ((start.stampedOnce (firstReading events)).insertion (generatedKey? m))
  /-- Before anything is asked for, the clock has been read if saves stamp the record. -/
  read : ∀ executor exchange, .exchanged executor exchange ∈ events →
    (firstReading events).isSome = (stamping && m.timestamps)
  unread : (stamping && m.timestamps) = false → firstReading events = none

namespace SameRow

theorem nil (stamping : Bool) (start : Record m) : SameRow stamping start [] where
  asks _ _ asked := by cases asked
  read _ _ asked := by cases asked
  unread _ := rfl

/-- Stamping does not change a row that has been asked for. -/
theorem stamp (same : SameRow stamping start events) {stamps : List Event}
    (stamped : Stamped stamping (start.stampedOnce (firstReading events)) stamps r₁) :
    SameRow stamping start (events ++ stamps) ∧
      (firstReading (events ++ stamps)).isSome = (stamping && m.timestamps) := by
  cases stamped with
  | skipped off =>
      rw [List.append_nil]
      refine ⟨same, ?_⟩
      rw [same.unread off, off]
      rfl
  | stamped on now =>
      have read : (firstReading (events ++ [.clockRead m.path now])).isSome = true := by
        rw [firstReading_append, Option.isSome_or]
        exact Bool.or_true _
      have earlier {executor : Executor} {exchange : Exchange}
          (mem : .exchanged executor exchange ∈ events ++ [.clockRead m.path now]) :
          .exchanged executor exchange ∈ events := by
        rcases List.mem_append.1 mem with earlier | last
        · exact earlier
        · cases List.mem_singleton.1 last
      refine ⟨⟨?_, ?_, ?_⟩, read.trans on.symm⟩
      · intro executor exchange mem
        -- Something has been asked for, so the clock had been read by then.
        have first := same.read executor exchange (earlier mem)
        rw [on] at first
        rw [firstReading_append, Option.or_of_isSome first]
        exact same.asks executor exchange (earlier mem)
      · intro executor exchange mem
        exact read.trans on.symm
      · intro off
        cases on.symm.trans off

/-- One more insertion of the same row. -/
theorem ask (same : SameRow stamping start events) {executor : Executor} {exchange : Exchange}
    (read : (firstReading events).isSome = (stamping && m.timestamps))
    (asked : exchange.request =
      .statement ((start.stampedOnce (firstReading events)).insertion (generatedKey? m))) :
    SameRow stamping start (events ++ [.exchanged executor exchange]) := by
  have unchanged := firstReading_append_exchanged events executor exchange
  constructor
  · intro executor' exchange' mem
    rw [unchanged]
    rcases List.mem_append.1 mem with earlier | last
    · exact same.asks executor' exchange' earlier
    · cases List.mem_singleton.1 last
      exact asked
  · intro _ _ _
    rw [unchanged, read]
  · intro off
    rw [unchanged, same.unread off]

/-- One more attempt asks for the same row, if it finds an executor, and leaves the record as it has
been sent if it fails. -/
theorem attempt (same : SameRow stamping start events) (fresh : start.Unstamped)
    (sent : r = start.stampedOnce (firstReading events)) {resolved : Except Error Executor}
    {result : Except Error Bool} (saving : Saving stamping resolved r result r' more) :
    SameRow stamping start (events ++ more) ∧
      (∀ e, result = .error e → r' = start.stampedOnce (firstReading (events ++ more))) ∧
      ∀ executor, resolved = .ok executor → ∃ exchange, .exchanged executor exchange ∈ more := by
  subst sent
  have new : (start.stampedOnce (firstReading events)).persisted = false := by
    cases firstReading events with
    | none => exact fresh.new
    | some now => exact (fresh.of_writes (start.writes_stampedAt now)).new
  rcases saving.attempt_of_new new with
    ⟨rfl, rfl, e, failed⟩ | ⟨executor, exchange, r₁, stamps, found, stamped, rfl, asked, left⟩
  · rw [List.append_nil]
    refine ⟨same, fun _ _ => rfl, fun executor found => ?_⟩
    cases failed.symm.trans found
  · obtain ⟨same, read⟩ := same.stamp stamped
    obtain rfl := stamped.eq_stampedOnce fresh
    rw [← List.append_assoc]
    refine ⟨same.ask read asked, ?_, ?_⟩
    · intro e failed
      rw [firstReading_append_exchanged]
      exact left e failed
    · intro executor' found'
      cases found.symm.trans found'
      exact ⟨exchange, List.mem_append_right _ (List.mem_singleton_self _)⟩

end SameRow

/-!
## Runs of failing saves
-/

variable [Pool σ]

/-- The record can come from `start` to a state by saves that have failed, all of them with or all
without stamping, which added the given events to the transcript, whatever happens to the session in
between. -/
inductive Retried (stamping : Bool) (start : Held m σ) : List Event → Held m σ → Prop
  | start : Retried stamping start [] start
  | failed {events more : List Event} {held reached : Held m σ} {e : Error}
      (run : Retried stamping start events held)
      (refused : saveWith stamping held = .error e reached)
      (grows : reached.session.transcript = held.session.transcript ++ more) :
      Retried stamping start (events ++ more) reached
  | elsewhere {events : List Event} {held : Held m σ} (run : Retried stamping start events held)
      (s : Session σ) : Retried stamping start events ⟨held.record, s⟩

/-- After any failures the record is as it has been sent. -/
theorem Retried.sameRow {start held : Held m σ} (run : Retried stamping start events held)
    (fresh : start.record.Unstamped) : SameRow stamping start.record events ∧
      held.record = start.record.stampedOnce (firstReading events) := by
  induction run with
  | start => exact ⟨.nil stamping start.record, rfl⟩
  | failed run refused grows ih =>
      obtain ⟨same, sent⟩ := ih
      obtain ⟨more, grows', saving⟩ := (saveWith_ends stamping _).of_error refused
      obtain rfl := List.append_cancel_left (grows.symm.trans grows'.transcript)
      obtain ⟨same, left, -⟩ := same.attempt fresh sent saving
      exact ⟨same, left _ rfl⟩
  | elsewhere run s ih => exact ih

/-- Let the snapshot of a new record hold no timestamps, and let saves of the record fail any number
of times, whatever the executors, the resolvers and the clocks do. Then the next attempt sends an
insertion if it finds an executor, and all insertions that have been sent by then are of one row, so
that executors of one dialect have been sent one text with the same parameters. If saves do not stamp
the record, it is the row of the record as it is. Otherwise the first time that the clock has shown
stands in the row, in its stored form, under each timestamp column that held nothing. -/
theorem retries_insert_same_row {start held : Held m σ} (fresh : start.record.Unstamped)
    (run : Retried stamping start events held) :
    Edit.Ends (saveWith stamping) held fun _ _ more => ∃ row : Row,
      (∀ executor, held.session.resolved held.record.connection = .ok executor →
        ∃ exchange, .exchanged executor exchange ∈ more) ∧
      (∀ executor exchange, .exchanged executor exchange ∈ events ++ more →
        exchange.request = .statement (.insert m.table row.entries (generatedKey? m)) ∧
        ∀ executor' exchange', .exchanged executor' exchange' ∈ events ++ more →
          executor'.dialect = executor.dialect →
          exchange'.request.render executor'.dialect = exchange.request.render executor.dialect) ∧
      ((stamping && m.timestamps) = false → row = start.record.attributes.current) ∧
      ((stamping && m.timestamps) = true → ∀ executor exchange,
        .exchanged executor exchange ∈ events ++ more →
        ∃ now, firstReading (events ++ more) = some now ∧
          ∀ column, row.get? column = (start.record.attributes.current.get? column).or
            (if column = createdAt ∨ column = updatedAt then
              some (start.record.schema.stampForm column now) else none)) := by
  obtain ⟨same, sent⟩ := run.sameRow fresh
  have saves := saveWith_ends stamping held
  refine saves.mono fun result r' more saving => ?_
  obtain ⟨same, -, asks⟩ := same.attempt fresh sent saving
  refine ⟨(start.record.stampedOnce (firstReading (events ++ more))).attributes.current, asks,
    ?_, ?_, ?_⟩
  · intro executor exchange asked
    refine ⟨same.asks executor exchange asked, fun executor' exchange' asked' dialect => ?_⟩
    rw [same.asks _ _ asked, same.asks _ _ asked', dialect]
  · intro off
    rw [same.unread off]
    rfl
  · intro on executor exchange asked
    have read := same.read executor exchange asked
    rw [on] at read
    obtain ⟨now, first⟩ := Option.isSome_iff_exists.1 read
    refine ⟨now, first, fun column => ?_⟩
    rw [first]
    exact fresh.get?_stampedAt now column

/-- Users with a clock that starts with the year and goes on by a minute at each reading. -/
def ticking : Model :=
  { Specimen.users with
    clock := fun reading => (Specimen.newYear.minusOffset? (-reading)).getD Specimen.newYear }

/-- A new user with a name. -/
def ada : Record ticking :=
  { new ticking with attributes := ⟨.ofList [("name", .text "Ada")], .empty⟩ }

/-- An executor that refuses the first insertion. -/
def slow : Scripted := (Scripted.idle false).pushKey (.error (.query "locked"))

/-- What the refusal leaves. -/
def refused : Held ticking ScriptedPool :=
  ((Operation.saveWith true).run ⟨ada, Specimen.session slow⟩).2

/-- The insertion that is sent a minute later carries the start of the year. -/
theorem ada_inserted_as_refused :
    saveWith true ⟨ada, Specimen.session slow⟩ = .error (.database (.query "locked")) refused ∧
    Edit.Ends (saveWith true) refused fun _ _ more => ∃ row : Row,
      (∃ executor exchange, .exchanged executor exchange ∈ more ∧
        exchange.request = .statement (.insert "users" row.entries (some "id"))) ∧
      row.get? "created_at" = some (.dateTime Specimen.newYear) := by
  have failed : saveWith true ⟨ada, Specimen.session slow⟩ =
      .error (.database (.query "locked")) refused := rfl
  have fresh : ada.Unstamped := ⟨rfl, rfl, rfl⟩
  have run : Retried true ⟨ada, Specimen.session slow⟩ refused.session.transcript refused :=
    Retried.start.failed failed rfl
  have first : firstReading refused.session.transcript = some Specimen.newYear := rfl
  refine ⟨failed, (retries_insert_same_row fresh run).mono fun _ _ more inserted => ?_⟩
  obtain ⟨row, asks, asked, -, stamped⟩ := inserted
  obtain ⟨exchange, mem⟩ := asks ⟨0, .sqlite⟩ rfl
  have mem' := List.mem_append_right refused.session.transcript mem
  obtain ⟨now, read, columns⟩ := stamped rfl _ _ mem'
  rw [firstReading_append, first, Option.some_or] at read
  cases read
  exact ⟨row, ⟨_, exchange, mem, (asked _ _ mem').1⟩, columns "created_at"⟩

end Record

end LiveRecord
