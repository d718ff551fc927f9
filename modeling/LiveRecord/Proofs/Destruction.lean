import LiveRecord.Finding
import LiveRecord.Proofs.Addressing
import LiveRecord.Proofs.Specimen
import Mathlib.Data.List.Forall2

/-!
# Destroying records

To destroy the records with some keys is to load them by one query and to delete them one after
another. The query answers with rows, and all that is sent after it can be read off the rows: each
is deleted by its own key, in their sequence, up to the first row that has no key or whose deletion
is refused. `Destruction` lists the three ways in which this can go. A number is returned in the
first of them only, when every row has been deleted, and it is the number of the rows.
-/

namespace LiveRecord.Model

variable {m : Model} {key : String} {executor : Executor} {row : Row} {rows : List Row}
variable {event : Event} {events : List Event} {result : Except Error Nat}

/-- Is the event the deletion of what holds the key of the row, by one condition on the key column,
with this answer of the executor? -/
def AsksToDelete (m : Model) (key : String) (executor : Executor) (row : Row)
    (answer : Except DatabaseError Nat) (event : Event) : Prop :=
  ∃ v condition, row.get? key = some v ∧ condition.AsksFor key v ∧
    event = .exchanged executor (.executed (.statement (.delete m.table [condition])) answer)

/-- Is the event that the row is deleted by its own key? -/
def Deletes (m : Model) (key : String) (executor : Executor) (row : Row) (event : Event) : Prop :=
  ∃ affected, m.AsksToDelete key executor row (.ok affected) event

/-- What can come of deleting rows one after another: all are deleted; or some are, and the next one
has no key; or some are, and the deletion of the next one is refused. -/
inductive Destruction (m : Model) (key : String) (executor : Executor) :
    List Row → Except Error Nat → List Event → Prop
  | completed {rows : List Row} {events : List Event}
      (deleted : List.Forall₂ (m.Deletes key executor) rows events) :
      Destruction m key executor rows (.ok rows.length) events
  | keyless {rows rest : List Row} {row : Row} {events : List Event}
      (deleted : List.Forall₂ (m.Deletes key executor) rows events)
      (absent : row.get? key = none) :
      Destruction m key executor (rows ++ row :: rest) (.error (.attributeNotFound key)) events
  | refused {rows rest : List Row} {row : Row} {events : List Event} {event : Event}
      {cause : DatabaseError} (deleted : List.Forall₂ (m.Deletes key executor) rows events)
      (asked : m.AsksToDelete key executor row (.error cause) event) :
      Destruction m key executor (rows ++ row :: rest) (.error (.database cause))
        (events ++ [event])

namespace Destruction

/-- The first row has no key. -/
theorem of_keyless (absent : row.get? key = none) (rest : List Row) :
    Destruction m key executor (row :: rest) (.error (.attributeNotFound key)) [] :=
  have nothing : List.Forall₂ (m.Deletes key executor) [] [] := .nil
  .keyless nothing absent

/-- The deletion of the first row is refused. -/
theorem of_refused {cause : DatabaseError}
    (asked : m.AsksToDelete key executor row (.error cause) event) (rest : List Row) :
    Destruction m key executor (row :: rest) (.error (.database cause)) [event] :=
  have nothing : List.Forall₂ (m.Deletes key executor) [] [] := .nil
  .refused nothing asked

/-- One more row is deleted before the others. -/
theorem cons (first : m.Deletes key executor row event)
    (h : Destruction m key executor rows result events) :
    Destruction m key executor (row :: rows) (result.map (· + 1)) (event :: events) := by
  cases h with
  | completed deleted => exact .completed (.cons first deleted)
  | keyless deleted absent => exact .keyless (.cons first deleted) absent
  | refused deleted asked => exact .refused (.cons first deleted) asked

/-- An event does not show two answers. -/
theorem not_deletes {cause : DatabaseError}
    (asked : m.AsksToDelete key executor row (.error cause) event) (other : Row) :
    ¬ m.Deletes key executor other event := by
  obtain ⟨v, condition, -, -, rfl⟩ := asked
  rintro ⟨affected, w, condition', -, -, same⟩
  rw [Event.exchanged.injEq, Exchange.executed.injEq] at same
  cases same.2.2

theorem exists_deletes_of_mem (deleted : List.Forall₂ (m.Deletes key executor) rows events)
    (mem : event ∈ events) : ∃ row, m.Deletes key executor row event := by
  induction deleted with
  | nil => cases mem
  | cons first rest ih =>
      rcases List.mem_cons.1 mem with rfl | mem
      · exact ⟨_, first⟩
      · exact ih mem

/-- A number is returned exactly if all rows have been deleted, and it is the number of the rows. -/
theorem eq_ok_iff (h : Destruction m key executor rows result events) (n : Nat) :
    result = .ok n ↔ n = rows.length ∧ List.Forall₂ (m.Deletes key executor) rows events := by
  cases h with
  | completed deleted =>
      constructor
      · intro returned
        exact ⟨(Except.ok.inj returned).symm, deleted⟩
      · rintro ⟨rfl, -⟩
        rfl
  | keyless deleted absent =>
      refine ⟨nofun, fun all => ?_⟩
      have fewer := all.2.length_eq
      rw [List.length_append, deleted.length_eq, List.length_cons] at fewer
      omega
  | refused deleted asked =>
      refine ⟨nofun, fun all => ?_⟩
      obtain ⟨other, deletes⟩ :=
        exists_deletes_of_mem all.2 (List.mem_append_right _ List.mem_cons_self)
      exact absurd deletes (not_deletes asked other)

end Destruction

variable {σ : Type} [Pool σ] {s : Session σ} {ids : List Value}

theorem eq_of_keyName (named : m.primaryKey = some key) {key' : String}
    (named' : Record.keyName m = .ok key') : key' = key :=
  Option.some.inj ((Record.keyName_eq_ok_iff.1 named').symm.trans named)

/-- What can come of deleting the record of one row. -/
inductive RowDeleted (m : Model) (key : String) (executor : Executor) (row : Row) :
    Except Error Bool → List Event → Prop
  | keyless (absent : row.get? key = none) :
      RowDeleted m key executor row (.error (.attributeNotFound key)) []
  | deleted {event : Event} (deletes : m.Deletes key executor row event) :
      RowDeleted m key executor row (.ok true) [event]
  | refused {event : Event} {cause : DatabaseError}
      (asked : m.AsksToDelete key executor row (.error cause) event) :
      RowDeleted m key executor row (.error (.database cause)) [event]

theorem delete_ofRow_ends (named : m.primaryKey = some key) {connection : Option String}
    (found : s.resolved (connection.or m.connection) = .ok executor) :
    Record.delete.Ends ⟨.ofRow m row connection, s⟩ fun result _ events =>
      RowDeleted m key executor row result events := by
  have held : (Record.ofRow m row connection).attributes.current = row := rfl
  refine (Record.delete_ends _).mono ?_
  intro result r' events deleting
  cases deleting with
  | unnamed failed => cases failed.symm.trans (Record.keyName_eq_ok_iff.2 named)
  | absent named' new => cases new
  | unresolved named' old keyed failed => cases failed.symm.trans found
  | unkeyed named' old failed =>
      obtain rfl := eq_of_keyName named named'
      rw [Attributes.get, held] at failed
      cases absent : row.get? _ with
      | some v => rw [absent] at failed; cases failed
      | none =>
          rw [absent] at failed
          cases failed
          exact .keyless absent
  | deleted named' old keyed found' =>
      obtain rfl := eq_of_keyName named named'
      cases found'.symm.trans found
      exact .deleted ⟨_, _, _, Attributes.get_eq_ok_iff.1 keyed, .of_holds _ _, rfl⟩
  | refused named' old keyed found' =>
      obtain rfl := eq_of_keyName named named'
      cases found'.symm.trans found
      exact .refused ⟨_, _, Attributes.get_eq_ok_iff.1 keyed, .of_holds _ _, rfl⟩

/-- Deleting the records of some rows, when so many others have been deleted already. -/
theorem deleteAll_ends (named : m.primaryKey = some key) (connection : Option String) (count : Nat)
    (found : s.resolved (connection.or m.connection) = .ok executor) :
    (deleteAll count (rows.map fun row => .ofRow m row connection)).Ends s fun result events =>
      ∃ returned, result = returned.map (count + ·) ∧
        Destruction m key executor rows returned events := by
  induction rows generalizing count s with
  | nil => exact .pure ⟨.ok 0, rfl, .completed .nil⟩
  | cons row rest ih =>
      rw [List.map_cons, deleteAll]
      refine .bind_applyTo (delete_ofRow_ends named found) ?_ ?_
      · intro e r' events first
        cases first with
        | keyless absent => exact ⟨_, rfl, .of_keyless absent rest⟩
        | refused asked => exact ⟨_, rfl, .of_refused asked rest⟩
      · intro deleted r' events s' grows first
        cases first with
        | deleted deletes =>
            refine (ih (count + 1) ((grows.resolved _).trans found)).mono ?_
            rintro result more ⟨returned, rfl, destroyed⟩
            refine ⟨returned.map (· + 1), ?_, destroyed.cons deletes⟩
            cases returned with
            | error e => rfl
            | ok n => exact congrArg Except.ok (Nat.succ_add_eq_add_succ count n)

/-- Loading the records with some keys asks once for the rows. -/
theorem findMany_ends (named : m.primaryKey = some key) (some_ids : ids ≠ []) :
    (m.findMany ids).Ends s fun result events =>
      (∀ e, s.resolved m.connection = .error e → result = .error e ∧ events = []) ∧
      ∀ executor, s.resolved m.connection = .ok executor → ∃ answer,
        result = (answer.mapError .database).map
          (fun rows => rows.map fun row => .ofRow m row m.connection) ∧
        events = [.exchanged executor (.queried
          (.statement (.select m.table [.isIn key ids] [] none)) answer)] := by
  rw [findMany]
  refine .ofExcept (fun key' named' => ?_) fun e failed => ?_
  · obtain rfl := eq_of_keyName named named'
    rw [if_neg (by simpa using some_ids)]
    refine .query (fun executor found => ?_) fun e failed => ?_
    · refine WP.query_records.mono ?_
      rintro result reached ⟨answer, returned, grows⟩
      refine ⟨_, grows, fun e failed => ?_, fun executor' found' => ?_⟩
      · cases failed.symm.trans found
      · cases found'.symm.trans found
        exact ⟨answer, returned, rfl⟩
    · refine ⟨fun e' failed' => ?_, fun executor found => ?_⟩
      · cases failed'.symm.trans failed
        exact ⟨rfl, rfl⟩
      · cases found.symm.trans failed
  · cases failed.symm.trans (Record.keyName_eq_ok_iff.2 named)

/-- Without keys nothing is sent, and no executor is looked for. Otherwise, if the resolver finds an
executor for the connection of the type, one query asks it for the rows with the keys. If it answers
with rows, they are deleted one after another, each by its own key, up to the first one that has no
key or whose deletion is refused; the number of rows is returned exactly if all have been deleted.
Whatever step fails, its failure is returned, and nothing is sent after it. -/
theorem destroys_rows_in_sequence (named : m.primaryKey = some key) (s : Session σ) :
    m.destroy [] s = .ok 0 s ∧
    ∀ ids, ids ≠ [] → (m.destroy ids).Ends s fun result events =>
      (∀ e, s.resolved m.connection = .error e → result = .error e ∧ events = []) ∧
      ∀ executor, s.resolved m.connection = .ok executor → ∃ answer more,
        events = .exchanged executor (.queried
          (.statement (.select m.table [.isIn key ids] [] none)) answer) :: more ∧
        (∀ cause, answer = .error cause → result = .error (.database cause) ∧ more = []) ∧
        ∀ rows, answer = .ok rows → Destruction m key executor rows result more ∧
          ∀ n, result = .ok n ↔
            n = rows.length ∧ List.Forall₂ (m.Deletes key executor) rows more := by
  constructor
  · have keyName := Record.keyName_eq_ok_iff.2 named
    simp only [destroy, findMany, keyName]
    rfl
  · intro ids some_ids
    rw [destroy]
    refine .bind (findMany_ends named some_ids) ?_ ?_
    · rintro e events ⟨unresolved, asked⟩
      refine ⟨fun e' failed => ?_, fun executor found => ?_⟩
      · obtain ⟨same, quiet⟩ := unresolved e' failed
        cases same
        exact ⟨rfl, quiet⟩
      obtain ⟨answer, failed, rfl⟩ := asked executor found
      cases answer with
      | ok rows => cases failed
      | error cause =>
          cases failed
          refine ⟨_, [], rfl, fun cause' same => ?_, nofun⟩
          cases same
          exact ⟨rfl, rfl⟩
    · rintro records events s' grows ⟨unresolved, asked⟩
      cases resolved : s.resolved m.connection with
      | error e => cases (unresolved e resolved).1
      | ok executor =>
          obtain ⟨answer, loaded, rfl⟩ := asked executor resolved
          cases answer with
          | error cause => cases loaded
          | ok rows =>
              obtain rfl := Except.ok.inj loaded
              have found : s'.resolved (m.connection.or m.connection) = .ok executor := by
                rw [Option.or_self, grows.resolved, resolved]
              refine (deleteAll_ends named m.connection 0 found).mono ?_
              rintro result more ⟨returned, rfl, destroyed⟩
              have same : returned.map (0 + ·) = returned := by
                cases returned with
                | error e => rfl
                | ok n => exact congrArg Except.ok (Nat.zero_add n)
              rw [same]
              refine ⟨nofun, fun executor' found' => ?_⟩
              cases found'
              refine ⟨_, more, rfl, nofun, fun rows' answered => ?_⟩
              cases answered
              exact ⟨destroyed, destroyed.eq_ok_iff⟩

/-- Three stored users. -/
def crowd : List Row := [1, 2, 3].map fun id => .ofList [("id", .int id)]

/-- An executor that finds them and refuses to delete the second. -/
def contended : Scripted :=
  (((Scripted.idle false).pushRows (.ok crowd)).pushAffected (.ok 1)).pushAffected
    (.error (.query "locked"))

/-- The refusal ends the destruction: the first user is deleted, and the third is not reached. -/
theorem refusal_ends_destruction :
    let answering : Executor := ⟨0, .sqlite⟩
    let deletion (id : Int64) (answer : Except DatabaseError Nat) : Event := .exchanged answering
      (.executed (.statement (.delete "users" [.equals "id" (.int id)])) answer)
    let deletions := [deletion 1 (.ok 1), deletion 2 (.error (.query "locked"))]
    ∃ reached, Specimen.users.destroy [.int 1, .int 2, .int 3] (Specimen.session contended) =
        .error (.database (.query "locked")) reached ∧
      reached.transcript.tail = deletions ∧
      Destruction Specimen.users "id" answering crowd (.error (.database (.query "locked")))
        deletions := by
  have run : Specimen.users.destroy [.int 1, .int 2, .int 3] (Specimen.session contended) =
      .error _ _ := rfl
  refine ⟨_, rfl, rfl, ?_⟩
  obtain ⟨events, grows, -, asked⟩ := ((destroys_rows_in_sequence (m := Specimen.users) rfl
    (Specimen.session contended)).2 _ (List.cons_ne_nil _ _)).of_error run
  obtain ⟨answer, more, rfl, -, answered⟩ := asked ⟨0, .sqlite⟩ rfl
  cases grows.transcript
  exact (answered _ rfl).1

end LiveRecord.Model
