import LiveRecord.Proofs.Outcome
import LiveRecord.Proofs.QueryChain
import LiveRecord.Proofs.Specimen
import LiveRecord.Proofs.StatementText

/-!
# What a query sends

A chain of calls makes a query, and an ending sends a statement of it. The values that are given to
the calls and to the ending are the parameters of the statement, and nothing of them is in its text.
Two chains with the same names and shapes, ended with the same names, send the same text.
-/

namespace LiveRecord

/-- What an executor is sent in an event. -/
def Event.rendered? : Event → Option Sql.Rendered
  | .exchanged executor exchange => some (exchange.request.render executor.dialect)
  | .noted _ | .clockRead .. => none

namespace Query

open Sql (Assignment Bound Condition Rendered Statement Test allInert_wherePieces boundsOf placeText
  placesOf placesOf_textFrom textFrom unnumbered unnumbered_textFrom wherePieces)

namespace Clause

/-- What the conditions of the call look like without the values. -/
def tests : Clause → List Test
  | .whereEq column v => [.equals column v.isNull]
  | .whereIn column values => [.isIn column values.length]
  | .whereRow row => row.entries.map fun entry => .equals entry.1 entry.2.isNull
  | .orderBy .. | .limitTo _ => []

/-- The parameters that the call adds to the conditions. -/
def bounds : Clause → List Bound
  | .whereEq _ v => if v.isNull then [] else [.ofValue v]
  | .whereIn _ [] => [.int 1, .int 2]
  | .whereIn _ values => values.map .ofValue
  | .whereRow row => row.entries.flatMap fun entry =>
    if entry.2.isNull then [] else [.ofValue entry.2]
  | .orderBy .. | .limitTo _ => []

theorem test_conditions (clause : Clause) : clause.conditions.map Condition.test = clause.tests := by
  cases clause with
  | whereEq column v => exact congrArg (fun test => [test]) (Condition.test_holds column v)
  | whereRow row =>
      rw [conditions, List.map_map]
      exact List.map_congr_left fun entry _ => Condition.test_holds entry.1 entry.2
  | whereIn | orderBy | limitTo => rfl

theorem bounds_conditions (clause : Clause) :
    clause.conditions.flatMap Condition.bounds = clause.bounds := by
  cases clause with
  | whereEq column v => simp [conditions, bounds, Condition.bounds_holds]
  | whereRow row => simp [conditions, bounds, List.flatMap_map, Condition.bounds_holds]
  | whereIn column values => cases values <;> simp [conditions, bounds, Condition.bounds]
  | orderBy | limitTo => rfl

/-- Do two chains differ in values only? Every condition has its place in the sequence, looks at the
same column, and compares it with the absent value or with so many values in both chains; the orders
are the same, and both chains set a limit or none. -/
structure Alike (clauses clauses' : List Clause) : Prop where
  tests : clauses.flatMap tests = clauses'.flatMap Clause.tests
  orders : clauses.flatMap orders = clauses'.flatMap Clause.orders
  limited : (lastLimit? clauses).isSome = (lastLimit? clauses').isSome

end Clause

/-- A call that sends a statement of a query. -/
inductive Ending where
  | rows
  | update (row : Row)
  | delete
  | increment (column : String) (amount : Value) (extra : Row)
  | decrement (column : String) (amount : Value) (extra : Row)
  | insert (row : Row)
  | insertGetKey (row : Row) (key : String)

namespace Ending

variable {m : Model} {σ : Type}

/-- Make the call. -/
def perform [Pool σ] (q : Query m) : Ending → Action σ Unit
  | .rows => do let _ ← q.rows
  | .update row => do let _ ← q.update row
  | .delete => do let _ ← q.delete
  | .increment column amount extra => do let _ ← q.increment column amount extra
  | .decrement column amount extra => do let _ ← q.decrement column amount extra
  | .insert row => do let _ ← q.insert row
  | .insertGetKey row key => do let _ ← q.insertGetKey row key

/-- The statement that is sent. An update without columns sends nothing. -/
def statement? (q : Query m) : Ending → Option Statement
  | .rows => some q.selection
  | .update row => if row.isEmpty then none else some (.updateOf m.table row q.conditions)
  | .delete => some (.delete m.table q.conditions)
  | .increment column amount extra => some (q.adjustment (.add column amount) extra)
  | .decrement column amount extra => some (q.adjustment (.subtract column amount) extra)
  | .insert row => some (.insert m.table row.entries none)
  | .insertGetKey row key => some (.insert m.table row.entries (some key))

/-- The text and the parameters that are sent. -/
def sent? (q : Query m) (ending : Ending) : Option Rendered :=
  (ending.statement? q).map (·.render q.executor.dialect)

/-- Do the conditions of the query matter? -/
def isConditioned : Ending → Bool
  | .rows | .update _ | .delete | .increment .. | .decrement .. => true
  | .insert _ | .insertGetKey .. => false

/-- The parameters after a chain of calls: the values that are set or inserted, in the sequence of the
row, then those of the conditions, then the limit. -/
def bounds (clauses : List Clause) : Ending → List Bound
  | .rows => clauses.flatMap Clause.bounds ++
      (Clause.lastLimit? clauses).toList.map .bigUnsigned
  | .update row =>
    (row.entries.map fun entry => .ofValue entry.2) ++ clauses.flatMap Clause.bounds
  | .delete => clauses.flatMap Clause.bounds
  | .increment _ amount extra | .decrement _ amount extra =>
    .ofValue amount :: (extra.entries.map fun entry => .ofValue entry.2) ++
      clauses.flatMap Clause.bounds
  | .insert row | .insertGetKey row _ => row.entries.map fun entry => .ofValue entry.2

/-- Do two endings differ in values only? -/
inductive Alike : Ending → Ending → Prop
  | rows : Alike .rows .rows
  | update {row row' : Row} (same : row.keys = row'.keys) : Alike (.update row) (.update row')
  | delete : Alike .delete .delete
  | increment {column : String} {amount amount' : Value} {extra extra' : Row}
      (same : extra.keys = extra'.keys) :
      Alike (.increment column amount extra) (.increment column amount' extra')
  | decrement {column : String} {amount amount' : Value} {extra extra' : Row}
      (same : extra.keys = extra'.keys) :
      Alike (.decrement column amount extra) (.decrement column amount' extra')
  | insert {row row' : Row} (same : row.keys = row'.keys) : Alike (.insert row) (.insert row')
  | insertGetKey {row row' : Row} {key : String} (same : row.keys = row'.keys) :
      Alike (.insertGetKey row key) (.insertGetKey row' key)

end Ending

section Sends

variable {m : Model} {σ : Type}

/-- A call that asks the executor of the query once, whatever is returned. -/
theorem ends_of_exchange {α : Type} {q : Query m} {action : Action σ α} {s : Session σ}
    {statement : Statement} {describe : Except DatabaseError α → Exchange}
    (asks : ∀ answer, (describe answer).request = .statement statement)
    (spec : WP action (fun result reached => ∃ answer, result = answer.mapError .database ∧
      s.Grows [.exchanged q.executor (describe answer)] reached) s) :
    Action.Ends (action >>= fun _ => pure ()) s fun _ events =>
      events.filterMap Event.rendered? = [statement.render q.executor.dialect] := by
  have sends : action.Ends s fun _ events =>
      events.filterMap Event.rendered? = [statement.render q.executor.dialect] := by
    refine spec.mono ?_
    rintro result reached ⟨answer, -, grows⟩
    refine ⟨_, grows, ?_⟩
    simp only [List.filterMap_cons, Event.rendered?, asks, Request.render, List.filterMap_nil]
  refine .bind sends (fun _ _ h => h) fun _ events _ _ h => .pure ?_
  rw [List.append_nil]
  exact h

variable [Pool σ]

theorem write_ends {q : Query m} {s : Session σ} (statement : Statement) :
    Action.Ends (q.write statement >>= fun _ => pure ()) s fun _ events =>
      events.filterMap Event.rendered? = [statement.render q.executor.dialect] :=
  ends_of_exchange (fun _ => rfl) WP.query_write

/-- Every ending sends its statement, and nothing else. -/
theorem Ending.perform_ends (ending : Ending) (q : Query m) (s : Session σ) :
    (ending.perform q).Ends s fun _ events =>
      events.filterMap Event.rendered? = (ending.sent? q).toList := by
  cases ending with
  | rows => exact ends_of_exchange (fun _ => rfl) WP.query_fetch
  | insertGetKey row key => exact ends_of_exchange (fun _ => rfl) WP.query_insertGetKey
  | update row =>
      rw [perform, Query.update, sent?, statement?]
      split
      · exact .pure rfl
      · exact write_ends _
  | delete | increment | decrement | insert => exact write_ends _

end Sends

section Chains

variable {m m' : Model} {q : Query m} {q' : Query m'}

/-- The assignments of a row without their values are those of its keys. -/
theorem forget_sets (row : Row) :
    (row.entries.map fun entry => Assignment.set entry.1 entry.2).map Assignment.forget =
      row.keys.map fun key => .set key .null := by
  rw [Dict.keys, Entries.keys, List.map_map, List.map_map]
  rfl

theorem isEmpty_eq_of_keys {row row' : Row} (same : row.keys = row'.keys) :
    row.isEmpty = row'.isEmpty := by
  have empty (row : Row) : row.isEmpty = row.keys.isEmpty := (List.isEmpty_map).symm
  rw [empty, empty, same]

/-- Endings of the same table that differ in values only, after conditions that do. -/
theorem Ending.Alike.statement? (table : m.table = m'.table)
    (tests : q.conditions.map Condition.test = q'.conditions.map Condition.test)
    (orders : q.orders = q'.orders) (limited : q.limit.isSome = q'.limit.isSome)
    {ending ending' : Ending} (same : ending.Alike ending') :
    Option.Rel Statement.Alike (ending.statement? q) (ending'.statement? q') := by
  have adjusted (assignment assignment' : Assignment) (column : assignment.forget = assignment'.forget)
      {extra extra' : Row} (same : extra.keys = extra'.keys) :
      (q.adjustment assignment extra).Alike (q'.adjustment assignment' extra') := by
    rw [adjustment, adjustment, table]
    refine .update ?_ tests
    rw [List.map_cons, List.map_cons, forget_sets, forget_sets, column, same]
  cases same with
  | rows =>
      rw [Ending.statement?, Ending.statement?, selection, selection, table, orders]
      exact .some (.select tests limited)
  | update same =>
      rw [Ending.statement?, Ending.statement?, isEmpty_eq_of_keys same, table]
      split
      · exact .none
      · refine .some (.update ?_ tests)
        rw [forget_sets, forget_sets, same]
  | delete =>
      rw [Ending.statement?, Ending.statement?, table]
      exact .some (.delete tests)
  | increment same =>
      refine .some (adjusted _ _ ?_ same)
      rfl
  | decrement same =>
      refine .some (adjusted _ _ ?_ same)
      rfl
  | insert same =>
      rw [Ending.statement?, Ending.statement?, table]
      exact .some (.insert same)
  | insertGetKey same =>
      rw [Ending.statement?, Ending.statement?, table]
      exact .some (.insert same)

theorem test_refineAll (clauses : List Clause) :
    (clauses.flatMap Clause.conditions).map Condition.test = clauses.flatMap Clause.tests := by
  rw [List.map_flatMap]
  simp only [Clause.test_conditions]

theorem bounds_refineAll (clauses : List Clause) :
    (clauses.flatMap Clause.conditions).flatMap Condition.bounds =
      clauses.flatMap Clause.bounds := by
  rw [List.flatMap_assoc]
  simp only [Clause.bounds_conditions]

/-- The parameters of what is sent are the values, in the sequence of their places. -/
theorem Ending.bounds_of_sent {clauses : List Clause}
    (conditions : q.conditions = clauses.flatMap Clause.conditions)
    (limit : q.limit = Clause.lastLimit? clauses) {ending : Ending} {rendered : Rendered}
    (sent : ending.sent? q = some rendered) : rendered.bounds = ending.bounds clauses := by
  obtain ⟨statement, made, rfl⟩ := Option.map_eq_some_iff.1 sent
  rw [Statement.bounds_render]
  have sets (row : Row) : ((row.entries.map fun entry => Assignment.set entry.1 entry.2).map
      fun a => Bound.ofValue a.value) = row.entries.map fun entry => .ofValue entry.2 := by
    rw [List.map_map]
    rfl
  cases ending with
  | rows =>
      cases made
      rw [selection, Statement.bounds, conditions, limit, bounds_refineAll, Ending.bounds]
  | update row =>
      rw [Ending.statement?] at made
      split at made
      · cases made
      · cases made
        rw [Statement.updateOf, Statement.bounds, sets, conditions, bounds_refineAll, Ending.bounds]
  | delete =>
      cases made
      rw [Statement.bounds, conditions, bounds_refineAll, Ending.bounds]
  | increment column amount extra | decrement column amount extra =>
      cases made
      rw [adjustment, Statement.bounds, List.map_cons, sets, conditions, bounds_refineAll,
        Ending.bounds]
      rfl
  | insert row | insertGetKey row key =>
      cases made
      rfl

/-- The clause of the conditions in the text of a statement, if its first place has the given
number. -/
def whereText (q : Query m) (number : Nat) : List Char :=
  textFrom q.executor.dialect number (wherePieces q.executor.dialect q.conditions)

/-- The query without its conditions. -/
def unconditioned (q : Query m) : Query m := { q with conditions := [] }

/-- The conditions of a query add the same clause to every statement that has conditions at all, and
they add nothing else: without the clause the text is that of the query without its conditions, but
for the numbers of later places. -/
theorem where_in_sent {ending : Ending} (conditioned : ending.isConditioned = true)
    {rendered : Rendered} (sent : ending.sent? q = some rendered) :
    ∃ before after bare rest, rendered.sql.toList =
      before ++ q.whereText ((placesOf q.executor.dialect before).length + 1) ++ after ∧
      ending.sent? q.unconditioned = some bare ∧ bare.sql.toList = before ++ rest ∧
      unnumbered q.executor.dialect rest = unnumbered q.executor.dialect after := by
  obtain ⟨statement, made, rfl⟩ := Option.map_eq_some_iff.1 sent
  obtain ⟨bare, bareMade, conditions, bareConditions, head, tail⟩ : ∃ bare : Statement,
      ending.statement? q.unconditioned = some bare ∧ statement.conditions = q.conditions ∧
      bare.conditions = [] ∧
      bare.head q.executor.dialect = statement.head q.executor.dialect ∧
      bare.tail q.executor.dialect = statement.tail q.executor.dialect := by
    cases ending with
    | update row =>
        rw [Ending.statement?] at made ⊢
        split at made
        · cases made
        · next something =>
          cases made
          rw [if_neg something]
          exact ⟨_, rfl, rfl, rfl, rfl, rfl⟩
    | rows | delete | increment | decrement =>
        cases made
        exact ⟨_, rfl, rfl, rfl, rfl, rfl⟩
    | insert | insertGetKey => cases conditioned
  have whole := statement.sql_render q.executor.dialect
  have without := bare.sql_render q.executor.dialect
  rw [conditions] at whole
  rw [bareConditions, head, tail, List.append_assoc] at without
  let own := (boundsOf (statement.head q.executor.dialect)).length
  let all := own + (boundsOf (wherePieces q.executor.dialect q.conditions)).length
  refine ⟨textFrom q.executor.dialect 1 (statement.head q.executor.dialect),
    textFrom q.executor.dialect (all + 1) (statement.tail q.executor.dialect),
    bare.render q.executor.dialect,
    textFrom q.executor.dialect (own + 1) (statement.tail q.executor.dialect), ?_, ?_, without, ?_⟩
  · rw [placesOf_textFrom statement.allInert_head, List.length_map, List.length_range']
    exact whole
  · rw [Ending.sent?, bareMade]
    rfl
  · exact unnumbered_textFrom statement.allInert_tail _ _

/-- Let two queries of one table be made by chains of calls, on executors of one dialect, and let both
be ended. If the chains and the endings differ in values only, the texts that are sent are equal. The
parameters that are sent are the values, and the text has a place for each of them in this sequence.
The clause of the conditions is the same in all statements that one query can send, but for the numbers
of its places. -/
theorem text_free_of_values (σ : Type) [Pool σ] (table : m.table = m'.table)
    (executor executor' : Executor) (dialect : executor.dialect = executor'.dialect)
    (connection connection' : Option String) {clauses clauses' : List Clause}
    (alike : Clause.Alike clauses clauses') {ending ending' : Ending} (same : ending.Alike ending') :
    let q := (on m executor connection).refineAll clauses
    let q' := (on m' executor' connection').refineAll clauses'
    (ending.sent? q).map Rendered.sql = (ending'.sent? q').map Rendered.sql ∧
    (∀ rendered, ending.sent? q = some rendered →
      rendered.bounds = ending.bounds clauses ∧
      placesOf executor.dialect rendered.sql.toList =
        (List.range' 1 rendered.bounds.length).map (placeText executor.dialect)) ∧
    (∀ other : Ending, other.isConditioned = true → ∀ rendered, other.sent? q = some rendered →
      ∃ before after bare rest, rendered.sql.toList =
        before ++ q.whereText ((placesOf executor.dialect before).length + 1) ++ after ∧
        other.sent? q.unconditioned = some bare ∧ bare.sql.toList = before ++ rest ∧
        unnumbered executor.dialect rest = unnumbered executor.dialect after) ∧
    (∀ n k, unnumbered executor.dialect (q.whereText n) =
      unnumbered executor.dialect (q.whereText k)) ∧
    ∀ (other : Ending) (s : Session σ), (other.perform q).Ends s fun _ events =>
      events.filterMap Event.rendered? = (other.sent? q).toList := by
  rw [refineAll_on, refineAll_on]
  intro q q'
  refine ⟨?_, ?_, ?_, ?_, ?_⟩
  · have tests : q.conditions.map Condition.test = q'.conditions.map Condition.test := by
      rw [test_refineAll, test_refineAll]
      exact alike.tests
    have statements := same.statement? table tests alike.orders alike.limited
    rw [Ending.sent?, Ending.sent?]
    generalize ending.statement? q = made, ending'.statement? q' = made' at statements
    cases statements with
    | none => rfl
    | some alike =>
        refine congrArg some ?_
        show (Statement.render executor.dialect _).sql = (Statement.render executor'.dialect _).sql
        rw [← dialect]
        exact alike.sql_eq
  · intro rendered sent
    constructor
    · exact Ending.bounds_of_sent (q := q) rfl rfl sent
    · obtain ⟨statement, -, rfl⟩ := Option.map_eq_some_iff.1 sent
      exact statement.placesOf_render
  · intro other conditioned rendered sent
    exact where_in_sent conditioned sent
  · intro n k
    exact unnumbered_textFrom (allInert_wherePieces _) n k
  · intro other s
    exact other.perform_ends q s

end Chains

/-- The executor of a server. -/
def server : Executor := ⟨0, .postgres⟩

/-- Conditions on a name, on keys of which there are none, and on a role that is absent. -/
def named (name : Value) : List Clause :=
  [.whereEq "name" name, .whereIn "id" [], .whereRow (.ofList [("role", .null)])]

/-- An update of a greeting. -/
def greeting (v : Value) : Ending := .update (.ofList [("greeting", v)])

/-- A name that looks like a piece of a statement is bound, and the text is that of any other name. -/
theorem hostile_name_is_bound :
    let q := (on Specimen.users server none).refineAll (named (.text "x\" OR $7 = ?"))
    let q' := (on Specimen.users server none).refineAll (named (.int 7))
    (∀ n k, unnumbered .postgres (q.whereText n) = unnumbered .postgres (q.whereText k)) ∧
    ∃ rendered, (greeting (.text "$1")).sent? q = some rendered ∧
      ((greeting .null).sent? q').map Rendered.sql = some rendered.sql ∧
      rendered.bounds =
        [.text (some "$1"), .text (some "x\" OR $7 = ?"), .int 1, .int 2] ∧
      placesOf .postgres rendered.sql.toList =
        [['$', '1'], ['$', '2'], ['$', '3'], ['$', '4']] := by
  have alike : Clause.Alike (named (.text "x\" OR $7 = ?")) (named (.int 7)) := ⟨rfl, rfl, rfl⟩
  have same : (greeting (.text "$1")).Alike (greeting .null) := .update rfl
  have table : Specimen.users.table = Specimen.users.table := rfl
  obtain ⟨texts, lines, -, clause, -⟩ :=
    text_free_of_values ScriptedPool table server server rfl none none alike same
  obtain ⟨bounds, places⟩ := lines _ rfl
  refine ⟨clause, _, rfl, texts.symm, bounds, ?_⟩
  rw [bounds] at places
  exact places

end Query

end LiveRecord
