import LiveRecord.Finding
import LiveRecord.Proofs.Performed
import LiveRecord.Proofs.QueryChain
import LiveRecord.Proofs.Specimen

/-!
# The connection of a loaded record

A record, a query and a type may each name a connection or not. A query without a name asks the
resolver for its default executor. A row that such a query loads comes without a name as well, and a
record without a name is taken for one of its type's connection. So a loaded record stays with the
query that loaded it unless the query has no name and the type has one, and then everything that is
sent for the record goes elsewhere.
-/

namespace LiveRecord

/-- The executor that is asked in an event. -/
def Event.executor? : Event → Option Executor
  | .exchanged executor _ => some executor
  | .noted _ | .clockRead .. => none

/-- Where a query comes from: from a record, from the type, or from the name of a connection. -/
inductive Query.Origin (m : Model) where
  | ofRecord (r : Record m)
  | ofType
  | ofName (name : String)

namespace Query.Origin

variable {m : Model} {σ : Type}

/-- The query. -/
def query : Query.Origin m → Action σ (Query m)
  | .ofRecord r => r.query
  | .ofType => m.query
  | .ofName name => m.queryOn name

/-- The name under which its executor is looked up. -/
def connection : Query.Origin m → Option String
  | .ofRecord r => r.connection
  | .ofType => m.connection
  | .ofName name => some name

theorem query_eq (origin : Query.Origin m) :
    (origin.query : Action σ (Query m)) = Query.resolve m origin.connection := by
  cases origin <;> rfl

end Query.Origin

/-- A way to load records. -/
inductive Loading (m : Model) where
  | all (origin : Query.Origin m) (clauses : List Query.Clause)
  | first (origin : Query.Origin m) (clauses : List Query.Clause)
  | find (origin : Query.Origin m) (clauses : List Query.Clause) (id : Value)
  | fresh (r : Record m)

namespace Loading

variable {m : Model} {σ : Type}

/-- The name under which the executor of the loading query is looked up. -/
def connection : Loading m → Option String
  | .all origin _ | .first origin _ | .find origin _ _ => origin.connection
  | .fresh r => r.connection

/-- Load the records. -/
def run [Pool σ] : Loading m → Action σ (List (Record m))
  | .all origin clauses => do
    let q ← origin.query
    (q.refineAll clauses).records
  | .first origin clauses => do
    let q ← origin.query
    return (← (q.refineAll clauses).first).toList
  | .find origin clauses id => do
    let q ← origin.query
    return (← (q.refineAll clauses).find id).toList
  | .fresh r => return (← r.fresh).toList

/-- What can come of a loading, given what the resolver says about its connection. -/
inductive Answer (resolved : Except Error Executor) (connection : Option String) :
    Except Error (List (Record m)) → List Event → Prop
  | unsent (e : Error) : Answer resolved connection (.error e) []
  /-- There is no row to be loaded for a record that is not persisted. -/
  | rowless : Answer resolved connection (.ok []) []
  | refused {executor : Executor} {request : Request} (found : resolved = .ok executor)
      (cause : DatabaseError) : Answer resolved connection (.error (.database cause))
        [.exchanged executor (.queried request (.error cause))]
  | answered {executor : Executor} {request : Request} {rows : List Row}
      {records : List (Record m)} (found : resolved = .ok executor)
      (hydrated : ∀ r ∈ records, ∃ row, r = .ofRow m row connection) :
      Answer resolved connection (.ok records)
        [.exchanged executor (.queried request (.ok rows))]

variable {resolved : Except Error Executor} {connection : Option String} {s : Session σ}

theorem Answer.head {result : Except Error (List (Record m))} {events : List Event}
    (h : Answer resolved connection result events) :
    Answer resolved connection (result.map fun records => records.head?.toList) events := by
  cases h with
  | unsent e => exact .unsent e
  | rowless => exact .rowless
  | refused found cause => exact .refused found cause
  | answered found hydrated =>
      refine .answered found fun r mem => hydrated r ?_
      rw [Option.mem_toList] at mem
      exact List.mem_of_mem_head? mem

section Queries

variable [Pool σ] {q : Query m}

theorem records_ends (found : resolved = .ok q.executor) :
    q.records.Ends s (Answer resolved q.connection) := by
  refine WP.query_records.mono ?_
  rintro _ reached ⟨answer, rfl, grows⟩
  cases answer with
  | error cause => exact ⟨_, grows, .refused found cause⟩
  | ok rows =>
      refine ⟨_, grows, .answered found fun r mem => ?_⟩
      obtain ⟨row, -, rfl⟩ := List.mem_map.1 mem
      exact ⟨row, rfl⟩

theorem first_ends (found : resolved = .ok q.executor) :
    Action.Ends (q.first >>= fun r => pure r.toList) s (Answer resolved q.connection) := by
  have same : (q.first >>= fun r => pure r.toList : Action σ (List (Record m))) =
      (q.limitTo 1).records >>= fun records => pure records.head?.toList := by
    rw [Query.first, bind_assoc]
    simp only [pure_bind]
  rw [same]
  refine .bind (records_ends found) (fun e events h => h.head) fun records events s' _ h => ?_
  refine .pure ?_
  rw [List.append_nil]
  exact h.head

theorem find_ends (id : Value) (found : resolved = .ok q.executor) :
    Action.Ends (q.find id >>= fun r => pure r.toList) s (Answer resolved q.connection) := by
  rw [Query.find]
  split
  · exact first_ends found
  · exact ⟨[], .refl s, .unsent _⟩

omit [Pool σ] in
/-- A query that is refined and asked for records. -/
theorem refined_ends {origin : Query.Origin m} {clauses : List Query.Clause}
    {load : Query m → Action σ (List (Record m))}
    (loads : ∀ {q : Query m}, s.resolved origin.connection = .ok q.executor →
      (load q).Ends s (Answer (s.resolved origin.connection) q.connection)) :
    Action.Ends (origin.query >>= fun q => load (q.refineAll clauses)) s
      (Answer (s.resolved origin.connection) origin.connection) := by
  rw [Query.Origin.query_eq]
  refine .query (fun executor found => ?_) fun e failed => .unsent e
  have ends := loads (q := (Query.on m executor origin.connection).refineAll clauses)
    (by rw [Query.refineAll_executor]; exact found)
  rw [Query.refineAll_connection] at ends
  exact ends

theorem fresh_ends (r : Record m) :
    Action.Ends (r.fresh >>= fun r => pure r.toList) s
      (Answer (s.resolved r.connection) r.connection) := by
  rw [Record.fresh]
  split
  · simp only [bind_assoc]
    refine .ofExcept (fun key _ => .ofExcept (fun v _ => ?_) fun e _ => .unsent e) fun e _ => .unsent e
    exact .query (fun executor found => first_ends found) fun e _ => .unsent e
  · exact .pure .rowless

/-- Every loading has one of the listed answers. -/
theorem run_ends (loading : Loading m) :
    loading.run.Ends s (Answer (s.resolved loading.connection) loading.connection) := by
  cases loading with
  | all origin clauses => exact refined_ends fun found => records_ends found
  | first origin clauses => exact refined_ends fun found => first_ends found
  | find origin clauses id => exact refined_ends fun found => find_ends id found
  | fresh r => exact fresh_ends r

end Queries

end Loading

namespace Session

variable {σ : Type}

/-- Up to a later moment of the session only the executor of the connection has been asked. -/
def AsksOnly (s : Session σ) (connection : Option String) (later : Session σ) : Prop :=
  ∃ events, later.transcript = s.transcript ++ events ∧
    ∀ executor ∈ events.filterMap Event.executor?, s.resolved connection = .ok executor

end Session

namespace Record

variable {m : Model} {σ : Type} {r r' : Record m} {events : List Event}
variable {resolved : Except Error Executor}

theorem Evolves.connection (h : Evolves resolved r r' events) : r'.connection = r.connection := by
  induction h with
  | done => rfl
  | write stored _ ih =>
      have writes := Writes.single (p := fun _ => True) trivial stored
      exact ih.trans writes.connection
  | remove removed _ ih =>
      rw [ih, eq_of_remove removed]
  | sync _ ih | syncKey _ _ ih | stand _ _ ih => exact ih
  | readClock _ _ ih | ask _ _ _ ih => exact ih

theorem Evolves.asks_found (h : Evolves resolved r r' events) :
    ∀ executor ∈ events.filterMap Event.executor?, resolved = .ok executor := by
  induction h with
  | done => exact List.forall_mem_nil _
  | write _ _ ih | remove _ _ ih | sync _ ih | syncKey _ _ ih | stand _ _ ih => exact ih
  | readClock _ _ ih => exact ih
  | ask found _ _ ih => exact List.forall_mem_cons.2 ⟨found, ih⟩

/-- No call changes the connection of its record, and all that is sent goes to the executor of it. -/
theorem Performed.stays {op : Operation} (h : Performed resolved r op r' events) :
    r'.connection = r.connection ∧
      ∀ executor ∈ events.filterMap Event.executor?, resolved = .ok executor := by
  by_cases replaces : op.Replaces
  · cases h with
    | replace | unchanged => exact ⟨rfl, List.forall_mem_nil _⟩
    | _ => exact replaces.elim
  · have evolved := h.evolves replaces
    exact ⟨evolved.connection, evolved.asks_found⟩

variable [Pool σ]

/-- Is the connection the one that the record uses? In the session every call on the record and a
loading of it anew ask no executor but that of the connection, and a query of the record has that
executor, or fails as the resolver does. -/
structure Uses (connection : Option String) (r : Record m) (s : Session σ) : Prop where
  calls : ∀ op : Operation, s.AsksOnly connection (op.run ⟨r, s⟩).2.session
  fresh : WP (Loading.fresh r).run (fun _ later => s.AsksOnly connection later) s
  query : WP r.query (fun result _ => result.map Query.executor = s.resolved connection) s

theorem uses_connection (r : Record m) (s : Session σ) : r.Uses r.connection s where
  calls op := by
    obtain ⟨events, grows, performed⟩ := Operation.run_of_ends (performed_ends op ⟨r, s⟩)
    exact ⟨events, grows.transcript, performed.stays.2⟩
  fresh := by
    refine WP.mono (Loading.run_ends (s := s) (Loading.fresh r)) ?_
    rintro result later ⟨events, grows, answer⟩
    refine ⟨events, grows.transcript, fun executor mem => ?_⟩
    cases answer with
    | unsent | rowless => cases mem
    | refused found cause =>
        cases List.mem_singleton.1 mem
        exact found
    | answered found hydrated =>
        cases List.mem_singleton.1 mem
        exact found
  query := by
    rw [Record.query, WP.query_resolve_iff]
    cases s.resolved r.connection <;> rfl

/-- A resolver can tell any two connections apart. -/
theorem forall_uses_iff (s : Session σ) {connection : Option String} :
    (∀ s : Session σ, r.Uses connection s) ↔ r.connection = connection := by
  constructor
  · intro uses
    let resolver : Resolver := fun name => .ok ⟨if name = connection then 0 else 1, .sqlite⟩
    have query := (uses { s with resolver := some resolver }).query
    rw [Record.query, WP.query_resolve_iff] at query
    simpa [Session.resolved, resolver, Except.map, Query.on] using query
  · rintro rfl s
    exact uses_connection r s

variable (σ) in
/-- What becomes of a record by calls, in whatever sessions, and what is copied from it. Only the
choice of another connection is left out. -/
inductive Descends (r : Record m) : Record m → Prop
  | refl : Descends r r
  | performed {later : Record m} (h : Descends r later) (op : Operation) (s : Session σ) :
      Descends r (op.run ⟨later, s⟩).2.record
  | copied {later : Record m} (h : Descends r later) (except : List String) :
      Descends r (later.replicate except)
  | dated {later : Record m} (h : Descends r later) (keys : List String) :
      Descends r (later.addDates keys)
  | concealed {later : Record m} (h : Descends r later) (keys : List String) :
      Descends r (later.setHidden keys)
  | revealed {later : Record m} (h : Descends r later) (keys : List String) :
      Descends r (later.setVisible keys)

theorem Descends.connection {later : Record m} (h : Descends σ r later) :
    later.connection = r.connection := by
  induction h with
  | refl => rfl
  | performed _ op s ih =>
      obtain ⟨events, -, performed⟩ := Operation.run_of_ends (performed_ends op ⟨_, s⟩)
      exact performed.stays.1.trans ih
  | copied _ _ ih | dated _ _ ih | concealed _ _ ih | revealed _ _ ih => exact ih

/-- Let a record be loaded by a query of a record, of its type or of a named connection, refined by
any calls, or be loaded anew for another record. The query that loads it goes to the executor that
the resolver finds for the query's connection. From then on everything sent for the record, or for
copies of it, goes to the executor of that connection if the query names one, and of the connection
of the type otherwise. So the record stays with the query that loaded it, in all sessions, exactly if
the query names its connection or the type has none either. -/
theorem stays_with_query_iff (loading : Loading m) {s reached : Session σ}
    {records : List (Record m)} (loaded : loading.run s = .ok records reached) (mem : r ∈ records) :
    (∃ executor request rows, s.resolved loading.connection = .ok executor ∧
      reached.transcript = s.transcript ++ [.exchanged executor (.queried request (.ok rows))]) ∧
    (∀ later, Descends σ r later → ∀ t : Session σ,
      later.Uses (loading.connection.or m.connection) t) ∧
    ((∀ later, Descends σ r later → ∀ t : Session σ, later.Uses loading.connection t) ↔
      (loading.connection = none → m.connection = none)) := by
  obtain ⟨events, grows, answer⟩ := WP.of_ok (Loading.run_ends loading) loaded
  cases answer with
  | rowless => cases mem
  | answered found hydrated =>
      obtain ⟨row, rfl⟩ := hydrated r mem
      refine ⟨⟨_, _, _, found, grows.transcript⟩, ?_, ?_⟩
      · intro later descends t
        have uses := uses_connection later t
        rw [descends.connection] at uses
        exact uses
      · have same : (loading.connection.or m.connection = loading.connection) ↔
            (loading.connection = none → m.connection = none) := by
          cases loading.connection <;> simp
        rw [← same]
        constructor
        · intro stays
          exact (forall_uses_iff s).1 (stays _ .refl)
        · intro same later descends t
          exact (forall_uses_iff s).2 (descends.connection.trans same) t

/-- Users of whom a copy of the table is read. -/
def replicated : Model :=
  { Specimen.users with timestamps := false, connection := some "replica" }

/-- The executor of the connection that is the default. -/
def primary : Executor := ⟨0, .postgres⟩

/-- The executor of the connection of the type. -/
def replica : Executor := ⟨1, .postgres⟩

/-- A session with both, in which each query finds one user. -/
def servers : Session ScriptedPool :=
  let manager := ((Manager.ofDefault "primary").add "primary" primary).add "replica" replica
  let server := (Scripted.idle false).pushRows (.ok [Specimen.row])
  { Session.ofPool ⟨[server, server]⟩ with resolver := some manager.connection }

/-- A user that is found on a named connection stays there. -/
theorem found_user_stays : ∃ (r : Record replicated) (reached : Session ScriptedPool),
    (Loading.find (.ofName "primary") [] (.int 1)).run servers = .ok [r] reached ∧
    reached.transcript.filterMap Event.executor? = [primary] ∧
    ∀ later, Descends ScriptedPool r later → ∀ t : Session ScriptedPool,
      later.Uses (some "primary") t := by
  have loaded : (Loading.find (m := replicated) (.ofName "primary") [] (.int 1)).run servers =
    .ok _ _ := rfl
  have stays := stays_with_query_iff _ loaded (List.mem_singleton.2 rfl)
  exact ⟨_, _, rfl, rfl, stays.2.1⟩

/-- A user is given another name. -/
def givenName : Operation := .update (.ofList [("name", .text "Grace")])

/-- A user is moved to the default connection and loaded anew from there. The loaded one is written
to the connection of the type. -/
theorem reloaded_user_moves : ∃ (r : Record replicated) (reached : Session ScriptedPool),
    let moved := (Record.ofRow replicated Specimen.row none).setConnection none
    (Loading.fresh moved).run servers = .ok [r] reached ∧
    reached.transcript.filterMap Event.executor? = [primary] ∧
    (givenName.run ⟨r, reached⟩).2.session.transcript.filterMap Event.executor? =
      [primary, replica] ∧
    ¬ r.Uses none reached := by
  refine ⟨_, _, rfl, rfl, rfl, fun uses => ?_⟩
  have same : (Except.ok replica : Except Error Executor) = .ok primary := uses.query
  cases same

end Record

end LiveRecord
