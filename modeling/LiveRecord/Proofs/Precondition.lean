import LiveRecord.Query
import LiveRecord.Record.Fill

/-!
# Weakest preconditions of actions and edits

An action or an edit always ends, with a result or with a failure, and a postcondition speaks
about both endings together with the state then reached. `WP` is what must hold before, and the
rules below push it through the constructs from which operations on records are made. Rewriting
with them runs an operation symbolically:
`simp only [WP.bind_iff, WP.current_iff, WP.ofExcept_iff]` leaves the conditions of its branches.

Of a session only two kinds of events matter to what is proved about operations: readings of
clocks and exchanges with executors. `Session.transcript` is the journal without the messages
for the log. `Session.Grows` says that an operation added some events to the transcript and left
the resolver and the protection of all types as they were.
-/

namespace LiveRecord

variable {s α β : Type}

/-- What must hold for `post` to hold afterwards, whichever way the computation ends. -/
def WP (x : EStateM Error s α) (post : Except Error α → s → Prop) (state : s) : Prop :=
  match x state with
  | .ok a reached => post (.ok a) reached
  | .error e reached => post (.error e) reached

namespace WP

variable {x : EStateM Error s α} {f : α → EStateM Error s β} {state reached : s}
variable {post post' : Except Error α → s → Prop} {post₂ : Except Error β → s → Prop}

theorem mono (h : WP x post state) (imp : ∀ result reached, post result reached →
    post' result reached) : WP x post' state := by
  unfold WP at h ⊢
  split at h
  · exact imp _ _ h
  · exact imp _ _ h

theorem of_ok {a : α} (h : WP x post state) (run : x state = .ok a reached) :
    post (.ok a) reached := by
  simpa only [WP, run] using h

theorem of_error {e : Error} (h : WP x post state) (run : x state = .error e reached) :
    post (.error e) reached := by
  simpa only [WP, run] using h

/-- A computation that ends with a result is not one that ends with a failure. -/
theorem exists_ok {a : α} (h : WP x (fun result reached => result = .ok a ∧ post result reached)
    state) : ∃ reached, x state = .ok a reached ∧ post (.ok a) reached := by
  unfold WP at h
  split at h
  · next b reached run =>
    obtain ⟨hb, hp⟩ := h
    cases hb
    exact ⟨reached, run, hp⟩
  · cases h.1

@[simp] theorem get_iff {post : Except Error s → s → Prop} :
    WP get post state ↔ post (.ok state) state := Iff.rfl

@[simp] theorem set_iff {post : Except Error PUnit → s → Prop} {new : s} :
    WP (set new) post state ↔ post (.ok ⟨⟩) new := Iff.rfl

/-- A failure of the first computation is a failure of both. -/
theorem bind_iff : WP (x >>= f) post₂ state ↔
    WP x (fun result reached => match result with
      | .ok a => WP (f a) post₂ reached
      | .error e => post₂ (.error e) reached) state := by
  unfold WP
  simp only [bind, EStateM.bind]
  cases x state <;> rfl

end WP

/-- Is the event a message for the log? -/
def Event.isMessage : Event → Bool
  | .noted _ => true
  | .clockRead .. | .exchanged .. => false

namespace Session

variable {σ : Type}

/-- What was asked of clocks and executors, oldest first. -/
def transcript (s : Session σ) : List Event := s.journal.filter fun event => !event.isMessage

/-- What the installed resolver says about a connection. -/
def resolved (s : Session σ) (name : Option String) : Except Error Executor :=
  match s.resolver with
  | some resolver => resolver name
  | none => .error .resolverNotSet

/-- A type is unguarded while a scope of it is open. -/
theorem isUnguarded_openScope (s : Session σ) (path : String) :
    (s.openScope path).2.registry.isUnguarded path = true := by
  simp [openScope, Registry.openScope, Registry.isUnguarded_setUnguarded]

/-- Closing the scope leaves no trace if nothing else has changed protection meanwhile. -/
theorem isUnguarded_closeScope {s t : Session σ} {path : String}
    (kept : ∀ other, t.registry.isUnguarded other =
      (s.openScope path).2.registry.isUnguarded other) (other : String) :
    (t.closeScope ⟨path, s.registry.isUnguarded path⟩).registry.isUnguarded other =
      s.registry.isUnguarded other := by
  have inside := kept other
  simp only [openScope, Registry.openScope, Registry.isUnguarded_setUnguarded] at inside
  simp only [closeScope, Registry.closeScope, Registry.isUnguarded_setUnguarded, inside]
  split
  · next same => rw [same]
  · rfl

/-- Some events were added to the transcript, and what the outcome of a later operation depends
on besides the executors and the clocks is as it was. -/
structure Grows (s : Session σ) (events : List Event) (s' : Session σ) : Prop where
  transcript : s'.transcript = s.transcript ++ events
  resolver : s'.resolver = s.resolver
  protection : ∀ path, s'.registry.isUnguarded path = s.registry.isUnguarded path

namespace Grows

variable {s t u : Session σ} {events more : List Event}

theorem refl (s : Session σ) : s.Grows [] s := ⟨by simp, rfl, fun _ => rfl⟩

theorem trans (h : s.Grows events t) (k : t.Grows more u) : s.Grows (events ++ more) u where
  transcript := by rw [k.transcript, h.transcript, List.append_assoc]
  resolver := k.resolver.trans h.resolver
  protection path := (k.protection path).trans (h.protection path)

theorem resolved (h : s.Grows events t) (name : Option String) :
    t.resolved name = s.resolved name := by
  simp only [Session.resolved, h.resolver]

theorem of_message (s : Session σ) (message : Message) :
    s.Grows [] (s.noting (.noted message)) :=
  ⟨by simp [Session.transcript, noting, Event.isMessage], rfl, fun _ => rfl⟩

end Grows

end Session

namespace WP

open Session (Grows)

section Actions

variable {σ : Type} {m : Model} {state : Session σ}
variable {post : Except Error α → Session σ → Prop}

@[simp] theorem note_iff {message : Message} {post : Except Error Unit → Session σ → Prop} :
    WP (Action.note message) post state ↔ post (.ok ()) (state.noting (.noted message)) := Iff.rfl

@[simp] theorem resolve_iff {name : Option String}
    {post : Except Error Executor → Session σ → Prop} :
    WP (Action.resolve name) post state ↔ post (state.resolved name) state := by
  rw [Action.resolve, Session.resolved, bind_iff, get_iff]
  dsimp only
  cases state.resolver with
  | none => rfl
  | some resolver =>
      dsimp only
      cases resolver name <;> rfl

theorem readClock {state : Session σ} :
    WP (Action.readClock m) (fun result reached => ∃ now, result = .ok now ∧
      state.Grows [.clockRead m.path now] reached) state := by
  refine ⟨_, rfl, ?_, rfl, ?_⟩
  · simp [Session.transcript, Session.noting, Event.isMessage]
  · intro path
    simp only [Session.noting, Registry.countReading, Registry.isUnguarded, Registry.state_update]
    split
    · next h => rw [h]
    · rfl

/-- What is done while the protection is lifted is done in a session of its own. -/
theorem action_unguarded_iff {action : Action σ α} :
    WP (Action.unguarded m action) post state ↔
      WP action (fun result reached => post result
        (reached.closeScope ⟨m.path, state.registry.isUnguarded m.path⟩))
        (state.openScope m.path).2 := by
  unfold WP Action.unguarded bracketed
  dsimp only [Session.openScope, Registry.openScope]
  generalize action _ = run
  cases run <;> rfl

/-- An exchange is written into the transcript with the answer that it passes on. -/
theorem exchange {executor : Executor} {call : σ → Except DatabaseError α × σ}
    {describe : Except DatabaseError α → Exchange} :
    WP (Action.exchange executor call describe) (fun result reached => ∃ answer,
      result = answer.mapError .database ∧
        state.Grows [.exchanged executor (describe answer)] reached) state := by
  rw [Action.exchange]
  simp only [bind_iff, get_iff, set_iff]
  have grows : state.Grows [.exchanged executor (describe (call state.pool).1)]
      ({ state with pool := (call state.pool).2 }.noting
        (.exchanged executor (describe (call state.pool).1))) :=
    ⟨by simp [Session.transcript, Session.noting, Event.isMessage], rfl, fun _ => rfl⟩
  cases answer : (call state.pool).1 with
  | ok a =>
      rw [answer] at grows
      exact ⟨.ok a, rfl, grows⟩
  | error cause =>
      rw [answer] at grows
      exact ⟨.error cause, rfl, grows⟩

end Actions

section Edits

variable {σ : Type} {m : Model} {held : Held m σ}
variable {post : Except Error α → Held m σ → Prop}

theorem ofAction_iff {action : Action σ α} :
    WP (Edit.ofAction action) post held ↔
      WP action (fun result s => post result ⟨held.record, s⟩) held.session := by
  unfold WP Edit.ofAction
  cases action held.session <;> rfl

@[simp] theorem ofExcept_iff {x : Except Error α} :
    WP (Edit.ofExcept x) post held ↔ post x held := by
  cases x <;> rfl

@[simp] theorem current_iff {post : Except Error (Record m) → Held m σ → Prop} :
    WP Edit.current post held ↔ post (.ok held.record) held := Iff.rfl

@[simp] theorem edit_note_iff {message : Message} {post : Except Error Unit → Held m σ → Prop} :
    WP (Edit.note message) post held ↔
      post (.ok ()) ⟨held.record, held.session.noting (.noted message)⟩ := Iff.rfl

/-- A change that fails leaves the record alone. -/
theorem changeOr_iff {f : Record m → Except Error (Record m)}
    {post : Except Error Unit → Held m σ → Prop} :
    WP (Edit.changeOr f) post held ↔
      match f held.record with
      | .ok r => post (.ok ()) ⟨r, held.session⟩
      | .error e => post (.error e) held := by
  rw [Edit.changeOr]
  simp only [bind_iff, current_iff, ofExcept_iff]
  cases f held.record <;> rfl

theorem unguarded_iff {edit : Edit m σ α} :
    WP (Edit.unguarded edit) post held ↔
      WP edit (fun result reached => post result ⟨reached.record,
          reached.session.closeScope ⟨m.path, held.session.registry.isUnguarded m.path⟩⟩)
        ⟨held.record, (held.session.openScope m.path).2⟩ := by
  unfold WP Edit.unguarded bracketed
  dsimp only [Session.openScope, Registry.openScope]
  generalize edit _ = run
  cases run <;> rfl

theorem applyTo_iff {edit : Edit m σ α} {r : Record m} {state : Session σ}
    {post : Except Error (α × Record m) → Session σ → Prop} :
    WP (edit.applyTo r) post state ↔
      WP edit (fun result reached => post (result.map fun a => (a, reached.record))
        reached.session) ⟨r, state⟩ := by
  unfold WP Edit.applyTo
  cases edit ⟨r, state⟩ <;> rfl

end Edits

section Queries

variable {σ : Type} {m : Model} {q : Query m} {state : Session σ}

theorem query_resolve_iff {connection : Option String}
    {post : Except Error (Query m) → Session σ → Prop} :
    WP (Query.resolve m connection) post state ↔
      post ((state.resolved connection).map fun executor => .on m executor connection) state := by
  rw [Query.resolve]
  simp only [bind_iff, resolve_iff]
  cases state.resolved connection <;> rfl

/-- An exchange of a query, after the message that announces it. -/
theorem announced {request : Request} {x : Action σ α}
    {describe : Except DatabaseError α → Exchange}
    (spec : ∀ s : Session σ, WP x (fun result reached => ∃ answer,
      result = answer.mapError .database ∧
        s.Grows [.exchanged q.executor (describe answer)] reached) s) :
    WP (q.announce request >>= fun _ => x) (fun result reached => ∃ answer,
      result = answer.mapError .database ∧
        state.Grows [.exchanged q.executor (describe answer)] reached) state := by
  rw [Query.announce, bind_iff, note_iff]
  refine (spec _).mono ?_
  rintro result reached ⟨answer, hr, grows⟩
  exact ⟨answer, hr, (Grows.of_message state _).trans grows⟩

variable [Pool σ]

theorem query_write {statement : Sql.Statement} :
    WP (q.write statement) (fun result reached => ∃ answer,
      result = answer.mapError .database ∧ state.Grows
        [.exchanged q.executor (.executed (.statement statement) answer)] reached) state :=
  announced fun _ => exchange

theorem query_fetch {request : Request} :
    WP (q.fetch request) (fun result reached => ∃ answer,
      result = answer.mapError .database ∧ state.Grows
        [.exchanged q.executor (.queried request answer)] reached) state :=
  announced fun _ => exchange

theorem query_insertGetKey {row : Row} {key : String} :
    WP (q.insertGetKey row key) (fun result reached => ∃ answer,
      result = answer.mapError .database ∧ state.Grows
        [.exchanged q.executor (.insertedForKey
          (.statement (.insert m.table row.entries (some key))) key answer)] reached) state :=
  announced fun _ => exchange

/-- The records that a query finds are those of the answered rows. -/
theorem query_records :
    WP q.records (fun result reached => ∃ answer,
      result = (answer.mapError .database).map (fun rows =>
        rows.map fun row => Record.ofRow m row q.connection) ∧
      state.Grows [.exchanged q.executor (.queried (.statement q.selection) answer)] reached)
      state := by
  rw [Query.records, Query.rows, bind_iff]
  refine query_fetch.mono ?_
  rintro _ reached ⟨answer, rfl, grows⟩
  cases answer with
  | ok rows => exact ⟨.ok rows, rfl, grows⟩
  | error cause => exact ⟨.error cause, rfl, grows⟩

/-- The first record that a query finds is one of an answered row. -/
theorem query_first :
    WP q.first (fun result reached => ∃ answer,
      result = (answer.mapError .database).map (fun rows =>
        (rows.map fun row => Record.ofRow m row q.connection).head?) ∧
      state.Grows [.exchanged q.executor (.queried
        (.statement (q.limitTo 1).selection) answer)] reached) state := by
  rw [Query.first, bind_iff]
  refine query_records.mono ?_
  rintro _ reached ⟨answer, rfl, grows⟩
  cases answer with
  | ok rows => exact ⟨.ok rows, rfl, grows⟩
  | error cause => exact ⟨.error cause, rfl, grows⟩

end Queries

end WP

end LiveRecord
