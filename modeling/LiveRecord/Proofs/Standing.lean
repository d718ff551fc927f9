import LiveRecord.Proofs.Performed
import LiveRecord.Proofs.Specimen
import Mathlib.Data.List.Chain

/-!
# The standing of a record

A record is persisted or it is not, and only insertions and deletions change that. A call sends one
statement at most; it inserts only a record that is not persisted and deletes only one that is; and
the record changes its standing when the executor accepts such a statement, and at no other time.
So in the life of a record accepted insertions and deletions alternate, whatever is called and
whatever is refused.

A record whose generated key is refused by the column of the key stays as it was although it has
been inserted. The primary key is therefore assumed to hold no dates.
-/

namespace LiveRecord

/-- Is the record of the request persisted once the request is accepted? Only insertions and
deletions decide that. -/
def Request.standing? : Request → Option Bool
  | .statement (.insert ..) => some true
  | .statement (.delete ..) => some false
  | _ => none

/-- Is the event an exchange with an executor? -/
def Event.isExchange : Event → Bool
  | .exchanged .. => true
  | .noted _ | .clockRead .. => false

/-- What an event says about the standing of its record, if it is an accepted insertion or
deletion. -/
def Event.standing? : Event → Option Bool
  | .exchanged _ exchange => if exchange.accepted then exchange.request.standing? else none
  | .noted _ | .clockRead .. => none

namespace Record

variable {m : Model} {σ : Type} {r r' : Record m} {events more : List Event}

/-- How the standing of a record changes in a call that adds some events. -/
structure Turns (before after : Bool) (events : List Event) : Prop where
  /-- One statement is sent at most. -/
  single : events.countP Event.isExchange ≤ 1
  /-- An insertion is sent only if the record is not persisted, a deletion only if it is. -/
  asks : ∀ executor exchange, .exchanged executor exchange ∈ events →
    ∀ standing ∈ exchange.request.standing?, standing = !before
  /-- The standing changes when an insertion or a deletion is accepted. -/
  turns : events.filterMap Event.standing? = if after = before then [] else [after]

namespace Turns

variable {before after : Bool}

theorem nil (standing : Bool) : Turns standing standing [] where
  single := Nat.zero_le 1
  asks _ _ mem := absurd mem List.not_mem_nil
  turns := by simp

theorem exchanged {executor : Executor} {exchange : Exchange}
    (asks : ∀ standing ∈ exchange.request.standing?, standing = !before)
    (turns : (Event.exchanged executor exchange).standing? =
      if after = before then none else some after) :
    Turns before after [.exchanged executor exchange] where
  single := Nat.le_refl 1
  asks _ _ mem := by
    cases List.mem_singleton.1 mem
    exact asks
  turns := by
    by_cases same : after = before
    · rw [if_pos same] at turns ⊢
      exact List.filterMap_cons_none turns
    · rw [if_neg same] at turns ⊢
      exact List.filterMap_cons_some turns

/-- A statement that neither inserts nor deletes leaves the standing as it is. -/
theorem of_neither {executor : Executor} {exchange : Exchange}
    (neither : exchange.request.standing? = none) (standing : Bool) :
    Turns standing standing [.exchanged executor exchange] :=
  exchanged (by simp [neither]) (by simp [Event.standing?, neither])

/-- A refused statement leaves the standing as it is. -/
theorem of_refused {executor : Executor} {exchange : Exchange}
    (asks : ∀ standing ∈ exchange.request.standing?, standing = !before)
    (refused : exchange.accepted = false) :
    Turns before before [.exchanged executor exchange] :=
  exchanged asks (by simp [Event.standing?, refused])

/-- An accepted insertion or deletion changes the standing. -/
theorem of_accepted {executor : Executor} {exchange : Exchange}
    (asks : exchange.request.standing? = some (!before)) (accepted : exchange.accepted = true) :
    Turns before (!before) [.exchanged executor exchange] :=
  exchanged (by simp [asks]) (by simp [Event.standing?, accepted, asks])

theorem of_stamped {stamping : Bool} (stamped : Stamped stamping r events r')
    (h : Turns before after more) : Turns before after (events ++ more) := by
  rcases stamped.eq_nil_or_clockRead with rfl | ⟨now, rfl⟩
  · exact h
  · refine ⟨h.single, fun executor exchange mem => h.asks executor exchange ?_, h.turns⟩
    simpa using mem

end Turns

/-- What the accepted insertions and deletions among some events have made of a standing: they
have alternated, and the last of them has decided. -/
structure Lived (start : Bool) (events : List Event) (now : Bool) : Prop where
  last : now = (events.filterMap Event.standing?).getLast?.getD start
  chain : (start :: events.filterMap Event.standing?).IsChain (· ≠ ·)

namespace Lived

variable {start before after : Bool}

theorem nil (start : Bool) : Lived start [] start := ⟨rfl, .singleton start⟩

theorem append (h : Lived start events before) (turns : Turns before after more) :
    Lived start (events ++ more) after := by
  have turned := turns.turns
  by_cases same : after = before
  · rw [if_pos same] at turned
    refine ⟨?_, ?_⟩ <;> rw [List.filterMap_append, turned, List.append_nil]
    · exact same.trans h.last
    · exact h.chain
  · rw [if_neg same] at turned
    refine ⟨?_, ?_⟩ <;> rw [List.filterMap_append, turned]
    · simp
    · rw [← List.cons_append]
      refine List.isChain_append.2 ⟨h.chain, .singleton after, fun last hlast head hhead => ?_⟩
      rw [List.getLast?_cons, Option.mem_some_iff, ← h.last] at hlast
      rw [List.head?_cons, Option.mem_some_iff] at hhead
      subst hlast hhead
      exact Ne.symm same

end Lived

/-- The record keeps its schema and has changed its standing as the events say. -/
structure Follows (r : Record m) (r' : Record m) (events : List Event) : Prop where
  schema : r'.schema = r.schema
  turns : Turns r.persisted r'.persisted events

namespace Follows

/-- What only changes the attributes sends nothing. -/
theorem of_silent (schema : r'.schema = r.schema) (same : r'.persisted = r.persisted) :
    Follows r r' [] := ⟨schema, same ▸ .nil _⟩

theorem of_writes {p : String → Prop} (writes : Writes p r r') : Follows r r' [] :=
  of_silent writes.schema writes.persisted

theorem of_stamped {stamping : Bool} {r₁ : Record m} (stamped : Stamped stamping r events r₁)
    (h : Follows r₁ r' more) : Follows r r' (events ++ more) where
  schema := h.schema.trans stamped.writes.schema
  turns := .of_stamped stamped (stamped.writes.persisted ▸ h.turns)

/-- Writes before a change of standing. -/
theorem of_writes_append {p : String → Prop} {r₁ : Record m} (writes : Writes p r r₁)
    (h : Follows r₁ r' events) : Follows r r' events where
  schema := h.schema.trans writes.schema
  turns := writes.persisted ▸ h.turns

end Follows

/-- Is no date stored in the primary key? -/
def KeyUndated (r : Record m) : Prop := ∀ key ∈ m.primaryKey, r.schema.isDate key = false

theorem KeyUndated.of_schema (undated : KeyUndated r) (same : r'.schema = r.schema) :
    KeyUndated r' := by
  rw [KeyUndated, same]
  exact undated

/-- A generated key that holds no date can be stored. -/
theorem KeyUndated.not_refuses (undated : KeyUndated r) {key : String}
    (generated : generatedKey? m = some key) (v : Value) : ¬ r.schema.Refuses key v := by
  rw [generatedKey?] at generated
  split at generated
  · rintro ⟨dated, -⟩
    rw [undated key generated] at dated
    cases dated
  · cases generated

theorem Saving.follows {stamping : Bool} {resolved : Except Error Executor}
    {result : Except Error Bool} (h : Saving stamping resolved r result r' events)
    (undated : KeyUndated r) : Follows r r' events := by
  cases h with
  | unresolved failed => exact .of_silent rfl rfl
  | clean found old clean => exact .of_silent rfl rfl
  | unkeyed found old dirty stamped failed =>
      rw [← List.append_nil events]
      exact .of_stamped stamped (.of_silent rfl rfl)
  | updated found old dirty stamped keyed =>
      exact .of_stamped stamped ⟨rfl, .of_neither rfl _⟩
  | updateRefused found old dirty stamped keyed =>
      exact .of_stamped stamped ⟨rfl, .of_neither rfl _⟩
  | inserted found new stamped plain =>
      have new := stamped.writes.persisted.trans new
      refine .of_stamped stamped ⟨rfl, ?_⟩
      rw [new]
      exact .of_accepted rfl rfl
  | insertRefused found new stamped plain =>
      have new := stamped.writes.persisted.trans new
      refine .of_stamped stamped ⟨rfl, ?_⟩
      rw [new]
      exact .of_refused (by rintro _ ⟨⟩; rfl) rfl
  | keyed found new stamped generated stored =>
      have new := stamped.writes.persisted.trans new
      refine .of_stamped stamped ⟨(Writes.single (p := fun _ => True) trivial stored).schema, ?_⟩
      rw [new]
      exact .of_accepted rfl rfl
  | keyLost found new stamped generated failed =>
      have undated := undated.of_schema stamped.writes.schema
      exact absurd (write_error_iff.1 ⟨_, failed⟩) (undated.not_refuses generated _)
  | keyRefused found new stamped generated =>
      have new := stamped.writes.persisted.trans new
      refine .of_stamped stamped ⟨rfl, ?_⟩
      rw [new]
      exact .of_refused (by rintro _ ⟨⟩; rfl) rfl

theorem Touching.follows {resolved : Except Error Executor} {result : Except Error Bool}
    (h : Touching resolved r result r' events) (undated : KeyUndated r) : Follows r r' events := by
  cases h with
  | untimed off => exact .of_silent rfl rfl
  | saved on stamped saving =>
      exact .of_stamped stamped (saving.follows (undated.of_schema stamped.writes.schema))

theorem Updating.follows {g : Guard} {row : Row} {resolved : Except Error Executor}
    {outcome : Except Error UpdateOutcome} (h : Updating g row resolved r outcome r' events)
    (undated : KeyUndated r) : Follows r r' events := by
  cases h with
  | unfilled old filled => exact .of_writes filled
  | saved old filled saving =>
      exact .of_writes_append filled (saving.follows (undated.of_schema filled.schema))
  | unresolved new failed => exact .of_silent rfl rfl
  | nothing new found empty => exact .of_silent rfl rfl
  | everywhere answer new found something => exact ⟨rfl, .of_neither rfl _⟩

theorem Deleting.follows {resolved : Except Error Executor} {result : Except Error Bool}
    (h : Deleting resolved r result r' events) : Follows r r' events := by
  cases h with
  | unnamed | absent | unkeyed | unresolved => exact .of_silent rfl rfl
  | deleted named old keyed found =>
      refine ⟨rfl, ?_⟩
      rw [old]
      exact .of_accepted rfl rfl
  | refused named old keyed found =>
      refine ⟨rfl, ?_⟩
      rw [old]
      exact .of_refused (by rintro _ ⟨⟩; rfl) rfl

theorem Adjusting.follows {step : Step} {column : String} {amount : Value}
    {resolved : Except Error Executor} {result : Except Error Nat}
    (h : Adjusting step column amount resolved r result r' events) : Follows r r' events := by
  cases h with
  | unresolved | unkeyed | unadjusted => exact .of_silent rfl rfl
  | everywhere answer found new => exact ⟨rfl, .of_neither rfl _⟩
  | stored found old named keyed value stored =>
      have writes := Writes.single (p := fun _ => True) trivial stored
      exact .of_writes_append writes ⟨rfl, .of_neither rfl _⟩
  | lost | refused => exact ⟨rfl, .of_neither rfl _⟩

theorem Performed.follows {op : Operation} {resolved : Except Error Executor}
    (h : Performed resolved r op r' events) (undated : KeyUndated r) : Follows r r' events := by
  cases h with
  | unchanged => exact .of_silent rfl rfl
  | set stored => exact .of_writes (Writes.single (p := fun _ => True) trivial stored)
  | unset removed =>
      rw [eq_of_remove removed]
      exact .of_silent rfl rfl
  | replace | sync | syncKey => exact .of_silent rfl rfl
  | fill filled => exact .of_writes filled
  | forceFill filled => exact .of_writes filled
  | saveWith saving => exact saving.follows undated
  | touch touching => exact touching.follows undated
  | update updating => exact updating.follows undated
  | delete deleting => exact deleting.follows
  | adjust adjusting => exact adjusting.follows

variable [Pool σ]

/-- Every call changes the standing of its record as its events say. -/
theorem follows_ends (op : Operation) (held : Held m σ) (undated : KeyUndated held.record) :
    op.perform.Ends held fun _ r events => Follows held.record r events :=
  (performed_ends op held).mono fun _ _ _ performed => performed.follows undated

/-- Let any methods be called on a record whose primary key holds no dates, in any order and
whatever the executors, the resolvers and the clocks do. Then the record is persisted if the last
accepted insertion or deletion was an insertion, or if there was none and it was persisted in the
beginning, as a record of a row is and a new one is not. Accepted insertions and deletions have
alternated, the first of them turning the standing of the beginning. The next call sends one
statement at most, an insertion only if the record is not persisted then and a deletion only if it
is. -/
theorem insertions_and_deletions_alternate {start held : Held m σ} {events : List Event}
    (undated : KeyUndated start.record) (run : Reaches (fun _ => True) start events held) :
    held.record.persisted =
      (events.filterMap Event.standing?).getLast?.getD start.record.persisted ∧
    (start.record.persisted :: events.filterMap Event.standing?).IsChain (· ≠ ·) ∧
    ∀ op : Operation, ∃ more,
      (op.run held).2.session.transcript = held.session.transcript ++ more ∧
      more.countP Event.isExchange ≤ 1 ∧
      ∀ executor exchange, .exchanged executor exchange ∈ more →
        ∀ standing ∈ exchange.request.standing?, standing = !held.record.persisted := by
  -- The schema belongs to the invariant, because a later key must hold no dates either.
  have lived : held.record.schema = start.record.schema ∧
      Lived start.record.persisted events held.record.persisted := by
    refine Reaches.invariant (fun events r => r.schema = start.record.schema ∧
      Lived start.record.persisted events r.persisted) ⟨rfl, .nil _⟩ ?_ run
    rintro events r s op - ⟨schema, lived⟩
    refine (follows_ends op _ (undated.of_schema schema)).mono fun _ r' more follows => ?_
    exact ⟨follows.schema.trans schema, lived.append follows.turns⟩
  obtain ⟨schema, now, chain⟩ := lived
  refine ⟨now, chain, fun op => ?_⟩
  obtain ⟨more, grows, follows⟩ :=
    Operation.run_of_ends (follows_ends op held (undated.of_schema schema))
  exact ⟨more, grows.transcript, follows.turns.single, follows.turns.asks⟩

/-- A record is inserted when the executor has recovered, deleted, and inserted again. -/
theorem reinserted_alternates : ∃ (events : List Event) (held : Held Specimen.users ScriptedPool),
    events.countP Event.isExchange = 4 ∧
    events.filterMap Event.standing? = [true, false, true] ∧
    held.record.persisted = true ∧
    held.record.persisted = (events.filterMap Event.standing?).getLast?.getD false ∧
    (false :: events.filterMap Event.standing?).IsChain (· ≠ ·) := by
  have undated : KeyUndated (new Specimen.users) := by
    rintro _ ⟨⟩
    decide
  have run : Reaches (fun _ => True) (⟨new Specimen.users,
      Specimen.session ((Scripted.idle false).pushKey (.error (.query "locked")))⟩ :
        Held Specimen.users ScriptedPool) _ _ :=
    .step (.step (.step (.step .start (.saveWith true) trivial rfl) (.saveWith true) trivial rfl)
      .delete trivial rfl) (.saveWith true) trivial rfl
  have alternating := insertions_and_deletions_alternate undated run
  exact ⟨_, _, rfl, rfl, rfl, alternating.1, alternating.2.1⟩

end Record

end LiveRecord
