import LiveRecord.Proofs.Adjustment
import LiveRecord.Proofs.Equality
import LiveRecord.Proofs.Filling
import LiveRecord.Proofs.OwnRow
import LiveRecord.Proofs.StorageForm

/-!
# The time of the creation

A save stamps the time of the creation while the record is not persisted, and an update sends what
is dirty. So the time of the creation is written by an insertion alone if it is never dirty in a
record that is persisted. That is the invariant `Record.Settled`: every call keeps it whose caller
leaves the column alone, also when an insertion is refused, when a deleted record is saved again,
and when a touch stamps twice.

A snapshot makes the column clean because its value equals itself: it has been stored as a date, or
it comes from a row without numbers that are no numbers.
-/

namespace LiveRecord

open Timestamps (createdAt updatedAt)

variable {m : Model} {σ : Type}

/-- Does the caller name the column? A row may name it with the table in front. -/
def Operation.Names (m : Model) (column : String) : Operation → Prop
  | .set key _ | .unset key | .syncKey key | .adjust _ key _ => key = column
  | .replace row _ | .fill row | .forceFill row | .update row =>
    ∃ key ∈ row.keys, unqualified m.table key = column
  | .sync | .saveWith _ | .touch | .delete => False

/-- Does the event leave the time of the creation alone, unless it inserts a row? -/
def Event.SparesCreation (table : String) (event : Event) : Prop :=
  event.Inserts table ∨ event.WritesOnly (· ≠ createdAt)

/-- Has an update been sent? -/
def Updates (events : List Event) : Prop :=
  ∃ executor exchange table assignments conditions, .exchanged executor exchange ∈ events ∧
    exchange.request = .statement (.update table assignments conditions)

/-- A name without a dot has no table in front. -/
theorem unqualified_of_plain {table column : String} (plain : '.' ∉ column.toList) :
    unqualified table column = column := by
  refine unqualified_eq_iff.2 (.inr ⟨rfl, fun other named => plain ?_⟩)
  rw [named]
  simp

/-- A fill writes keys that the caller names. -/
theorem Record.Accepts.names {g : Guard} {row : Row} {column : String}
    (accepts : Accepts m g row column) : ∃ key ∈ row.keys, unqualified m.table key = column := by
  have mem := accepts.1
  rw [Dict.keys_mapKeys, List.mem_eraseDups] at mem
  exact List.mem_map.1 mem

theorem Schema.InForm.isNaN {schema : Schema} {key : String} {v : Value}
    (form : schema.InForm key v) (dated : schema.isDate key = true) : v.isNaN = false := by
  cases structured : schema.isStructured key with
  | true =>
      obtain ⟨d, rfl⟩ := form.structured structured
      rfl
  | false =>
      rcases form.dated structured dated with rfl | rfl | ⟨t, rfl⟩
      · rfl
      · rfl
      · rfl

namespace Record

variable {r r₁ r' : Record m} {resolved : Except Error Executor} {stamping : Bool}
variable {result : Except Error Bool} {events : List Event} {op : Operation}

/-!
## A column that equals itself
-/

/-- Does the time of the creation equal itself, if the record holds one? -/
def CreationNumbered (r : Record m) : Prop :=
  ∀ v, r.attributes.current.get? createdAt = some v → v.isNaN = false

namespace CreationNumbered

theorem of_get? (numbered : r.CreationNumbered)
    (same : r'.attributes.current.get? createdAt = r.attributes.current.get? createdAt) :
    r'.CreationNumbered := by
  rw [CreationNumbered, same]
  exact numbered

theorem write {key : String} {v : Value} (numbered : r.CreationNumbered)
    (written : r.write key v = .ok r') : r'.CreationNumbered := by
  obtain ⟨stored, stores, rfl⟩ := eq_of_write written
  intro w held
  rw [Attributes.set_current, Dict.get?_insert] at held
  split at held
  · next same =>
    subst same
    cases held
    exact (Schema.inForm_of_toStorage stores).isNaN rfl
  · exact numbered w held

theorem of_writes {p : String → Prop} (numbered : r.CreationNumbered) (writes : Writes p r r') :
    r'.CreationNumbered := by
  induction writes with
  | refl r => exact numbered
  | step _ first _ ih => exact ih (numbered.write first)

theorem of_remove {key : String} (numbered : r.CreationNumbered)
    (removed : (r.remove key).map Prod.snd = .ok r') : r'.CreationNumbered := by
  intro v held
  rw [eq_of_remove removed, Dict.get?_erase] at held
  split at held
  · cases held
  · exact numbered v held

end CreationNumbered

/-- Whatever happens to a record, the time of the creation equals itself. -/
theorem Evolves.creationNumbered (h : Evolves resolved r r' events)
    (numbered : r.CreationNumbered) : r'.CreationNumbered := by
  induction h with
  | done => exact numbered
  | write stored _ ih => exact ih (numbered.write stored)
  | remove removed _ ih => exact ih (numbered.of_remove removed)
  | sync _ ih => exact ih numbered
  | syncKey key _ ih =>
      refine ih (numbered.of_get? ?_)
      rw [Record.syncKey, Attributes.syncKey_current]
  | stand persisted _ ih => exact ih numbered
  | readClock _ _ ih | ask _ _ _ ih => exact ih numbered

/-!
## A column that is not dirty
-/

/-- A persisted record takes the time of the creation for saved. -/
structure Settled (r : Record m) : Prop where
  clean : r.persisted = true → r.isDirty [createdAt] = false
  numbered : r.CreationNumbered

/-- A snapshot makes the column clean. -/
theorem CreationNumbered.isDirty_sync (numbered : r.CreationNumbered) :
    r.sync.isDirty [createdAt] = false := by
  rw [isDirty, sync_attributes, Attributes.isDirty_singleton, Attributes.sync_current]
  cases held : r.attributes.current.get? createdAt with
  | none => rfl
  | some v =>
      rw [Option.any_some, Attributes.differs, Attributes.sync_snapshot, held]
      simp [(Value.same_self_iff v).2 (numbered v held)]

namespace Settled

theorem of_new (new : r.persisted = false) (numbered : r.CreationNumbered) : r.Settled where
  clean old := by cases new.symm.trans old
  numbered := numbered

theorem new (m : Model) : (Record.new m).Settled := by
  refine .of_new rfl fun v held => ?_
  cases held

/-- A snapshot settles the column. -/
theorem sync (numbered : r.CreationNumbered) : r.sync.Settled where
  clean _ := numbered.isDirty_sync
  numbered := numbered

theorem ofRow {row : Row} (free : row.NaNFree) (connection : Option String) :
    (Record.ofRow m row connection).Settled := by
  have numbered : (Record.ofRow m row connection).CreationNumbered := free createdAt
  exact sync numbered

/-- What leaves the column and the standing alone keeps the column clean. -/
theorem of_isDirty (settled : r.Settled) (persisted : r'.persisted = r.persisted)
    (same : r'.isDirty [createdAt] = r.isDirty [createdAt]) (numbered : r'.CreationNumbered) :
    r'.Settled where
  clean old := same.trans (settled.clean (persisted.symm.trans old))
  numbered := numbered

theorem of_writes {p : String → Prop} (settled : r.Settled) (writes : Writes p r r')
    (spared : ¬ p createdAt) : r'.Settled :=
  settled.of_isDirty writes.persisted (writes.isDirty_eq spared)
    (settled.numbered.of_get? (writes.get?_eq spared))

/-- Stamping touches the column only as long as the record is not persisted. -/
theorem of_stamped (settled : r.Settled) (stamped : Stamped stamping r events r₁) :
    r₁.Settled := by
  have numbered := settled.numbered.of_writes stamped.writes
  cases standing : r.persisted with
  | false => exact .of_new (stamped.writes.persisted.trans standing) numbered
  | true =>
      refine settled.of_writes stamped.writes ?_
      rintro ⟨-, other | ⟨-, new⟩⟩
      · exact absurd other (by decide)
      · cases standing.symm.trans new

end Settled

theorem Saving.settled (h : Saving stamping resolved r result r' events) (settled : r.Settled) :
    r'.Settled := by
  have numbered := h.evolves.creationNumbered settled.numbered
  cases h with
  | unresolved failed => exact settled
  | unkeyed found old dirty stamped failed => exact settled.of_stamped stamped
  | updateRefused found old dirty stamped keyed => exact settled.of_stamped stamped
  | insertRefused found new stamped => exact settled.of_stamped stamped
  | keyLost found new stamped => exact settled.of_stamped stamped
  | keyRefused found new stamped => exact settled.of_stamped stamped
  | clean | updated | inserted | keyed => exact .sync numbered

theorem Touching.settled (h : Touching resolved r result r' events) (settled : r.Settled) :
    r'.Settled := by
  cases h with
  | untimed off => exact settled
  | saved on stamped saving => exact saving.settled (settled.of_stamped stamped)

theorem Updating.settled {g : Guard} {row : Row} {outcome : Except Error UpdateOutcome}
    (h : Updating g row resolved r outcome r' events) (settled : r.Settled)
    (unnamed : ¬ ∃ key ∈ row.keys, unqualified m.table key = createdAt) : r'.Settled := by
  have spared : ¬ Accepts m g row createdAt := fun accepts => unnamed accepts.names
  cases h with
  | unfilled old filled => exact settled.of_writes filled spared
  | saved old filled saving => exact saving.settled (settled.of_writes filled spared)
  | unresolved | nothing | everywhere => exact settled

theorem Deleting.settled (h : Deleting resolved r result r' events) (settled : r.Settled) :
    r'.Settled := by
  cases h with
  | unnamed | absent | unkeyed | unresolved | refused => exact settled
  | deleted => exact .of_new rfl settled.numbered

theorem Adjusting.settled {step : Step} {column : String} {amount : Value}
    {result : Except Error Nat} (h : Adjusting step column amount resolved r result r' events)
    (settled : r.Settled) (other : column ≠ createdAt) : r'.Settled := by
  have numbered := h.evolves.creationNumbered settled.numbered
  cases h with
  | unresolved | everywhere | unkeyed | unadjusted | lost | refused => exact settled
  | stored found old named keyed value stored =>
      have settled := settled.of_writes (.single rfl stored) other
      exact settled.of_isDirty rfl (isDirty_syncKey _ (Ne.symm other)) numbered

/-- A call whose caller leaves the column alone keeps it settled. -/
theorem Performed.settled (h : Performed resolved r op r' events) (settled : r.Settled)
    (kept : ¬ op.Replaces) (unnamed : ¬ op.Names m createdAt) : r'.Settled := by
  have numbered := (h.evolves kept).creationNumbered settled.numbered
  cases h with
  | unchanged => exact settled
  | set stored => exact settled.of_writes (.single rfl stored) unnamed
  | unset removed =>
      rw [eq_of_remove removed] at numbered ⊢
      refine settled.of_isDirty rfl (Attributes.isDirty_singleton_congr ?_ rfl) numbered
      rw [Dict.get?_erase, if_neg (Ne.symm unnamed)]
  | replace => exact absurd trivial kept
  | sync => exact .sync settled.numbered
  | syncKey key => exact settled.of_isDirty rfl (isDirty_syncKey r (Ne.symm unnamed)) numbered
  | fill filled => exact settled.of_writes filled fun accepts => unnamed accepts.names
  | forceFill filled => exact settled.of_writes filled fun accepts => unnamed accepts.names
  | saveWith saving => exact saving.settled settled
  | touch touching => exact touching.settled settled
  | update updating => exact updating.settled settled unnamed
  | delete deleting => exact deleting.settled settled
  | adjust adjusting => exact adjusting.settled settled unnamed

/-!
## What is written
-/

/-- A save of a settled record inserts it or leaves the column alone. -/
theorem Saving.sparesCreation (h : Saving stamping resolved r result r' events)
    (settled : r.Settled) : ∀ event ∈ events, event.SparesCreation m.table := by
  intro event mem
  cases standing : r.persisted with
  | false => exact .inl ((h.insertsRow standing).inserts event mem)
  | true =>
      refine .inr (h.writesOnly_of (fun stamped => stamped.writes.mono ?_) ?_ ?_ event mem)
      · rintro key ⟨-, rfl | ⟨-, new⟩⟩
        · decide
        · cases standing.symm.trans new
      · rintro key dirty rfl
        rw [← isDirty_singleton_iff, settled.clean standing] at dirty
        cases dirty
      · intro new
        cases standing.symm.trans new

theorem Touching.sparesCreation (h : Touching resolved r result r' events) (settled : r.Settled) :
    ∀ event ∈ events, event.SparesCreation m.table := by
  cases h with
  | untimed off => exact List.forall_mem_nil _
  | saved on stamped saving =>
      refine List.forall_mem_append.2 ⟨?_, saving.sparesCreation (settled.of_stamped stamped)⟩
      exact fun event mem => .inr (stamped.writesOnly event mem)

theorem Updating.sparesCreation {g : Guard} {row : Row} {outcome : Except Error UpdateOutcome}
    (h : Updating g row resolved r outcome r' events) (settled : r.Settled)
    (unnamed : ¬ ∃ key ∈ row.keys, unqualified m.table key = createdAt) :
    ∀ event ∈ events, event.SparesCreation m.table := by
  cases h with
  | unfilled | unresolved | nothing => exact List.forall_mem_nil _
  | saved old filled saving =>
      exact saving.sparesCreation (settled.of_writes filled fun accepts => unnamed accepts.names)
  | everywhere answer new found something =>
      refine List.forall_mem_singleton.2 (.inr ⟨_, rfl, ?_⟩)
      rw [Sql.Statement.writtenColumns_updateOf]
      rintro column mem rfl
      exact unnamed ⟨_, mem, unqualified_of_plain (by decide)⟩

theorem Deleting.sparesCreation (h : Deleting resolved r result r' events) :
    ∀ event ∈ events, event.SparesCreation m.table := by
  cases h with
  | unnamed | absent | unkeyed | unresolved => exact List.forall_mem_nil _
  | deleted => exact List.forall_mem_singleton.2 (.inr ⟨_, rfl, List.forall_mem_nil _⟩)
  | refused => exact List.forall_mem_singleton.2 (.inr ⟨_, rfl, List.forall_mem_nil _⟩)

theorem Adjusting.sparesCreation {step : Step} {column : String} {amount : Value}
    {result : Except Error Nat} (h : Adjusting step column amount resolved r result r' events)
    (other : column ≠ createdAt) : ∀ event ∈ events, event.SparesCreation m.table := by
  have spares (executor : Executor) (answer : Except DatabaseError Nat)
      (conditions : List Sql.Condition) :
      ∀ event ∈ [Event.exchanged executor (.executed
        (.statement (.update m.table [step.assignment column amount] conditions)) answer)],
        event.SparesCreation m.table := by
    refine List.forall_mem_singleton.2 (.inr ⟨_, rfl, List.forall_mem_singleton.2 ?_⟩)
    cases step with
    | increment => exact other
    | decrement => exact other
  cases h with
  | unresolved | unkeyed | unadjusted => exact List.forall_mem_nil _
  | everywhere | stored | lost | refused => exact spares _ _ _

/-- A call whose caller leaves the column alone writes it by an insertion alone. -/
theorem Performed.sparesCreation (h : Performed resolved r op r' events) (settled : r.Settled)
    (unnamed : ¬ op.Names m createdAt) : ∀ event ∈ events, event.SparesCreation m.table := by
  cases h with
  | unchanged | set | unset | replace | sync | syncKey | fill | forceFill =>
      exact List.forall_mem_nil _
  | saveWith saving => exact saving.sparesCreation settled
  | touch touching => exact touching.sparesCreation settled
  | update updating => exact updating.sparesCreation settled unnamed
  | delete deleting => exact deleting.sparesCreation
  | adjust adjusting => exact adjusting.sparesCreation unnamed

/-!
## The time of the last update
-/

/-- Has the clock been read once, and is that reading in its stored form the saved time of the last
update? -/
def Restamped (r r' : Record m) (events : List Event) : Prop :=
  ∃ now stored executor exchange,
    events = [.clockRead m.path now, .exchanged executor exchange] ∧
    r.schema.toStorage updatedAt (.dateTime now) = .ok stored ∧ r'.snapshot? updatedAt = some stored

/-- A successful save that updates the row leaves the time that it has stamped as the saved one. -/
theorem Saving.restamped {done : Bool} (h : Saving true resolved r (.ok done) r' events)
    (timed : m.timestamps = true) (clean : r.isDirty [updatedAt] = false)
    (updates : Updates events) : Restamped r r' events := by
  -- The last event is the only exchange, so an update has not been sent by an insertion.
  have inserts (new : r.persisted = false) : Restamped r r' events := by
    obtain ⟨executor, exchange, table, assignments, conditions, asked, update⟩ := updates
    obtain ⟨row, returning, insert⟩ := (h.insertsRow new).inserts _ asked
    cases update.symm.trans insert
  cases h with
  | clean found old unchanged =>
      obtain ⟨executor, exchange, table, assignments, conditions, asked, -⟩ := updates
      cases asked
  | updated found old dirty stamped keyed =>
      cases stamped with
      | skipped off => simp [timed] at off
      | stamped on now =>
          have stamps : updatedAt ∈ r.stampedColumns now :=
            mem_stampedColumns_iff.2 ⟨clean, .inl rfl⟩
          exact ⟨now, _, _, _, rfl, r.schema.toStorage_dateTime updatedAt now,
            get?_stampColumns now stamps r⟩
  | inserted found new => exact inserts new
  | keyed found new => exact inserts new

variable [Pool σ]

/-- Let a record be new, or loaded from a row without numbers that are no numbers, and let any
methods but a replacement of all attributes be called on it whose callers leave the time of the
creation alone, whatever the executors, the resolvers and the clocks do. Then only insertions have
written that column, and it is not dirty as long as the record is persisted. And a successful save
with stamps that updates the row of a record, where the time of the last update is not dirty, has
read the clock once and leaves the stored form of this reading as the saved time of the last
update. -/
theorem creation_written_once {start held : Held m σ} {events : List Event}
    (made : start.record = new m ∨
      ∃ row connection, row.NaNFree ∧ start.record = ofRow m row connection)
    (run : Reaches (fun op => ¬ op.Replaces ∧ ¬ op.Names m createdAt) start events held) :
    (∀ event ∈ events, event.Inserts m.table ∨ event.WritesOnly (· ≠ createdAt)) ∧
    (held.record.persisted = true → held.record.isDirty [createdAt] = false) ∧
    ∀ saved : Held m σ, m.timestamps = true → saved.record.isDirty [updatedAt] = false →
      (saveWith true).Ends saved fun result r' more =>
        (∃ done, result = .ok done) → Updates more → Restamped saved.record r' more := by
  have settled : start.record.Settled := by
    rcases made with made | ⟨row, connection, free, made⟩
    · rw [made]
      exact .new m
    · rw [made]
      exact .ofRow free connection
  have kept : (∀ event ∈ events, event.SparesCreation m.table) ∧ held.record.Settled := by
    refine Reaches.invariant (fun events r => (∀ event ∈ events, event.SparesCreation m.table) ∧
      r.Settled) ⟨List.forall_mem_nil _, settled⟩ ?_ run
    intro events r s op admitted kept
    refine (performed_ends op ⟨r, s⟩).mono fun _ r' more performed => ?_
    refine ⟨List.forall_mem_append.2 ⟨kept.1, ?_⟩, ?_⟩
    · exact performed.sparesCreation kept.2 admitted.2
    · exact performed.settled kept.2 admitted.1 admitted.2
  refine ⟨kept.1, kept.2.clean, fun saved timed clean => ?_⟩
  refine (saveWith_ends true saved).mono fun result r' more saving returned => ?_
  obtain ⟨done, rfl⟩ := returned
  exact saving.restamped timed clean

/-- A user is renamed and saved, deleted, and saved again. The first save is stamped. -/
theorem renamed_user_keeps_creation :
    (∃ (events : List Event) (held : Held Specimen.users ScriptedPool),
      events.countP Event.isExchange = 3 ∧ Updates events ∧
      (∀ event ∈ events, event.Inserts "users" ∨ event.WritesOnly (· ≠ createdAt)) ∧
      held.record.contains createdAt = true ∧ held.record.isDirty [createdAt] = false) ∧
    ∃ r' events, Updates events ∧ Restamped Specimen.renamed r' events := by
  have unnamed : "name" ≠ createdAt := by decide
  have run : Reaches (fun op => ¬ op.Replaces ∧ ¬ op.Names Specimen.users createdAt)
      (⟨ofRow Specimen.users Specimen.row none, Specimen.session (.idle false)⟩ :
        Held Specimen.users ScriptedPool) _ _ :=
    .step (.step (.step (.step .start (.set "name" (.text "Grace")) ⟨id, unnamed⟩ rfl)
      (.saveWith true) ⟨id, id⟩ rfl) .delete ⟨id, id⟩ rfl) (.saveWith true) ⟨id, id⟩ rfl
  have once := creation_written_once (.inr ⟨Specimen.row, none, by decide, rfl⟩) run
  refine ⟨⟨_, _, rfl, ⟨_, _, _, _, _, .tail _ (.head _), rfl⟩, once.1, rfl, once.2.1 rfl⟩, ?_⟩
  have stamped := once.2.2 ⟨Specimen.renamed, Specimen.session (.idle false)⟩ rfl rfl
  obtain ⟨events, grows, restamped⟩ := stamped.of_ok rfl
  have sent : [_, _] = events := grows.transcript
  subst sent
  refine ⟨_, _, ?updates, restamped ⟨true, rfl⟩ ?updates⟩
  exact ⟨_, _, _, _, _, .tail _ (.head _), rfl⟩

end Record

end LiveRecord
