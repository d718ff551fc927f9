import LiveRecord.Proofs.Filling
import LiveRecord.Proofs.InsertionOrder
import LiveRecord.Proofs.Performed
import LiveRecord.Proofs.Retrying
import LiveRecord.Proofs.ShownValues
import LiveRecord.Proofs.WrittenColumns

/-!
# The history of the columns of a record

The attributes of a record and their snapshot are dictionaries, and every call makes a few changes
to their histories: it stores entries in the form of their columns until one is refused, drops a key,
replaces everything, or copies what is held into the snapshot. `History.call` says which changes a
call makes, from what the call was given, how it ended, and what the clocks and the executors
answered. In all runs of calls and copies the attributes and the snapshot reflect their histories.
-/

namespace LiveRecord

open Dict (Change)

/-- What has been done to the attributes of a record and to their snapshot, oldest change first. -/
structure History where
  current : List (Change Value)
  snapshot : List (Change Value)

/-- The attributes and their snapshot hold what their histories have left. -/
structure Attributes.Reflects (a : Attributes) (h : History) : Prop where
  current : a.current.Reflects h.current
  snapshot : a.snapshot.Reflects h.snapshot

/-- A snapshot is taken, or not. -/
def Attributes.syncIf (a : Attributes) (saved : Bool) : Attributes := if saved then a.sync else a

/-- The changes that storing entries makes, one after another until a column refuses its value. -/
def Schema.puts (schema : Schema) : List (String × Value) → List (Change Value)
  | [] => []
  | (key, v) :: rest =>
    match schema.toStorage key v with
    | .ok stored => .put key stored :: schema.puts rest
    | .error _ => []

/-- Does the result of a call say that the record has been saved? -/
def Operation.saysSaved : Except Error Bool → Bool
  | .ok saved => saved
  | .error _ => false

namespace History

/-- Nothing has been done. -/
def empty : History := ⟨[], []⟩

/-- A row has been loaded. -/
def ofRow (row : Row) : History := ⟨Dict.puts row.entries, Dict.puts row.entries⟩

/-- An attribute is removed. -/
def drop (h : History) (key : String) : History := { h with current := h.current ++ [.drop key] }

/-- Entries are stored. -/
def storeAll (h : History) (schema : Schema) (entries : List (String × Value)) : History :=
  { h with current := h.current ++ schema.puts entries }

/-- A snapshot is taken: from now on it has the history of the attributes. -/
def sync (h : History) : History := { h with snapshot := h.current }

/-- A snapshot is taken, or not. -/
def syncIf (h : History) (saved : Bool) : History := if saved then h.sync else h

/-- The value last written under a key is put into the snapshot. -/
def syncKey (h : History) (key : String) : History :=
  match Dict.lastValue h.current key with
  | some v => { h with snapshot := h.snapshot ++ [.put key v] }
  | none => h

/-- All attributes are replaced by a row. -/
def replace (h : History) (row : Row) (snapshot : Bool) : History :=
  { h with current := h.current ++ (.clear :: Dict.puts row.entries) : History }.syncIf snapshot

/-- The history of a copy without some keys: it has no snapshot. -/
def copy (h : History) (except : List String) : History := ⟨h.current ++ except.map .drop, []⟩

end History

/-!
## The changes of a call
-/

/-- The key that an accepted insertion has returned, with its column. -/
def Event.generated? : Event → Option (String × Value)
  | .exchanged _ (.insertedForKey _ key (.ok id)) => some (key, id)
  | _ => none

namespace Record

variable {m : Model} {σ : Type} {r r₁ r' : Record m} {events : List Event}

/-- The record with entries stored, one after another until one is refused. -/
def storeAll (r : Record m) : List (String × Value) → Record m
  | [] => r
  | (key, v) :: rest =>
    match r.write key v with
    | .ok r₁ => r₁.storeAll rest
    | .error _ => r

/-- The entries of a row that a fill is to store. -/
def fillEntriesOf (m : Model) (g : Guard) (row : Row) : List (String × Value) :=
  g.admitted (row.mapKeys (unqualified m.table)).entries

/-- The stamps of a save that reads this time. -/
def stampsAt (r : Record m) (now : DateTime) : List (String × Value) :=
  Timestamps.stamps (!r.persisted) now fun column => r.isDirty [column]

/-- The entries that a save is to store, if these are its events: the stamps and then the generated
key. -/
def saveEntries (r : Record m) (events : List Event) : List (String × Value) :=
  (firstReading events).elim [] r.stampsAt ++ events.filterMap Event.generated?

/-- The entries that a touch is to store: its own stamps and then those of the save. -/
def touchEntries (r : Record m) : List Event → List (String × Value)
  | .clockRead _ now :: more =>
    r.stampsAt now ++ (r.storeAll (r.stampsAt now)).saveEntries more
  | _ => []

/-- The entries that an update is to store: those of the fill and then those of the save. -/
def updateEntries (r : Record m) (g : Guard) (row : Row) (events : List Event) :
    List (String × Value) :=
  fillEntriesOf m g row ++ (r.storeAll (fillEntriesOf m g row)).saveEntries events

/-- The entry that a change by an amount is to store. -/
def adjustEntries (r : Record m) (step : Step) (column : String) (amount : Value) :
    List (String × Value) :=
  match r.adjusted step column amount with
  | .ok v => [(column, v)]
  | .error _ => []

end Record

/-- The history after a call on the record `r` under the guard `g`, which has ended with the result
and the events. -/
def History.call {m : Model} (h : History) (g : Guard) (r : Record m) (op : Operation)
    (result : Except Error Bool) (events : List Event) : History :=
  match op with
  | .set key v => h.storeAll r.schema [(key, v)]
  | .unset key => if result.isOk then h.drop key else h
  | .replace row snapshot => h.replace row snapshot
  | .sync => h.sync
  | .syncKey key => h.syncKey key
  | .fill row => h.storeAll r.schema (Record.fillEntriesOf m g row)
  | .forceFill row => h.storeAll r.schema (row.mapKeys (unqualified m.table)).entries
  | .saveWith _ =>
    (h.storeAll r.schema (r.saveEntries events)).syncIf (Operation.saysSaved result)
  | .touch => (h.storeAll r.schema (r.touchEntries events)).syncIf (Operation.saysSaved result)
  | .update row =>
    if r.persisted then
      (h.storeAll r.schema (r.updateEntries g row events)).syncIf (Operation.saysSaved result)
    else h
  | .delete => h
  | .adjust step column amount =>
    if r.persisted && result.isOk then
      (h.storeAll r.schema (r.adjustEntries step column amount)).syncKey column
    else h

/-!
## Storing
-/

namespace Record

variable {m : Model} {σ : Type} {r r₁ r' : Record m} {events : List Event}
variable {entries : List (String × Value)} {result : Except Error Bool}

theorem Stores.storeAll_append (h : Stores r entries r₁) (more : List (String × Value)) :
    r.storeAll (entries ++ more) = r₁.storeAll more := by
  induction h with
  | nil r => rfl
  | cons first _ ih =>
      rw [List.cons_append, storeAll, first]
      exact ih

theorem Stores.eq_storeAll (h : Stores r entries r') : r' = r.storeAll entries := by
  have all := h.storeAll_append []
  rw [List.append_nil] at all
  exact all.symm

theorem Storing.eq_storeAll {result : Except Error Unit} (h : Storing r entries result r') :
    r' = r.storeAll entries := by
  cases h with
  | all stored => exact stored.eq_storeAll
  | refused order stored failed =>
      subst order
      rw [stored.storeAll_append, storeAll, failed]

/-- A fill stores what the guard admits, and succeeds only if it has stored all of it. -/
theorem fill_storeAll (row : Row) (held : Held m σ) :
    let entries := fillEntriesOf m (m.guardWith (held.session.registry.isUnguarded m.path)) row
    (fill row).Ends held fun result r events => events = [] ∧ r = held.record.storeAll entries ∧
      (result = .ok () → Stores held.record entries r) := by
  intro entries
  by_cases partly : (m.guardWith (held.session.registry.isUnguarded m.path)).RefusesAll →
      (row.mapKeys (unqualified m.table)).isEmpty = true
  · refine (fill_filled row held partly).mono fun result r events filled => ?_
    refine ⟨filled.silent, filled.storing.eq_storeAll, fun done => ?_⟩
    cases filled.storing with
    | all stored => exact stored
    | refused => cases done
  · rw [Classical.not_imp] at partly
    obtain ⟨refused, something⟩ := partly
    have nothing : entries = [] := List.filter_eq_nil_iff.2 fun entry _ => by
      rw [Guard.not_isFillable_of_refusesAll refused]
      exact Bool.false_ne_true
    cases columns : (row.mapKeys (unqualified m.table)).entries with
    | nil => simp [Dict.isEmpty, columns] at something
    | cons entry rest =>
        have leads : entry.1 ∈ (row.mapKeys (unqualified m.table)).keys.head? := by
          simp [Dict.keys, Entries.keys, columns]
        refine (fill_refused row held refused leads).mono ?_
        rintro result r events ⟨silent, failed, kept⟩
        rw [nothing]
        refine ⟨silent, kept, fun done => ?_⟩
        cases failed.symm.trans done

/-- Times are stored under all columns. -/
theorem stores_stamps {now : DateTime} {stamps : List (String × Value)}
    (times : ∀ stamp ∈ stamps, stamp.2 = .dateTime now) (r : Record m) :
    Stores r stamps ((stamps.map Prod.fst).foldl (stampColumn now) r) := by
  induction stamps generalizing r with
  | nil => exact .nil r
  | cons stamp rest ih =>
      obtain ⟨column, v⟩ := stamp
      obtain rfl : v = .dateTime now := times _ List.mem_cons_self
      refine .cons (write_dateTime r column now) ?_
      exact ih (fun stamp mem => times stamp (List.mem_cons_of_mem _ mem)) _

theorem stores_stampsAt (r : Record m) (now : DateTime) :
    Stores r (r.stampsAt now) (r.stampedAt now) :=
  stores_stamps (fun _ mem => (Timestamps.mem_stamps_iff.1 mem).1) r

theorem Stamped.stores {stamping : Bool} (h : Stamped stamping r events r₁) :
    Stores r (r.saveEntries events) r₁ := by
  cases h with
  | skipped off => exact .nil r
  | stamped on now =>
      have read : r.saveEntries [.clockRead m.path now] = r.stampsAt now := List.append_nil _
      rw [read]
      exact r.stores_stampsAt now

theorem saveEntries_append_exchanged (r : Record m) (events : List Event) (executor : Executor)
    (exchange : Exchange) : r.saveEntries (events ++ [.exchanged executor exchange]) =
      r.saveEntries events ++ (Event.exchanged executor exchange).generated?.toList := by
  rw [saveEntries, firstReading_append_exchanged, List.filterMap_append, ← List.append_assoc]
  rfl

/-- A save that is answered has stored the stamps, and then the generated key unless that is
refused. -/
theorem Stamped.storeAll_append {stamping : Bool} (h : Stamped stamping r events r₁)
    (executor : Executor) (exchange : Exchange) :
    r.storeAll (r.saveEntries (events ++ [.exchanged executor exchange])) =
      r₁.storeAll (Event.exchanged executor exchange).generated?.toList := by
  rw [saveEntries_append_exchanged, h.stores.storeAll_append]

theorem storeAll_singleton_of_ok {key : String} {v : Value} (stored : r.write key v = .ok r₁) :
    r.storeAll [(key, v)] = r₁ := by
  rw [storeAll, stored]
  rfl

theorem storeAll_singleton_of_error {key : String} {v : Value} {e : Error}
    (failed : r.write key v = .error e) : r.storeAll [(key, v)] = r := by
  rw [storeAll, failed]

/-- A save stores its entries, and takes a snapshot if it succeeds. -/
theorem Saving.attributes_eq {stamping : Bool} {resolved : Except Error Executor}
    (h : Saving stamping resolved r result r' events) :
    r'.attributes = (r.storeAll (r.saveEntries events)).attributes.syncIf
      (Operation.saysSaved result) := by
  cases h with
  | unresolved failed => rfl
  | clean found old clean => rfl
  | unkeyed found old dirty stamped failed =>
      rw [← stamped.stores.eq_storeAll]
      rfl
  | updated found old dirty stamped keyed | updateRefused found old dirty stamped keyed
  | inserted found new stamped plain | insertRefused found new stamped plain
  | keyRefused found new stamped generated =>
      rw [stamped.storeAll_append]
      rfl
  | keyed found new stamped generated stored =>
      rw [stamped.storeAll_append, Event.generated?, Option.toList_some,
        storeAll_singleton_of_ok stored]
      rfl
  | keyLost found new stamped generated failed =>
      rw [stamped.storeAll_append, Event.generated?, Option.toList_some,
        storeAll_singleton_of_error failed]
      rfl

theorem Touching.attributes_eq {resolved : Except Error Executor}
    (h : Touching resolved r result r' events) :
    r'.attributes = (r.storeAll (r.touchEntries events)).attributes.syncIf
      (Operation.saysSaved result) := by
  cases h with
  | untimed off => rfl
  | saved on stamped saving =>
      cases stamped with
      | skipped off =>
          rw [on] at off
          cases off
      | stamped _ now =>
          have stores := r.stores_stampsAt now
          rw [List.singleton_append, touchEntries, ← stores.eq_storeAll, stores.storeAll_append]
          exact saving.attributes_eq

/-- Does the outcome of an update say that the record has been saved? -/
def UpdateOutcome.done : UpdateOutcome → Bool
  | .saved done => done
  | .table _ => false

variable [Pool σ]

/-- An update of a persisted record stores the entries of the fill, and those of the save unless the
fill has failed. -/
theorem update_attributes (row : Row) (held : Held m σ) (old : held.record.persisted = true) :
    (update row).Ends held fun outcome r events =>
      r.attributes = (held.record.storeAll (held.record.updateEntries
        (m.guardWith (held.session.registry.isUnguarded m.path)) row events)).attributes.syncIf
        (Operation.saysSaved (outcome.map UpdateOutcome.done)) := by
  refine .current ?_
  rw [if_pos old]
  refine .bind (fill_storeAll row held) ?_ ?_
  · rintro e r events ⟨rfl, rfl, -⟩
    have all (entries : List (String × Value)) :
        entries ++ (held.record.storeAll entries).saveEntries [] = entries := List.append_nil _
    rw [updateEntries, all]
    rfl
  · rintro _ r₁ events s - ⟨rfl, -, stored⟩
    have stores := stored rfl
    refine .bind (saveWith_ends true ⟨r₁, s⟩) ?_ ?_
    · intro e r more saving
      rw [List.nil_append, updateEntries, ← stores.eq_storeAll, stores.storeAll_append]
      exact saving.attributes_eq
    · intro done r more _ _ saving
      refine .pure ?_
      rw [List.nil_append, List.append_nil, updateEntries, ← stores.eq_storeAll,
        stores.storeAll_append]
      exact saving.attributes_eq

end Record

/-!
## Reflecting a history
-/

namespace Attributes.Reflects

variable {a : Attributes} {h : History}

theorem empty : Attributes.empty.Reflects .empty := ⟨.empty, .empty⟩

theorem ofRow (row : Row) : (Attributes.empty.replace row true).Reflects (.ofRow row) := by
  have whole : row.Reflects ([] ++ Dict.puts row.entries) := by
    have made := Dict.Reflects.empty.applyAll (Dict.puts row.entries)
    rw [Dict.applyAll_puts, Dict.ofList_entries] at made
    exact made
  exact ⟨whole, whole⟩

theorem set (reflects : a.Reflects h) (key : String) (v : Value) :
    (a.set key v).Reflects { h with current := h.current ++ [.put key v] } :=
  ⟨reflects.current.concat (.put key v), reflects.snapshot⟩

theorem drop (reflects : a.Reflects h) (key : String) :
    Attributes.Reflects { a with current := a.current.erase key } (h.drop key) :=
  ⟨reflects.current.concat (.drop key), reflects.snapshot⟩

theorem sync (reflects : a.Reflects h) : a.sync.Reflects h.sync :=
  ⟨reflects.current, reflects.current⟩

theorem syncIf (reflects : a.Reflects h) (saved : Bool) :
    (a.syncIf saved).Reflects (h.syncIf saved) := by
  cases saved with
  | false => exact reflects
  | true => exact reflects.sync

theorem syncKey (reflects : a.Reflects h) (key : String) :
    (a.syncKey key).Reflects (h.syncKey key) := by
  rw [Attributes.syncKey, History.syncKey, ← reflects.current.get?_eq]
  cases a.current.get? key with
  | none => exact reflects
  | some v => exact ⟨reflects.current, reflects.snapshot.concat (.put key v)⟩

theorem replace (reflects : a.Reflects h) (row : Row) (snapshot : Bool) :
    (a.replace row snapshot).Reflects (h.replace row snapshot) := by
  have whole : row.Reflects (h.current ++ (.clear :: Dict.puts row.entries)) := by
    have made := reflects.current.applyAll (.clear :: Dict.puts row.entries)
    have cleared : a.current.applyAll (.clear :: Dict.puts row.entries) = row :=
      (Dict.applyAll_puts row.entries).trans (Dict.ofList_entries row)
    rw [cleared] at made
    exact made
  have replaced : Attributes.Reflects { a with current := row }
      { h with current := h.current ++ (.clear :: Dict.puts row.entries) } :=
    ⟨whole, reflects.snapshot⟩
  exact replaced.syncIf snapshot

end Attributes.Reflects

namespace Record

variable {m : Model} {σ : Type} {r r₁ r' : Record m} {h : History}

theorem reflects_storeAll (reflects : r.attributes.Reflects h) (entries : List (String × Value)) :
    (r.storeAll entries).attributes.Reflects (h.storeAll r.schema entries) := by
  induction entries generalizing r h with
  | nil =>
      rw [History.storeAll, Schema.puts, List.append_nil]
      exact reflects
  | cons entry rest ih =>
      obtain ⟨key, v⟩ := entry
      cases stores : r.schema.toStorage key v with
      | error e =>
          have failed : r.write key v = .error e := by
            rw [write, stores]
            rfl
          rw [storeAll, failed, History.storeAll, Schema.puts, stores, List.append_nil]
          exact reflects
      | ok stored =>
          have written : r.write key v =
              .ok { r with attributes := r.attributes.set key stored } := by
            rw [write, stores]
            rfl
          rw [storeAll, written, History.storeAll, Schema.puts, stores, List.append_cons]
          exact ih (r := { r with attributes := r.attributes.set key stored })
            (reflects.set key stored)

theorem reflects_replicate (reflects : r.attributes.Reflects h) (except : List String) :
    (r.replicate except).attributes.Reflects (h.copy except) := by
  have kept := reflects.current.applyAll (except.map .drop)
  rw [Dict.applyAll_drops] at kept
  exact ⟨kept, .empty⟩

theorem Deleting.attributes_eq {resolved : Except Error Executor} {result : Except Error Bool}
    {events : List Event} (h : Deleting resolved r result r' events) :
    r'.attributes = r.attributes := by
  cases h <;> rfl

theorem Adjusting.reflects {step : Step} {column : String} {amount : Value}
    {resolved : Except Error Executor} {result : Except Error Nat} {events : List Event}
    (adjusting : Adjusting step column amount resolved r result r' events) (g : Guard)
    (reflects : r.attributes.Reflects h) :
    r'.attributes.Reflects (h.call g r (.adjust step column amount)
      (result.map fun _ => false) events) := by
  cases adjusting with
  | unresolved | unkeyed | unadjusted | lost | refused =>
      simpa [History.call, Except.map, Except.isOk, Except.toBool] using reflects
  | everywhere answer found new => simpa [History.call, new] using reflects
  | @stored _ _ _ w _ _ found old named keyed value stored =>
      have entries : r.adjustEntries step column amount = [(column, w)] := by
        rw [adjustEntries, value]
      have kept := (reflects_storeAll reflects [(column, w)]).syncKey column
      rw [storeAll_singleton_of_ok stored, ← entries] at kept
      rw [History.call, old]
      exact kept

variable [Pool σ]

/-- The call leaves attributes that reflect their history after the call. -/
def KeepsHistory (h : History) (held : Held m σ) (op : Operation) : Prop :=
  op.perform.Ends held fun result r events =>
    r.attributes.Reflects (h.call (m.guardWith (held.session.registry.isUnguarded m.path))
      held.record op result events)

variable {held : Held m σ}

/-- A call may do the same to the history however it ends. -/
theorem keepsHistory_of_same {op : Operation} {h' : History}
    (same : ∀ result events, h.call (m.guardWith (held.session.registry.isUnguarded m.path))
      held.record op result events = h')
    (ends : op.perform.Ends held fun _ r _ => r.attributes.Reflects h') :
    KeepsHistory h held op := by
  refine ends.mono fun result r events kept => ?_
  rw [same]
  exact kept

theorem keepsHistory_update_persisted (reflects : held.record.attributes.Reflects h)
    (row : Row) (old : held.record.persisted = true) : KeepsHistory h held (.update row) := by
  refine .bind (update_attributes row held old) ?_ ?_
  · intro e r events made
    rw [History.call, if_pos old, made]
    exact (reflects_storeAll reflects _).syncIf _
  · intro outcome r events s _ made
    have kept := (reflects_storeAll reflects (held.record.updateEntries
      (m.guardWith (held.session.registry.isUnguarded m.path)) row events)).syncIf outcome.done
    cases outcome with
    | saved done | table rows =>
        refine .pure ?_
        rw [History.call, if_pos old, List.append_nil, made]
        exact kept

/-- An update of the whole table leaves the attributes alone. -/
theorem keepsHistory_update_new (reflects : held.record.attributes.Reflects h)
    (row : Row) (fresh : ¬held.record.persisted = true) : KeepsHistory h held (.update row) := by
  refine keepsHistory_of_same (fun _ _ => if_neg fresh) ?_
  refine .returning (fun outcome => ?_) ((update_ends row held).mono ?_)
  · cases outcome <;> exact ⟨_, rfl⟩
  · intro outcome r events updating
    cases updating with
    | unfilled persisted | saved persisted => exact absurd persisted fresh
    | unresolved | nothing | everywhere => exact reflects

/-- Every call changes the history as it should. -/
theorem keepsHistory (reflects : held.record.attributes.Reflects h) (op : Operation) :
    KeepsHistory h held op := by
  have stored (entries : List (String × Value)) := reflects_storeAll reflects entries
  cases op with
  | set key v =>
      refine .write (fun r written => .pure ?_) fun e failed => ?_
      · have kept := stored [(key, v)]
        rw [storeAll_singleton_of_ok written] at kept
        exact kept
      · have kept := stored [(key, v)]
        rw [storeAll_singleton_of_error failed] at kept
        exact kept
  | unset key =>
      refine .changeOr (fun r removed => .pure ?_) fun _ _ => reflects
      rw [eq_of_remove removed]
      exact reflects.drop key
  | replace row snapshot => exact .change (.pure (reflects.replace row snapshot))
  | sync => exact .change (.pure reflects.sync)
  | syncKey key => exact .change (.pure (reflects.syncKey key))
  | fill row =>
      refine keepsHistory_of_same (fun _ _ => rfl) ?_
      refine .returning (fun _ => ⟨_, rfl⟩) ((fill_storeAll row held).mono ?_)
      rintro _ r events ⟨-, rfl, -⟩
      exact stored _
  | forceFill row =>
      refine keepsHistory_of_same (fun _ _ => rfl) ?_
      refine .returning (fun _ => ⟨_, rfl⟩) ((forceFill_filled row held).mono ?_)
      intro _ r events filled
      rw [filled.storing.eq_storeAll]
      exact stored _
  | saveWith stamping =>
      refine (saveWith_ends stamping held).mono fun result r events saving => ?_
      rw [saving.attributes_eq]
      exact (stored _).syncIf _
  | touch =>
      refine (touch_ends held).mono fun result r events touching => ?_
      rw [touching.attributes_eq]
      exact (stored _).syncIf _
  | update row =>
      by_cases old : held.record.persisted = true
      · exact keepsHistory_update_persisted reflects row old
      · exact keepsHistory_update_new reflects row old
  | delete =>
      refine keepsHistory_of_same (fun _ _ => rfl) ?_
      refine .returning (fun _ => ⟨_, rfl⟩) ((delete_ends held).mono ?_)
      intro result r events deleting
      rw [deleting.attributes_eq]
      exact reflects
  | adjust step column amount =>
      refine .bind (adjust_ends step column amount held) ?_ ?_
      · exact fun e r events adjusting => adjusting.reflects _ reflects
      · intro n r events s _ adjusting
        refine .pure ?_
        rw [List.append_nil]
        exact adjusting.reflects _ reflects

/-- The record has come about from a new one or from a row by calls and copies. They have made these
changes to its attributes, and the calls have added these events to the transcript. In between
anything may happen to the session and to what the record holds besides its attributes. -/
inductive Traced : History → List Event → Held m σ → Prop
  | new (s : Session σ) : Traced .empty [] ⟨new m, s⟩
  | ofRow (row : Row) (connection : Option String) (s : Session σ) :
      Traced (.ofRow row) [] ⟨ofRow m row connection, s⟩
  | call {h : History} {events more : List Event} {held : Held m σ} (run : Traced h events held)
      (op : Operation)
      (grows : (op.run held).2.session.transcript = held.session.transcript ++ more) :
      Traced (h.call (m.guardWith (held.session.registry.isUnguarded m.path)) held.record op
        (op.run held).1 more) (events ++ more) (op.run held).2
  | copy {h : History} {events : List Event} {held : Held m σ} (run : Traced h events held)
      (except : List String) :
      Traced (h.copy except) events ⟨held.record.replicate except, held.session⟩
  | elsewhere {h : History} {events : List Event} {held : Held m σ} (run : Traced h events held)
      (r : Record m) (same : r.attributes = held.record.attributes) (s : Session σ) :
      Traced h events ⟨r, s⟩

/-- In all runs the attributes and their snapshot reflect their histories. -/
theorem Traced.reflects {events : List Event} {held : Held m σ} (run : Traced h events held) :
    held.record.attributes.Reflects h := by
  induction run with
  | new s => exact .empty
  | ofRow row connection s => exact .ofRow row
  | call run op grows ih =>
      obtain ⟨more, grows', kept⟩ := Operation.run_of_ends (keepsHistory ih op)
      obtain rfl := List.append_cancel_left (grows.symm.trans grows'.transcript)
      exact kept
  | copy run except ih => exact reflects_replicate ih except
  | elsewhere run r same s ih =>
      rw [same]
      exact ih

end Record

end LiveRecord
