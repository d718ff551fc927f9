import LiveRecord.Proofs.Standing

/-!
# Statements about the record's own row

A persisted record stands for one row. Every statement that a call sends for it looks for that row
by the primary key alone: the update of a save by the value that the key had at the last snapshot,
all other statements by the value that the record holds now. Where there is no such value, nothing
is sent at all, so no call on a persisted record reaches the other rows of the table.
-/

namespace LiveRecord

open Sql (Statement)
open Timestamps (updatedAt)

/-- Does the event, if it is an exchange, ask for the row with the key, by one condition? Without a
key it may not ask for anything. -/
def Event.Finds (address : Option (String × Value)) : Event → Prop
  | .exchanged _ exchange => ∃ key v statement condition, address = some (key, v) ∧
      exchange.request = .statement statement ∧ statement.conditions = [condition] ∧
      condition.AsksFor key v
  | .noted _ | .clockRead .. => True

/-- Is the event, if it is an exchange, the insertion of a row? -/
def Event.Inserts (table : String) : Event → Prop
  | .exchanged _ exchange => ∃ row returning,
      exchange.request = .statement (.insert table row returning)
  | .noted _ | .clockRead .. => True

/-- All that is asked for is the row with the key. -/
structure FindsRow (address : Option (String × Value)) (events : List Event) : Prop where
  finds : ∀ event ∈ events, event.Finds address
  /-- Without a key nothing is sent. -/
  silent : address = none → events.countP Event.isExchange = 0

/-- All that is asked for is one insertion. -/
structure InsertsRow (table : String) (events : List Event) : Prop where
  inserts : ∀ event ∈ events, event.Inserts table
  single : events.countP Event.isExchange ≤ 1

/-- The primary key with its value, if the type has one and there is a value. -/
def Model.address (m : Model) (value? : String → Option Value) : Option (String × Value) :=
  m.primaryKey.bind fun key => (value? key).map fun v => (key, v)

theorem Model.address_eq_some {m : Model} {value? : String → Option Value} {key : String}
    {v : Value} (named : m.primaryKey = some key) (held : value? key = some v) :
    m.address value? = some (key, v) := by
  rw [address, named, Option.bind_some, held, Option.map_some]

namespace Record

variable {m : Model} {σ : Type}

/-- The address of the row by the value of the key that the record holds. -/
def liveAddress (r : Record m) : Option (String × Value) := m.address r.attributes.current.get?

/-- The address of the row by the value of the key in the snapshot, or else by the value that is
held when the record is sent. -/
def savedAddress (r sent : Record m) : Option (String × Value) :=
  m.address fun key => (r.snapshot? key).or (sent.attributes.current.get? key)

end Record

/-- The address that a call on the record `before` uses if it leaves the record `after`. A save
changes no attribute once it has sent the record. -/
def Operation.address {m : Model} (op : Operation) (before after : Record m) :
    Option (String × Value) :=
  match op with
  | .delete | .adjust .. => before.liveAddress
  | _ => before.savedAddress after

namespace FindsRow

variable {m : Model} {address : Option (String × Value)} {events : List Event}

theorem nil (address : Option (String × Value)) : FindsRow address [] where
  finds := List.forall_mem_nil _
  silent _ := rfl

theorem exchanged {executor : Executor} {exchange : Exchange} {statement : Statement} {key : String}
    {v : Value} (there : address = some (key, v)) (asked : exchange.request = .statement statement)
    (alone : statement.conditions = [.holds key v]) :
    FindsRow address [.exchanged executor exchange] where
  finds event mem := by
    cases List.mem_singleton.1 mem
    exact ⟨key, v, statement, _, there, asked, alone, .of_holds key v⟩
  silent none := by
    rw [there] at none
    cases none

theorem of_stamped {stamping : Bool} {r r₁ : Record m} {stamps : List Event}
    (stamped : Record.Stamped stamping r stamps r₁) (h : FindsRow address events) :
    FindsRow address (stamps ++ events) := by
  rcases stamped.eq_nil_or_clockRead with rfl | ⟨now, rfl⟩
  · exact h
  · exact ⟨List.forall_mem_cons.2 ⟨trivial, h.finds⟩, h.silent⟩

end FindsRow

namespace InsertsRow

variable {m : Model} {table : String} {events : List Event}

theorem nil (table : String) : InsertsRow table [] where
  inserts := List.forall_mem_nil _
  single := Nat.zero_le 1

theorem exchanged {executor : Executor} {exchange : Exchange} {row : List (String × Value)}
    {returning : Option String}
    (asked : exchange.request = .statement (.insert table row returning)) :
    InsertsRow table [.exchanged executor exchange] where
  inserts event mem := by
    cases List.mem_singleton.1 mem
    exact ⟨row, returning, asked⟩
  single := Nat.le_refl 1

theorem of_stamped {stamping : Bool} {r r₁ : Record m} {stamps : List Event}
    (stamped : Record.Stamped stamping r stamps r₁) (h : InsertsRow table events) :
    InsertsRow table (stamps ++ events) := by
  rcases stamped.eq_nil_or_clockRead with rfl | ⟨now, rfl⟩
  · exact h
  · exact ⟨List.forall_mem_cons.2 ⟨trivial, h.inserts⟩, h.single⟩

end InsertsRow

namespace Record

variable {m : Model} {σ : Type} {r r₁ r' : Record m} {resolved : Except Error Executor}
variable {stamping : Bool} {result : Except Error Bool} {events : List Event} {key : String}

/-- The address of a record that holds its key. -/
theorem liveAddress_of_get {v : Value} (named : keyName m = .ok key)
    (keyed : r.attributes.get key = .ok v) : r.liveAddress = some (key, v) := by
  exact Model.address_eq_some (keyName_eq_ok_iff.1 named) (Attributes.get_eq_ok_iff.1 keyed)

/-- The address by which an update of a record finds the row. -/
theorem savedAddress_of_updateKey {v : Value} (keyed : r.updateKey = .ok (key, v)) :
    r.savedAddress r = some (key, v) := by
  obtain ⟨declared, held⟩ := updateKey_eq_ok_iff.1 keyed
  exact Model.address_eq_some declared held

/-- Only the snapshot of the one record and the attributes of the other matter. -/
theorem savedAddress_congr {sent sent' : Record m}
    (snapshot : r.attributes.snapshot = r₁.attributes.snapshot)
    (current : sent.attributes.current = sent'.attributes.current) :
    r.savedAddress sent = r₁.savedAddress sent' := by
  simp only [savedAddress, snapshot?, snapshot, current]

/-- A save of a persisted record finds the row by the snapshot. -/
theorem Saving.findsRow (h : Saving stamping resolved r result r' events)
    (old : r.persisted = true) : FindsRow (r.savedAddress r') events := by
  have updates {r₁ r' : Record m} {events : List Event} {key : String} {v : Value}
      {executor : Executor} {answer : Except DatabaseError Nat}
      (stamped : Stamped stamping r events r₁) (keyed : r₁.updateKey = .ok (key, v))
      (current : r'.attributes.current = r₁.attributes.current) :
      FindsRow (r.savedAddress r')
        (events ++ [.exchanged executor (.executed (.statement (r₁.changes key v)) answer)]) := by
    refine .of_stamped stamped (.exchanged ?_ rfl rfl)
    rw [savedAddress_congr stamped.writes.snapshot.symm current]
    exact savedAddress_of_updateKey keyed
  cases h using Saving.persistedCases old with
  | unresolved failed => exact .nil _
  | clean found unchanged => exact .nil _
  | unkeyed found dirty stamped failed =>
      rw [← List.append_nil events]
      exact .of_stamped stamped (.nil _)
  | updated found dirty stamped keyed => exact updates stamped keyed rfl
  | updateRefused found dirty stamped keyed => exact updates stamped keyed rfl

/-- A save of a record that is not persisted finds no executor, or it asks for the insertion of the
record, once it is stamped. If it fails then, the stamps stay. -/
theorem Saving.attempt_of_new (h : Saving stamping resolved r result r' events)
    (new : r.persisted = false) : (events = [] ∧ r' = r ∧ ∃ e, resolved = .error e) ∨
      ∃ executor exchange r₁ stamps, resolved = .ok executor ∧ Stamped stamping r stamps r₁ ∧
        events = stamps ++ [.exchanged executor exchange] ∧
        exchange.request = .statement (r₁.insertion (generatedKey? m)) ∧
        ∀ e, result = .error e → r' = r₁ := by
  cases h with
  | unresolved failed => exact .inl ⟨rfl, rfl, _, failed⟩
  | inserted found _ stamped plain | keyed found _ stamped plain =>
      refine .inr ⟨_, _, _, _, found, stamped, rfl, ?_, nofun⟩
      rw [plain]
      rfl
  | insertRefused found _ stamped plain | keyLost found _ stamped plain
  | keyRefused found _ stamped plain =>
      refine .inr ⟨_, _, _, _, found, stamped, rfl, ?_, fun _ _ => rfl⟩
      rw [plain]
      rfl
  | clean _ old | unkeyed _ old | updated _ old | updateRefused _ old => cases new.symm.trans old

/-- A save of a record that is not persisted asks for its insertion, once it is stamped, or for
nothing. -/
theorem Saving.asks_of_new (h : Saving stamping resolved r result r' events)
    (new : r.persisted = false) : events = [] ∨
      ∃ executor exchange r₁ stamps returning, resolved = .ok executor ∧
        Stamped stamping r stamps r₁ ∧ events = stamps ++ [.exchanged executor exchange] ∧
        exchange.request = .statement (r₁.insertion returning) := by
  rcases h.attempt_of_new new with ⟨silent, -, -⟩ | ⟨_, _, _, _, found, stamped, sent, request, -⟩
  · exact .inl silent
  · exact .inr ⟨_, _, _, _, _, found, stamped, sent, request⟩

theorem Saving.insertsRow (h : Saving stamping resolved r result r' events)
    (new : r.persisted = false) : InsertsRow m.table events := by
  rcases h.asks_of_new new with rfl | ⟨_, _, _, _, _, -, stamped, rfl, request⟩
  · exact .nil _
  · exact .of_stamped stamped (.exchanged request)

theorem Touching.findsRow (h : Touching resolved r result r' events) (old : r.persisted = true) :
    FindsRow (r.savedAddress r') events := by
  cases h with
  | untimed off => exact .nil _
  | saved on stamped saving =>
      refine .of_stamped stamped ?_
      rw [savedAddress_congr stamped.writes.snapshot.symm rfl]
      exact saving.findsRow (stamped.writes.persisted.trans old)

theorem Updating.findsRow {g : Guard} {row : Row} {outcome : Except Error UpdateOutcome}
    (h : Updating g row resolved r outcome r' events) (old : r.persisted = true) :
    FindsRow (r.savedAddress r') events := by
  rcases h.of_persisted old with ⟨e, -, rfl, -⟩ | ⟨result, r₁, -, filled, saving⟩
  · exact .nil _
  · rw [savedAddress_congr filled.snapshot.symm rfl]
    exact saving.findsRow (filled.persisted.trans old)

theorem Deleting.findsRow (h : Deleting resolved r result r' events) :
    FindsRow r.liveAddress events := by
  cases h with
  | unnamed | absent | unkeyed | unresolved => exact .nil _
  | deleted named old keyed found => exact .exchanged (liveAddress_of_get named keyed) rfl rfl
  | refused named old keyed found => exact .exchanged (liveAddress_of_get named keyed) rfl rfl

theorem Adjusting.findsRow {step : Step} {column : String} {amount : Value}
    {result : Except Error Nat} (h : Adjusting step column amount resolved r result r' events)
    (old : r.persisted = true) : FindsRow r.liveAddress events := by
  cases h with
  | unresolved | unkeyed | unadjusted => exact .nil _
  | everywhere answer found new => cases old.symm.trans new
  | stored found _ named keyed => exact .exchanged (liveAddress_of_get named keyed) rfl rfl
  | lost found _ named keyed => exact .exchanged (liveAddress_of_get named keyed) rfl rfl
  | refused found _ named keyed => exact .exchanged (liveAddress_of_get named keyed) rfl rfl

theorem Performed.findsRow {op : Operation} (h : Performed resolved r op r' events)
    (old : r.persisted = true) : FindsRow (op.address r r') events := by
  cases h with
  | unchanged | set | unset | replace | sync | syncKey | fill | forceFill => exact .nil _
  | saveWith saving => exact saving.findsRow old
  | touch touching => exact touching.findsRow old
  | update updating => exact updating.findsRow old
  | delete deleting => exact deleting.findsRow
  | adjust adjusting => exact adjusting.findsRow old

/-- A deletion of a record that is not persisted asks nothing. -/
theorem Deleting.eq_nil (h : Deleting resolved r result r' events) (new : r.persisted = false) :
    events = [] := by
  cases h with
  | unnamed | absent | unkeyed | unresolved => rfl
  | deleted _ old => cases new.symm.trans old
  | refused _ old => cases new.symm.trans old

/-- A save of a persisted record changes no other attribute than the time of the change. -/
theorem Saving.get?_current (h : Saving stamping resolved r result r' events)
    (old : r.persisted = true) (other : key ≠ updatedAt) :
    r'.attributes.current.get? key = r.attributes.current.get? key := by
  have unstamped : ¬ r.Stampable key := by
    rintro ⟨-, stamp | ⟨-, new⟩⟩
    · exact other stamp
    · cases old.symm.trans new
  cases h using Saving.persistedCases old with
  | unresolved failed => rfl
  | clean found unchanged => rfl
  | unkeyed found dirty stamped failed => exact stamped.writes.get?_eq unstamped
  | updated found dirty stamped keyed => exact stamped.writes.get?_eq unstamped
  | updateRefused found dirty stamped keyed => exact stamped.writes.get?_eq unstamped

variable [Pool σ]

/-- A fresh copy of a record is looked for by the key that the record holds, and only if the record
is persisted. -/
theorem fresh_findsRow (r : Record m) (s : Session σ) :
    r.fresh.Ends s fun _ events =>
      FindsRow r.liveAddress events ∧ (r.persisted = false → events = []) := by
  rw [fresh]
  split
  · next old =>
    have vacuous {events : List Event} : r.persisted = false → events = [] := by
      intro new
      cases old.symm.trans new
    refine .ofExcept (fun key named => .ofExcept (fun v keyed => ?_) fun e _ => ?_) fun e _ => ?_
    · refine .query (fun executor found => WP.query_first.mono ?_) fun e _ => ⟨.nil _, vacuous⟩
      rintro result reached ⟨answer, -, grows⟩
      exact ⟨_, grows, .exchanged (liveAddress_of_get named keyed) rfl rfl, vacuous⟩
    · exact ⟨.nil _, vacuous⟩
    · exact ⟨.nil _, vacuous⟩
  · exact .pure ⟨.nil _, fun _ => rfl⟩

/-- A call on a persisted record asks for the row of the record alone, whatever the record holds and
whatever has become of it before: the only condition is that the primary key is the value in the
snapshot for the update of a save, or else the value that is sent, and the value that the record
holds for a deletion, a change by an amount and a fresh copy. Nothing is sent if the type has no
primary key or there is no such value. A save sends the key that the record held before the call
unless it stamps that column. Of a record that is not persisted a deletion and a fresh copy ask
nothing, and a save asks for one insertion. -/
theorem persisted_finds_own_row (held : Held m σ) :
    (held.record.persisted = true →
      (∀ op : Operation, op.perform.Ends held fun _ r' events =>
        FindsRow (op.address held.record r') events) ∧
      (held.record.fresh.Ends held.session fun _ events =>
        FindsRow held.record.liveAddress events) ∧
      ∀ stamping, (saveWith stamping).Ends held fun _ r' _ => ∀ key, key ≠ updatedAt →
        r'.attributes.current.get? key = held.record.attributes.current.get? key) ∧
    (held.record.persisted = false →
      (delete.Ends held fun _ _ events => events = []) ∧
      (held.record.fresh.Ends held.session fun _ events => events = []) ∧
      ∀ stamping, (saveWith stamping).Ends held fun _ _ events => InsertsRow m.table events) := by
  constructor
  · intro old
    refine ⟨fun op => ?_, ?_, fun stamping => ?_⟩
    · exact (performed_ends op held).mono fun _ r' events performed => performed.findsRow old
    · exact (fresh_findsRow held.record held.session).mono fun _ events fresh => fresh.1
    · refine (saveWith_ends stamping held).mono ?_
      intro _ r' events saving key other
      exact saving.get?_current old other
  · intro new
    refine ⟨?_, ?_, fun stamping => ?_⟩
    · exact (delete_ends held).mono fun _ r' events deleting => deleting.eq_nil new
    · exact (fresh_findsRow held.record held.session).mono fun _ events fresh => fresh.2 new
    · exact (saveWith_ends stamping held).mono fun _ r' events saving => saving.insertsRow new

/-- The update of a loaded user is addressed by the stored key, and a new user is inserted. -/
theorem renamed_finds_own_row :
    (∃ events, events.countP Event.isExchange = 1 ∧ FindsRow (some ("id", .int 1)) events ∧
      ∃ executor assignments answer, .exchanged executor (.executed (.statement
        (.update "users" assignments [.equals "id" (.int 1)])) answer) ∈ events) ∧
    ∃ events, events.countP Event.isExchange = 1 ∧ InsertsRow "users" events := by
  let s : Session ScriptedPool := Specimen.session (.idle false)
  let loaded : Held Specimen.users ScriptedPool := ⟨Specimen.renamed, s⟩
  let made : Held Specimen.users ScriptedPool := ⟨new Specimen.users, s⟩
  have updated := ((persisted_finds_own_row loaded).1 rfl).1 (.saveWith true)
  have inserted : (Operation.saveWith true).perform.Ends made fun _ _ events =>
      InsertsRow "users" events := ((persisted_finds_own_row made).2 rfl).2.2 true
  obtain ⟨events, grows, finds⟩ := Operation.run_of_ends updated
  obtain ⟨more, grows', inserts⟩ := Operation.run_of_ends inserted
  obtain rfl : _ = events := grows.transcript
  obtain rfl : _ = more := grows'.transcript
  exact ⟨⟨_, rfl, finds, _, _, _, List.mem_cons_of_mem _ List.mem_cons_self⟩, _, rfl, inserts⟩

end Record

end LiveRecord
