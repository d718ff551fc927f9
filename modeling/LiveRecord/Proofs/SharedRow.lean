import LiveRecord.Proofs.Mirroring
import Mathlib.Logic.Function.Basic

/-!
# Records of one row

Several records may be loaded from one row, each by a client that sets columns of its own and saves.
An update carries what its own client has changed and a stamp, so no client touches the columns of
another, however their calls are interleaved and whatever updates are refused. On the columns that
a client owns, the row agrees with the snapshot of its record at any time, and with the record
itself once it is saved. All other columns but that of the last update stay as they were loaded.

The invariant is `Sharing`, about one record, and `Shared`, about all of them. A client's own call
carries its record over to the row that the call leaves; for the records of the other clients only
the row has changed, in columns that they do not own.
-/

namespace LiveRecord

open Sql (Assignment Condition)
open Timestamps (updatedAt)

namespace Row

/-- What an event makes of a row that all updates of its table are about. -/
def updatedByEvent (table : String) (row : Row) : Event → Row
  | .exchanged _ (.executed (.statement (.update updated assignments _)) (.ok _)) =>
    if updated = table then assignments.foldl Assignment.apply row else row
  | _ => row

/-- What some events make of a row in a database that carries out every update that it accepts. -/
def updatedBy (table : String) (row : Row) (events : List Event) : Row :=
  events.foldl (updatedByEvent table) row

variable {table key : String} {row : Row} {events : List Event}

@[simp] theorem updatedBy_nil (table : String) (row : Row) : row.updatedBy table [] = row := rfl

@[simp] theorem updatedBy_append (table : String) (row : Row) (events more : List Event) :
    row.updatedBy table (events ++ more) = (row.updatedBy table events).updatedBy table more := by
  simp [updatedBy]

theorem Addressed.updatedByEvent_eq {event : Event} (h : row.Addressed table key event) :
    row.updatedByEvent table event = row.afterEvent table event := by
  cases event with
  | noted message => rfl
  | clockRead path reading => rfl
  | exchanged executor exchange =>
      obtain ⟨assignments, condition, v, w, answer, rfl, asks, there, agrees⟩ := h
      have meets := asks.meets_iff.2 ⟨w, there, agrees⟩
      cases answer with
      | error cause => rfl
      | ok n =>
          simp only [updatedByEvent, afterEvent, List.all_cons, List.all_nil, meets, Bool.and_true,
            and_self, if_true]

/-- Where every update is addressed to the row, the conditions make no difference. -/
theorem AllAddressed.updatedBy_eq (h : row.AllAddressed table key events) :
    row.updatedBy table events = row.after table events := by
  induction events generalizing row with
  | nil => rfl
  | cons event rest ih =>
      obtain ⟨first, others⟩ := h
      rw [← first.updatedByEvent_eq] at others
      rw [updatedBy, after, List.foldl_cons, List.foldl_cons, ← first.updatedByEvent_eq]
      exact ih others

end Row

/-- A call of a client, with its result. -/
structure ClientCall (ι : Type) where
  client : ι
  operation : Operation
  result : Except Error Bool

/-- Records can come from `start` to a state by interleaved calls that their clients may make. Each
call is made in a session of its own, where anything may have happened before. -/
inductive Interleaves {m : Model} {ι : Type} [DecidableEq ι] (admitted : ι → Operation → Prop)
    (start : ι → Record m) : List (ClientCall ι) → List Event → (ι → Record m) → Prop
  | start : Interleaves admitted start [] [] start
  | step {σ : Type} [Pool σ] {calls : List (ClientCall ι)} {events more : List Event}
      {records : ι → Record m} (run : Interleaves admitted start calls events records) (client : ι)
      (op : Operation) (ok : admitted client op) (s : Session σ)
      (grows : (op.run ⟨records client, s⟩).2.session.transcript = s.transcript ++ more) :
      Interleaves admitted start
        (calls ++ [⟨client, op, (op.run ⟨records client, s⟩).1⟩]) (events ++ more)
        (Function.update records client (op.run ⟨records client, s⟩).2.record)

/-- Does the operation save, or set one of these columns? -/
def Operation.SetsOrSaves (own : String → Prop) : Operation → Prop
  | .set column _ => own column
  | .saveWith _ => True
  | _ => False

/-- Has a client saved since it last called anything but a save? -/
def SavedLast {ι : Type} (client : ι) (calls : List (ClientCall ι)) : Prop :=
  ∃ before after stamping, calls = before ++ ⟨client, .saveWith stamping, .ok true⟩ :: after ∧
    ∀ call ∈ after, call.client = client → ∃ stamping, call.operation = .saveWith stamping

theorem SavedLast.of_append {ι : Type} {client : ι} {calls : List (ClientCall ι)}
    {call : ClientCall ι} (h : SavedLast client (calls ++ [call])) :
    (∃ stamping, call = ⟨client, .saveWith stamping, .ok true⟩) ∨
      SavedLast client calls ∧
        (call.client = client → ∃ stamping, call.operation = .saveWith stamping) := by
  obtain ⟨before, after, stamping, split, quiet⟩ := h
  rcases List.eq_nil_or_concat after with rfl | ⟨after, last, rfl⟩
  · exact .inl ⟨stamping, (List.append_inj' split rfl).2 |> List.singleton_inj.1⟩
  · rw [List.concat_eq_append, ← List.cons_append, ← List.append_assoc] at split
    obtain ⟨rfl, same⟩ := List.append_inj' split rfl
    obtain rfl := List.singleton_inj.1 same
    refine .inr ⟨⟨before, after, stamping, rfl, fun call mem => quiet call ?_⟩, quiet call ?_⟩
    · simp [mem]
    · simp

namespace Record

variable {m : Model} {own : String → Prop} {loaded stored stored' : Row} {r r' : Record m}
variable {key : String} {events more : List Event} {result : Except Error Bool}

/-- Is the column neither one of the given ones nor stamped by saves? -/
def Spared (m : Model) (own : String → Prop) (column : String) : Prop :=
  ¬ own column ∧ (m.timestamps = true → column ≠ updatedAt)

/-- The record of a client that owns some columns, while the loaded row has become another. -/
structure Sharing (own : String → Prop) (loaded stored : Row) (r : Record m) : Prop where
  persisted : r.persisted = true
  contains : ∀ column, r.attributes.snapshot.contains column = true → r.contains column = true
  owned : ∀ column, own column →
    Option.Rel Value.Agrees (r.attributes.snapshot.get? column) (stored.get? column)
  current : ∀ column, Spared m own column →
    r.attributes.current.get? column = loaded.get? column
  snapshot : ∀ column, Spared m own column →
    r.attributes.snapshot.get? column = loaded.get? column

/-- The row agrees with the live values of some columns. -/
def Live (own : String → Prop) (stored : Row) (r : Record m) : Prop :=
  ∀ column, own column →
    Option.Rel Value.Agrees (r.attributes.current.get? column) (stored.get? column)

namespace Sharing

theorem ofRow (own : String → Prop) (row : Row) (connection : Option String) :
    Sharing own row row (ofRow m row connection) where
  persisted := rfl
  contains _ there := there
  owned column _ := by
    change Option.Rel Value.Agrees (row.get? column) (row.get? column)
    cases row.get? column with
    | none => exact .none
    | some v => exact .some (.refl v)
  current _ _ := rfl
  snapshot _ _ := rfl

theorem of_writes {p : String → Prop} (h : Sharing own loaded stored r) (writes : Writes p r r')
    (admitted : ∀ column, p column → ¬ Spared m own column) : Sharing own loaded stored r' where
  persisted := writes.persisted.trans h.persisted
  contains column there := by
    rw [writes.snapshot] at there
    exact writes.contains (h.contains column there)
  owned column mine := by
    rw [writes.snapshot]
    exact h.owned column mine
  current column spared := by
    rw [writes.get?_eq fun written => admitted column written spared]
    exact h.current column spared
  snapshot column spared := by
    rw [writes.snapshot]
    exact h.snapshot column spared

/-- What others write does not matter to a client. -/
theorem of_row (h : Sharing own loaded stored r)
    (same : ∀ column, own column → stored'.get? column = stored.get? column) :
    Sharing own loaded stored' r :=
  { h with
    owned := by
      intro column mine
      rw [same column mine]
      exact h.owned column mine }

theorem sync (h : Sharing own loaded stored r) (live : Live own stored' r) :
    Sharing own loaded stored' r.sync where
  persisted := h.persisted
  contains _ there := there
  owned := live
  current := h.current
  snapshot := h.current

/-- A client has not changed what it does not own. -/
theorem dirty_eq_none (h : Sharing own loaded stored r) (free : loaded.NaNFree) {column : String}
    (spared : Spared m own column) : r.dirty.get? column = none := by
  rw [Record.dirty, Attributes.dirty, Dict.get?_filter, h.current column spared,
    Option.filter_eq_none_iff]
  intro v there
  rw [Attributes.differs, h.snapshot column spared, there]
  simp [(Value.same_self_iff v).2 (free column v there)]

/-- Once the dirty columns are set in the row, it agrees with what the client owns. -/
theorem live_of_changes (h : Sharing own loaded stored r)
    (set : ∀ column, stored'.get? column = (r.dirty.get? column).or (stored.get? column)) :
    Live own stored' r := by
  intro column mine
  have before := h.owned column mine
  rw [set, Record.dirty]
  cases there : r.attributes.current.get? column with
  | none =>
      have clean : r.attributes.dirty.get? column = none := by
        rw [Attributes.dirty, Dict.get?_filter, there, Option.filter_none]
      have unseen : r.attributes.snapshot.get? column = none := by
        by_contra seen
        have held := h.contains column (Option.isSome_iff_ne_none.2 seen)
        rw [Record.contains, Attributes.contains, Dict.contains, there] at held
        cases held
      rw [clean, Option.none_or, ← unseen]
      exact before
  | some v =>
      rcases Attributes.dirty_or_same there with dirty | ⟨clean, old, hold, same⟩
      · rw [dirty, Option.some_or]
        exact .some (.refl v)
      · rw [clean, Option.none_or]
        rw [hold] at before
        generalize stored.get? column = w at before ⊢
        cases before with
        | some agrees => exact .some ((Value.Agrees.of_same same).symm.trans agrees)

end Sharing

theorem Live.of_row (h : Live own stored r)
    (same : ∀ column, own column → stored'.get? column = stored.get? column) :
    Live own stored' r := by
  intro column mine
  rw [same column mine]
  exact h column mine

theorem Stamped.updatedBy {stamping : Bool} (h : Stamped stamping r events r') (table : String)
    (stored : Row) : stored.updatedBy table events = stored := by
  cases h <;> rfl

/-- Of a persisted record, a stamp goes into the column of the last update. -/
theorem Stamped.not_spared {stamping : Bool} (h : Stamped stamping r events r')
    (old : r.persisted = true) (own : String → Prop) :
    ∃ p, Writes p r r' ∧ ∀ column, p column → column = updatedAt ∧ ¬ Spared m own column := by
  refine ⟨_, h.writes_stampable, ?_⟩
  rintro column ⟨on, -, rfl | ⟨rfl, new⟩⟩
  · exact ⟨rfl, fun spared => spared.2 on rfl⟩
  · cases old.symm.trans new

/-- What a save makes of the record of a client and of the row. -/
structure Shares (own : String → Prop) (loaded stored stored' : Row) (r : Record m)
    (result : Except Error Bool) (r' : Record m) : Prop where
  sharing : Sharing own loaded stored' r'
  spared : ∀ column, Spared m own column → stored'.get? column = stored.get? column
  live : result = .ok true ∨ Live own stored r → Live own stored' r'

theorem Sharing.shares_of_stamped {stamping : Bool} (h : Sharing own loaded stored r)
    (unstamped : ¬ own updatedAt) (stamped : Stamped stamping r events r')
    (unsaved : result ≠ .ok true) : Shares own loaded stored stored r result r' := by
  obtain ⟨p, writes, admitted⟩ := stamped.not_spared h.persisted own
  refine ⟨h.of_writes writes fun column written => (admitted column written).2, fun _ _ => rfl, ?_⟩
  rintro (saved | live) column mine
  · exact absurd saved unsaved
  · have unwritten : ¬ p column := by
      intro written
      obtain ⟨rfl, -⟩ := admitted column written
      exact unstamped mine
    rw [writes.get?_eq unwritten]
    exact live column mine

theorem Sharing.shares_of_sync {stamping : Bool} {r₁ : Record m} (h : Sharing own loaded stored r)
    (free : loaded.NaNFree) (stamped : Stamped stamping r events r₁)
    (set : ∀ column, stored'.get? column = (r₁.dirty.get? column).or (stored.get? column)) :
    Shares own loaded stored stored' r result r₁.sync := by
  obtain ⟨p, writes, admitted⟩ := stamped.not_spared h.persisted own
  have h := h.of_writes writes fun column written => (admitted column written).2
  have live := h.live_of_changes set
  refine ⟨h.sync live, fun column spared => ?_, fun _ => live⟩
  rw [set, h.dirty_eq_none free spared, Option.none_or]

theorem Saving.shares {stamping : Bool} {resolved : Except Error Executor}
    (h : Saving stamping resolved r result r' events) (free : loaded.NaNFree)
    (unstamped : ¬ own updatedAt) (sharing : Sharing own loaded stored r) :
    Shares own loaded stored (stored.updatedBy m.table events) r result r' := by
  cases h using Saving.persistedCases sharing.persisted with
  | unresolved failed =>
      refine ⟨sharing, fun _ _ => rfl, ?_⟩
      rintro (saved | live)
      · cases saved
      · exact live
  | clean found clean =>
      refine sharing.shares_of_sync free (.skipped (Bool.false_and _)) fun column => ?_
      rw [Dict.isEmpty_iff.1 clean column, Option.none_or]
      rfl
  | unkeyed found dirty stamped failed =>
      rw [stamped.updatedBy]
      exact sharing.shares_of_stamped unstamped stamped (by simp)
  | updated found dirty stamped keyed =>
      rw [Row.updatedBy_append, stamped.updatedBy]
      refine sharing.shares_of_sync free stamped fun column => ?_
      simp only [Row.updatedBy, List.foldl_cons, List.foldl_nil, Row.updatedByEvent, changes,
        Sql.Statement.updateOf, if_true]
      exact Row.get?_foldl_set _ (Dict.nodup _) stored column
  | updateRefused found dirty stamped keyed =>
      rw [Row.updatedBy_append, stamped.updatedBy]
      exact sharing.shares_of_stamped unstamped stamped (by simp)

/-- As long as the row keeps its key, a client finds it by the key that it has loaded. -/
theorem Saving.allAddressed {stamping : Bool} {resolved : Except Error Executor} {v : Value}
    (h : Saving stamping resolved r result r' events) (named : m.primaryKey = some key)
    (sharing : Sharing own loaded stored r) (spared : Spared m own key)
    (there : loaded.get? key = some v) (kept : stored.get? key = some v) :
    stored.AllAddressed m.table key events := by
  have asked {r₁ : Record m} {events : List Event} {executor : Executor} {name : String}
      {w : Value} (answer : Except DatabaseError Nat)
      (stamped : Stamped stamping r events r₁) (keyed : r₁.updateKey = .ok (name, w)) :
      stored.AllAddressed m.table key (events ++
        [.exchanged executor (.executed (.statement (r₁.changes name w)) answer)]) := by
    have snapshot : r₁.attributes.snapshot.get? key = some v := by
      rw [stamped.writes.snapshot, sharing.snapshot key spared, there]
    cases (updateKey_of_snapshot named snapshot).symm.trans keyed
    refine (stamped.allAddressed m.table key stored).append ?_
    rw [stamped.after]
    exact ⟨⟨_, _, v, v, answer, rfl, .of_holds key v, kept, .refl v⟩, trivial⟩
  cases h using Saving.persistedCases sharing.persisted with
  | unresolved failed => trivial
  | clean found clean => trivial
  | unkeyed found dirty stamped failed => exact stamped.allAddressed m.table key stored
  | updated found dirty stamped keyed => exact asked _ stamped keyed
  | updateRefused found dirty stamped keyed => exact asked _ stamped keyed

/-- What a call of a client makes of its record and of the row. Only a save keeps the record in
agreement with the row. -/
def SharesOn (own : String → Prop) (key : String) (loaded stored : Row) (op : Operation)
    (r : Record m) (result : Except Error Bool) (r' : Record m) (events : List Event) : Prop :=
  (Spared m own key → (∃ v, loaded.get? key = some v ∧ stored.get? key = some v) →
    stored.AllAddressed m.table key events) ∧
  Sharing own loaded (stored.updatedBy m.table events) r' ∧
  (∀ column, Spared m own column →
    (stored.updatedBy m.table events).get? column = stored.get? column) ∧
  ((∃ stamping, op = .saveWith stamping) → result = .ok true ∨ Live own stored r →
    Live own (stored.updatedBy m.table events) r')

theorem sharesOn_ends {σ : Type} [Pool σ] (named : m.primaryKey = some key)
    (free : loaded.NaNFree) (unstamped : ¬ own updatedAt) {op : Operation}
    (ok : op.SetsOrSaves own) (sharing : Sharing own loaded stored r) (s : Session σ) :
    op.perform.Ends (⟨r, s⟩ : Held m σ) (SharesOn own key loaded stored op r) := by
  cases op with
  | set column v =>
      refine .write (fun r' written => .pure ?_) fun e _ => ?_
      · have writes := Writes.single (p := own) ok written
        refine ⟨fun _ _ => trivial, ?_, fun _ _ => rfl, ?_⟩
        · exact sharing.of_writes writes fun column mine spared => spared.1 mine
        · rintro ⟨_, none⟩
          cases none
      · refine ⟨fun _ _ => trivial, sharing, fun _ _ => rfl, ?_⟩
        rintro ⟨_, none⟩
        cases none
  | saveWith stamping =>
      refine (saveWith_ends stamping _).mono fun result r' events saving => ?_
      have shares := saving.shares free unstamped sharing
      refine ⟨?_, shares.sharing, shares.spared, fun _ => shares.live⟩
      rintro spared ⟨v, there, kept⟩
      exact saving.allAddressed named sharing spared there kept
  | unset | replace | sync | syncKey | fill | forceFill | touch | update | delete | adjust =>
      cases ok

variable {ι : Type} {owns : ι → String → Prop} {calls : List (ClientCall ι)}
variable {records : ι → Record m}

/-- The records of all clients of a row after some calls. -/
structure Shared (owns : ι → String → Prop) (key : String) (loaded : Row)
    (calls : List (ClientCall ι)) (events : List Event) (records : ι → Record m) : Prop where
  sharing : ∀ i, Sharing (owns i) loaded (loaded.updatedBy m.table events) (records i)
  live : ∀ i, SavedLast i calls → Live (owns i) (loaded.updatedBy m.table events) (records i)
  spared : ∀ column, (∀ i, Spared m (owns i) column) →
    (loaded.updatedBy m.table events).get? column = loaded.get? column
  addressed : (∀ i, Spared m (owns i) key) → loaded.AllAddressed m.table key events

theorem Shared.start (owns : ι → String → Prop) (key : String) (row : Row)
    (connection : ι → Option String) :
    Shared owns key row [] [] fun i => ofRow m row (connection i) where
  sharing i := .ofRow (owns i) row (connection i)
  live := by
    rintro i ⟨before, after, stamping, split, -⟩
    simp at split
  spared _ _ := rfl
  addressed _ := trivial

variable [DecidableEq ι]

/-- A call carries its own record over and leaves the columns of all others alone. -/
theorem Shared.step {client : ι} {op : Operation} (h : Shared owns key loaded calls events records)
    (there : loaded.contains key = true)
    (disjoint : ∀ i j column, owns i column → owns j column → i = j)
    (unstamped : ∀ i, ¬ owns i updatedAt)
    (call : SharesOn (owns client) key loaded (loaded.updatedBy m.table events) op
      (records client) result r' more) :
    Shared owns key loaded (calls ++ [⟨client, op, result⟩]) (events ++ more)
      (Function.update records client r') := by
  obtain ⟨addressed, sharing, spared, live⟩ := call
  rw [← Row.updatedBy_append] at sharing spared live
  -- A column of another client is spared by this one, since no column has two owners.
  have others : ∀ i, i ≠ client → ∀ column, owns i column →
      (loaded.updatedBy m.table (events ++ more)).get? column =
        (loaded.updatedBy m.table events).get? column := by
    intro i other column mine
    refine spared column ⟨fun also => other (disjoint i client column mine also), ?_⟩
    rintro - rfl
    exact unstamped i mine
  refine ⟨fun i => ?_, fun i saved => ?_, fun column free => ?_, fun free => ?_⟩
  · by_cases same : i = client
    · subst same
      rw [Function.update_self]
      exact sharing
    · rw [Function.update_of_ne same]
      exact (h.sharing i).of_row (others i same)
  · by_cases same : i = client
    · subst same
      rw [Function.update_self]
      rcases saved.of_append with ⟨stamping, call⟩ | ⟨saved, quiet⟩
      · cases call
        exact live ⟨stamping, rfl⟩ (.inl rfl)
      · exact live (quiet rfl) (.inr (h.live i saved))
    · rw [Function.update_of_ne same]
      rcases saved.of_append with ⟨stamping, call⟩ | ⟨saved, -⟩
      · cases call
        exact absurd rfl same
      · exact (h.live i saved).of_row (others i same)
  · rw [spared column (free client)]
    exact h.spared column free
  · have before := h.addressed free
    obtain ⟨v, hv⟩ := Option.isSome_iff_exists.1 there
    refine before.append ?_
    rw [← before.updatedBy_eq]
    exact addressed (free client) ⟨v, hv, (h.spared key free).trans hv⟩

/-- Let the records of some clients be loaded from one row that holds its primary key and no number
that is no number, and let each client set columns of its own and save, in any order and whatever
the executors, the resolvers and the clocks do. No two clients own the same column, and none owns
the key or the column of the last update. Let the row be what the accepted updates have made of
it.

Then the row agrees with the snapshot of each record on the columns of its client. It holds what it
held in every column that nobody owns, but for that of the last update. It agrees with the live
values of the columns of each client that has saved since it last set one, whoever has saved after
it. Unless the column of the last update is the key, all updates have been addressed to the row by
its key, so that a database that heeds their conditions has made the same of the row. -/
theorem owned_columns_kept {row : Row} {connection : ι → Option String}
    (named : m.primaryKey = some key) (there : row.contains key = true) (free : row.NaNFree)
    (disjoint : ∀ i j column, owns i column → owns j column → i = j)
    (excluded : ∀ i column, owns i column → column ≠ key ∧ column ≠ updatedAt)
    (run : Interleaves (fun i => Operation.SetsOrSaves (owns i))
      (fun i => ofRow m row (connection i)) calls events records) :
    (∀ i column, owns i column → Option.Rel Value.Agrees
      ((records i).attributes.snapshot.get? column)
      ((row.updatedBy m.table events).get? column)) ∧
    (∀ column, (∀ i, ¬ owns i column) → column ≠ updatedAt →
      (row.updatedBy m.table events).get? column = row.get? column) ∧
    (∀ i, SavedLast i calls → ∀ column, owns i column → Option.Rel Value.Agrees
      ((records i).attributes.current.get? column)
      ((row.updatedBy m.table events).get? column)) ∧
    ((m.timestamps = true → key ≠ updatedAt) → row.AllAddressed m.table key events ∧
      row.updatedBy m.table events = row.after m.table events) := by
  have unstamped : ∀ i, ¬ owns i updatedAt := fun i mine => (excluded i _ mine).2 rfl
  -- The induction is over all clients at once: the row that a call meets is the work of all.
  have shared : Shared owns key row calls events records := by
    induction run with
    | start => exact .start owns key row connection
    | step run client op ok s grows ih =>
        obtain ⟨more, grows', call⟩ := Operation.run_of_ends
          (sharesOn_ends named free (unstamped client) ok (ih.sharing client) s)
        obtain rfl := List.append_cancel_left (grows.symm.trans grows'.transcript)
        exact ih.step there disjoint unstamped call
  refine ⟨fun i => (shared.sharing i).owned, fun column unowned other => ?_, shared.live,
    fun other => ?_⟩
  · exact shared.spared column fun i => ⟨unowned i, fun _ => other⟩
  · have addressed := shared.addressed fun i => ⟨fun mine => (excluded i key mine).1 rfl, other⟩
    exact ⟨addressed, addressed.updatedBy_eq⟩

/-- Two clients change a row that both have loaded, and the first to change it saves last. -/
theorem colleagues_keep_columns :
    ∃ (events : List Event) (records : Bool → Record Specimen.users),
    (Specimen.row.updatedBy Specimen.users.table events).get? "name" = some (.text "Grace") ∧
    (Specimen.row.updatedBy Specimen.users.table events).get? "role" = some (.text "admiral") ∧
    ∀ i column, column = (if i then "role" else "name") → Option.Rel Value.Agrees
      ((records i).attributes.current.get? column)
      ((Specimen.row.updatedBy Specimen.users.table events).get? column) := by
  have disjoint : ∀ i j : Bool, ∀ column : String, (column = if i then "role" else "name") →
      (column = if j then "role" else "name") → i = j := by
    rintro (_ | _) (_ | _) column rfl <;> simp
  have excluded : ∀ i : Bool, ∀ column : String, (column = if i then "role" else "name") →
      column ≠ "id" ∧ column ≠ updatedAt := by
    rintro (_ | _) column rfl <;> decide
  have run : Interleaves
      (fun i : Bool => Operation.SetsOrSaves fun column => column = if i then "role" else "name")
      (fun _ => ofRow Specimen.users Specimen.row none) _
      ([] ++ [] ++ [] ++ [.clockRead _ _, .exchanged _ _] ++ [.exchanged _ _]) _ :=
    .step (.step (.step (.step .start
      false (.set "name" (.text "Grace")) rfl (Specimen.session (.idle false)) rfl)
      true (.set "role" (.text "admiral")) rfl (Specimen.session (.idle false)) rfl)
      true (.saveWith true) trivial (Specimen.session (.idle false)) rfl)
      false (.saveWith false) trivial (Specimen.session (.idle false)) rfl
  obtain ⟨-, -, live, -⟩ := owned_columns_kept rfl rfl (by decide) disjoint excluded run
  refine ⟨_, _, rfl, rfl, fun i => live i ?_⟩
  cases i with
  | false => exact ⟨[_, _, _], [], false, rfl, by simp⟩
  | true => exact ⟨[_, _], [_], true, rfl, by simp⟩

end Record

end LiveRecord
