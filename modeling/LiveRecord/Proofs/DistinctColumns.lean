import LiveRecord.Proofs.ColumnHistory
import LiveRecord.Proofs.Specimen

/-!
# No column twice

A statement that a record sends names a column once at most. What is inserted are the attributes,
what is updated are dirty ones among them, or a row that the caller has given, and a change by an
amount sets one column. Nor does a column stand twice in the attributes or in their snapshot,
because these reflect their histories, in which a column has one place; and what is dirty and what
is shown are columns of the attributes in their order.
-/

namespace LiveRecord

/-- The event is no exchange, or one that asks for a statement that writes no column twice. -/
def Event.WritesOnce : Event → Prop
  | .exchanged _ exchange =>
    ∃ statement, exchange.request = .statement statement ∧ statement.writtenColumns.Nodup
  | .noted _ | .clockRead .. => True

/-- An update by a row sets each of its columns once. -/
theorem Sql.Statement.nodup_updateOf (table : String) (row : Row) (conditions : List Condition) :
    (updateOf table row conditions).writtenColumns.Nodup := by
  rw [writtenColumns_updateOf]
  exact row.nodup_keys

namespace Record

variable {m : Model} {σ : Type} {r r₁ r' : Record m} {events : List Event}
variable {resolved : Except Error Executor}

/-- An insertion names the attributes. -/
theorem nodup_insertion (r : Record m) (returning : Option String) :
    (r.insertion returning).writtenColumns.Nodup := r.attributes.current.nodup_keys

/-- Of an exchange by itself. -/
theorem writesOnce_singleton {executor : Executor} {exchange : Exchange}
    {statement : Sql.Statement} (asks : exchange.request = .statement statement)
    (once : statement.writtenColumns.Nodup) :
    ∀ event ∈ [Event.exchanged executor exchange], event.WritesOnce :=
  List.forall_mem_singleton.2 ⟨statement, asks, once⟩

/-- Stamping asks for nothing. -/
theorem Stamped.writesOnce_append {stamping : Bool} {more : List Event}
    (h : Stamped stamping r events r₁) (once : ∀ event ∈ more, event.WritesOnce) :
    ∀ event ∈ events ++ more, event.WritesOnce := by
  rcases h.eq_nil_or_clockRead with rfl | ⟨now, rfl⟩
  · exact once
  · exact List.forall_mem_cons.2 ⟨trivial, once⟩

theorem Saving.writesOnce {stamping : Bool} {result : Except Error Bool}
    (h : Saving stamping resolved r result r' events) : ∀ event ∈ events, event.WritesOnce := by
  cases h with
  | unresolved | clean => exact List.forall_mem_nil _
  | unkeyed found old dirty stamped failed =>
      rw [← List.append_nil events]
      exact stamped.writesOnce_append (List.forall_mem_nil _)
  | updated found old dirty stamped keyed | updateRefused found old dirty stamped keyed =>
      exact stamped.writesOnce_append (writesOnce_singleton rfl (Sql.Statement.nodup_updateOf ..))
  | inserted found new stamped | insertRefused found new stamped | keyed found new stamped
  | keyLost found new stamped | keyRefused found new stamped =>
      exact stamped.writesOnce_append (writesOnce_singleton rfl (nodup_insertion ..))

theorem Touching.writesOnce {result : Except Error Bool}
    (h : Touching resolved r result r' events) : ∀ event ∈ events, event.WritesOnce := by
  cases h with
  | untimed => exact List.forall_mem_nil _
  | saved on stamped saving => exact stamped.writesOnce_append saving.writesOnce

theorem Updating.writesOnce {g : Guard} {row : Row} {outcome : Except Error UpdateOutcome}
    (h : Updating g row resolved r outcome r' events) : ∀ event ∈ events, event.WritesOnce := by
  cases h with
  | unfilled | unresolved | nothing => exact List.forall_mem_nil _
  | saved old filled saving => exact saving.writesOnce
  | everywhere => exact writesOnce_singleton rfl (Sql.Statement.nodup_updateOf ..)

theorem Deleting.writesOnce {result : Except Error Bool}
    (h : Deleting resolved r result r' events) : ∀ event ∈ events, event.WritesOnce := by
  cases h with
  | unnamed | absent | unkeyed | unresolved => exact List.forall_mem_nil _
  | deleted | refused => exact writesOnce_singleton rfl List.nodup_nil

theorem Adjusting.writesOnce {step : Step} {column : String} {amount : Value}
    {result : Except Error Nat} (h : Adjusting step column amount resolved r result r' events) :
    ∀ event ∈ events, event.WritesOnce := by
  cases h with
  | unresolved | unkeyed | unadjusted => exact List.forall_mem_nil _
  | everywhere | stored | lost | refused =>
      exact writesOnce_singleton rfl (List.nodup_singleton _)

theorem Performed.writesOnce {op : Operation} (h : Performed resolved r op r' events) :
    ∀ event ∈ events, event.WritesOnce := by
  cases h with
  | saveWith saving => exact saving.writesOnce
  | touch touching => exact touching.writesOnce
  | update updating => exact updating.writesOnce
  | delete deleting => exact deleting.writesOnce
  | adjust adjusting => exact adjusting.writesOnce
  | unchanged | set | unset | replace | sync | syncKey | fill | forceFill =>
      exact List.forall_mem_nil _

/-- What is dirty are attributes in their order. -/
theorem keys_dirty_sublist (r : Record m) : r.dirty.keys.Sublist r.attributes.current.keys :=
  List.filter_sublist.map Prod.fst

/-- What is shown are attributes in their order. -/
theorem keys_toRow_sublist {row : Row} (shown : r.toRow = .ok row) :
    row.keys.Sublist r.attributes.current.keys := by
  rw [Projection.keys_of_apply shown]
  exact List.filter_sublist

variable [Pool σ] {h : History} {held : Held m σ}

/-- In all runs no statement writes a column twice. -/
theorem Traced.writesOnce (run : Traced h events held) : ∀ event ∈ events, event.WritesOnce := by
  induction run with
  | new | ofRow => exact List.forall_mem_nil _
  | call run op grows ih =>
      obtain ⟨_, grows', performed⟩ := Operation.run_of_ends (performed_ends (σ := σ) op _)
      obtain rfl := List.append_cancel_left (grows.symm.trans grows'.transcript)
      exact List.forall_mem_append.2 ⟨ih, performed.writesOnce⟩
  | copy run except ih => exact ih
  | elsewhere run r same s ih => exact ih

/-- Let a record come about from a new one or from a row by any calls and copies, whatever the
executors, the resolvers and the clocks do. A look-up in its attributes, or in their snapshot, finds
the value last written under the key, unless the key has been dropped since, and the keys stand in
the order in which they were added: a key that is written again while it is held keeps its place,
and one that is added again goes last. So no key stands twice in the attributes or in the snapshot,
nor in what is dirty or shown, which are columns of the attributes in their order. All that has been
sent are statements that write no column twice. -/
theorem columns_named_once (run : Traced h events held) :
    held.record.attributes.current.Reflects h.current ∧
    held.record.attributes.snapshot.Reflects h.snapshot ∧
    held.record.attributes.current.keys.Nodup ∧
    held.record.attributes.snapshot.keys.Nodup ∧
    held.record.dirty.keys.Nodup ∧
    held.record.dirty.keys.Sublist held.record.attributes.current.keys ∧
    (∀ row, held.record.toRow = .ok row →
      row.keys.Nodup ∧ row.keys.Sublist held.record.attributes.current.keys) ∧
    ∀ executor exchange, .exchanged executor exchange ∈ events →
      ∃ statement, exchange.request = .statement statement ∧ statement.writtenColumns.Nodup := by
  obtain ⟨current, snapshot⟩ := run.reflects
  have dirty := held.record.keys_dirty_sublist
  refine ⟨current, snapshot, current.nodup, snapshot.nodup, dirty.nodup current.nodup, dirty,
    ?_, ?_⟩
  · intro row shown
    have sub := keys_toRow_sublist shown
    exact ⟨sub.nodup current.nodup, sub⟩
  · intro executor exchange asked
    exact run.writesOnce _ asked

/-- The name of a user is set, removed and set again before the user is saved. It then stands after
the address, and the insertion names both, and the timestamps, once. -/
theorem readded_name_goes_last :
    ∃ (h : History) (events : List Event) (held : Held Specimen.users ScriptedPool),
      Traced h events held ∧
      held.record.attributes.current.keys = ["email", "name", "updated_at", "created_at", "id"] ∧
      Dict.AddedBefore h.current "email" "name" ∧
      held.record.attributes.current.get? "name" = Dict.lastValue h.current "name" ∧
      Dict.lastValue h.current "name" = some (.text "Ada") ∧
      ∃ executor exchange, .exchanged executor exchange ∈ events ∧
        ∃ statement, exchange.request = .statement statement ∧ statement.writtenColumns.Nodup ∧
          statement.writtenColumns = ["email", "name", "updated_at", "created_at"] := by
  have start : Traced .empty [] (⟨new Specimen.users, Specimen.session (.idle false)⟩ :
      Held Specimen.users ScriptedPool) := .new _
  have named := start.call (.set "name" (.text "Grace")) rfl
  have addressed := named.call (.set "email" (.text "ada@example.org")) rfl
  have unnamed := addressed.call (.unset "name") rfl
  have run := (unnamed.call (.set "name" (.text "Ada")) rfl).call (.saveWith true) rfl
  obtain ⟨current, -, -, -, -, -, -, once⟩ := columns_named_once run
  obtain ⟨statement, asks, distinct⟩ := once _ _ (List.mem_cons_of_mem _ List.mem_cons_self)
  refine ⟨_, _, _, run, rfl, ?_, current.get?_eq "name", ?_, _, _,
    List.mem_cons_of_mem _ List.mem_cons_self, statement, asks, distinct, ?_⟩
  · have order : ["email", "name", "updated_at", "created_at", "id"].Pairwise _ := current.order
    exact List.rel_of_pairwise_cons order List.mem_cons_self
  · rfl
  · cases asks
    rfl

end Record

end LiveRecord
