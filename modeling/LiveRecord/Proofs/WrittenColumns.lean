import LiveRecord.Proofs.Saving

/-!
# The columns that a save writes

A save of a persisted record writes the columns that are dirty once it is stamped, and an insertion
writes all columns of the record. So every predicate that admits these columns admits what a save
writes, whatever comes of it.
-/

namespace LiveRecord

/-- Does the exchange ask for a statement that writes columns that `p` admits only? -/
def Exchange.WritesOnly (p : String → Prop) (exchange : Exchange) : Prop :=
  ∃ statement, exchange.request = .statement statement ∧
    ∀ column ∈ statement.writtenColumns, p column

/-- The event is no exchange, or one that writes admitted columns only. -/
def Event.WritesOnly (p : String → Prop) : Event → Prop
  | .exchanged _ exchange => exchange.WritesOnly p
  | .noted _ | .clockRead .. => True

@[simp] theorem Sql.Statement.writtenColumns_updateOf (table : String) (row : Row)
    (conditions : List Condition) : (updateOf table row conditions).writtenColumns = row.keys := by
  simp [updateOf, writtenColumns, Function.comp_def, Assignment.column, Dict.keys, Entries.keys]

namespace Record

variable {m : Model} {r r' : Record m} {p : String → Prop} {stamping : Bool} {events : List Event}

theorem Stamped.writesOnly (h : Stamped stamping r events r') :
    ∀ event ∈ events, event.WritesOnly p := by
  cases h with
  | skipped _ => exact List.forall_mem_nil _
  | stamped _ now =>
      intro event mem
      cases List.mem_singleton.1 mem
      trivial

/-- A save writes what was dirty, what it stamps and, for a new record, what the record holds. -/
theorem Saving.writesOnly_of {resolved : Except Error Executor} {result : Except Error Bool}
    (h : Saving stamping resolved r result r' events)
    (stamps : ∀ {events r₁}, Stamped stamping r events r₁ → Writes p r r₁)
    (dirty : ∀ key ∈ r.dirty.keys, p key)
    (live : r.persisted = false → ∀ key ∈ r.attributes.current.keys, p key) :
    ∀ event ∈ events, event.WritesOnly p := by
  have asked {r₁ : Record m} {events : List Event} {executor : Executor} {exchange : Exchange}
      (stamped : Stamped stamping r events r₁) (only : exchange.WritesOnly p) :
      ∀ event ∈ events ++ [.exchanged executor exchange], event.WritesOnly p := by
    intro event mem
    rcases List.mem_append.1 mem with mem | mem
    · exact stamped.writesOnly event mem
    · cases List.mem_singleton.1 mem
      exact only
  have changed {r₁ : Record m} {events : List Event} (stamped : Stamped stamping r events r₁)
      (key : String) (v : Value) : ∀ column ∈ (r₁.changes key v).writtenColumns, p column := by
    rw [changes, Sql.Statement.writtenColumns_updateOf]
    exact fun column mem => ((stamps stamped).admitted_or_dirty mem).elim id (dirty column)
  have held {r₁ : Record m} {events : List Event} (stamped : Stamped stamping r events r₁)
      (new : r.persisted = false) : ∀ column ∈ r₁.attributes.current.keys, p column :=
    fun column mem => ((stamps stamped).admitted_or_mem mem).elim id (live new column)
  cases h with
  | unresolved failed => exact List.forall_mem_nil _
  | clean => exact List.forall_mem_nil _
  | unkeyed found old dirty stamped failed => exact stamped.writesOnly
  | updated found old dirty stamped keyed => exact asked stamped ⟨_, rfl, changed stamped _ _⟩
  | updateRefused found old dirty stamped keyed => exact asked stamped ⟨_, rfl, changed stamped _ _⟩
  | inserted found new stamped => exact asked stamped ⟨_, rfl, held stamped new⟩
  | insertRefused found new stamped => exact asked stamped ⟨_, rfl, held stamped new⟩
  | keyed found new stamped => exact asked stamped ⟨_, rfl, held stamped new⟩
  | keyLost found new stamped => exact asked stamped ⟨_, rfl, held stamped new⟩
  | keyRefused found new stamped => exact asked stamped ⟨_, rfl, held stamped new⟩

end Record

end LiveRecord
