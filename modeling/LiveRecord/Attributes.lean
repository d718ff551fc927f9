import LiveRecord.Error

/-!
# Attributes and their snapshot

The attributes of a record live in two rows: the current values, and the snapshot taken at the
last point where they agreed with the database. What differs between the two is dirty. Values
are compared in the form in which they are stored.
-/

namespace LiveRecord

/-- The current attributes of a record and their last snapshot. -/
structure Attributes where
  current : Row
  snapshot : Row

namespace Attributes

/-- No attribute and an empty snapshot. -/
def empty : Attributes := ⟨.empty, .empty⟩

instance : Inhabited Attributes := ⟨empty⟩

/-- The stored value of a key. -/
def get (a : Attributes) (key : String) : Except Error Value :=
  match a.current.get? key with
  | some v => .ok v
  | none => .error (.attributeNotFound key)

/-- Is there an attribute under the key? -/
def contains (a : Attributes) (key : String) : Bool := a.current.contains key

/-- Store a value; a new key goes last. -/
def set (a : Attributes) (key : String) (v : Value) : Attributes :=
  { a with current := a.current.insert key v }

/-- Remove a key and return its stored value; the other attributes keep their order. -/
def remove (a : Attributes) (key : String) : Except Error (Value × Attributes) :=
  match a.current.get? key with
  | some v => .ok (v, { a with current := a.current.erase key })
  | none => .error (.attributeNotFound key)

/-- Take a snapshot of all attributes. -/
def sync (a : Attributes) : Attributes := { a with snapshot := a.current }

/-- Copy one attribute into the snapshot; an absent key leaves the snapshot alone. -/
def syncKey (a : Attributes) (key : String) : Attributes :=
  match a.current.get? key with
  | some v => { a with snapshot := a.snapshot.insert key v }
  | none => a

/-- Replace all attributes, and take a snapshot if asked to. -/
def replace (a : Attributes) (row : Row) (clean : Bool) : Attributes :=
  let replaced := { a with current := row }
  if clean then replaced.sync else replaced

/-- Does a value differ from what the snapshot holds under the key? -/
def differs (a : Attributes) (key : String) (v : Value) : Bool :=
  match a.snapshot.get? key with
  | some old => !old.same v
  | none => true

/-- The attributes that are new or changed since the snapshot, in attribute order. -/
def dirty (a : Attributes) : Row := a.current.filter a.differs

/-- Is one of the keys dirty? Without keys, is any attribute? -/
def isDirty (a : Attributes) (keys : List String) : Bool :=
  if keys.isEmpty then !a.dirty.isEmpty else keys.any a.dirty.contains

/-- Do both hold equal attributes and equal snapshots? -/
def same (a b : Attributes) : Bool :=
  Row.same a.current b.current && Row.same a.snapshot b.snapshot

@[simp] theorem sync_current (a : Attributes) : a.sync.current = a.current := rfl

@[simp] theorem sync_snapshot (a : Attributes) : a.sync.snapshot = a.current := rfl

@[simp] theorem set_snapshot (a : Attributes) (key : String) (v : Value) :
    (a.set key v).snapshot = a.snapshot := rfl

@[simp] theorem set_current (a : Attributes) (key : String) (v : Value) :
    (a.set key v).current = a.current.insert key v := rfl

@[simp] theorem syncKey_current (a : Attributes) (key : String) :
    (a.syncKey key).current = a.current := by
  unfold syncKey
  split <;> rfl

theorem get_eq_ok_iff {a : Attributes} {key : String} {v : Value} :
    a.get key = .ok v ↔ a.current.get? key = some v := by
  rw [get]
  cases a.current.get? key <;> simp

/-- What is not dirty equals what the snapshot holds. -/
theorem dirty_or_same {a : Attributes} {key : String} {v : Value}
    (there : a.current.get? key = some v) : a.dirty.get? key = some v ∨
      a.dirty.get? key = none ∧ ∃ old, a.snapshot.get? key = some old ∧ old.same v = true := by
  rw [dirty, Dict.get?_filter, there, Option.filter_some, differs]
  cases a.snapshot.get? key with
  | none => exact .inl rfl
  | some old => cases h : old.same v <;> simp [h]

theorem dirty_isEmpty_iff {a : Attributes} :
    a.dirty.isEmpty = true ↔
      ∀ key v, a.current.get? key = some v → a.differs key v = false := by
  simp [Dict.isEmpty_iff, dirty, Dict.get?_filter, Option.filter_eq_none_iff]

theorem isDirty_singleton (a : Attributes) (key : String) :
    a.isDirty [key] = (a.current.get? key).any (a.differs key) := by
  simp only [isDirty, List.isEmpty_cons, Bool.false_eq_true, if_false, List.any_cons,
    List.any_nil, Bool.or_false, Dict.contains, dirty, Dict.get?_filter]
  cases a.current.get? key with
  | none => rfl
  | some v => cases h : a.differs key v <;> simp [Option.filter, h]

theorem isDirty_singleton_iff {a : Attributes} {key : String} :
    a.isDirty [key] = true ↔ key ∈ a.dirty.keys := by
  simp [isDirty, Dict.contains_iff]

/-- Whether a key is dirty depends on its own two values only. -/
theorem isDirty_singleton_congr {a b : Attributes} {key : String}
    (current : a.current.get? key = b.current.get? key)
    (snapshot : a.snapshot.get? key = b.snapshot.get? key) : a.isDirty [key] = b.isDirty [key] := by
  have differs : a.differs key = b.differs key := by
    funext v
    rw [Attributes.differs, Attributes.differs, snapshot]
  rw [isDirty_singleton, isDirty_singleton, current, differs]

theorem get?_snapshot_syncKey (a : Attributes) (key other : String) :
    (a.syncKey key).snapshot.get? other =
      if key = other then (a.current.get? key).or (a.snapshot.get? key)
      else a.snapshot.get? other := by
  unfold syncKey
  cases held : a.current.get? key with
  | some v => exact Dict.get?_insert a.snapshot key other v
  | none =>
    show a.snapshot.get? other = _
    by_cases same : key = other
    · rw [if_pos same, same, Option.none_or]
    · rw [if_neg same]

end Attributes

end LiveRecord
