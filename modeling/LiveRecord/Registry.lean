import LiveRecord.Dict

/-!
# The registry of record types

Two things are remembered of a record type for all its records: whether it has been booted, and
whether its mass-assignment protection is lifted. A scope lifts the protection of one type and,
when it is closed, puts the flag back to what the scope found. The registry also counts how
often the clock of each type was read.
-/

namespace LiveRecord

/-- What is remembered of one record type. -/
structure TypeState where
  booted : Bool
  /-- Is mass-assignment protection lifted? -/
  unguarded : Bool
  /-- How often the clock of the type was read. -/
  readings : Nat
  deriving Repr, DecidableEq

/-- The state of a type that nothing has touched. -/
def TypeState.untouched : TypeState := ⟨false, false, 0⟩

/-- The state of every record type, under the path of the type. -/
structure Registry where
  states : Dict TypeState

/-- A held lift of protection: the type, and the flag that the scope found. -/
structure Scope where
  path : String
  previous : Bool
  deriving Repr, DecidableEq

namespace Registry

/-- No type has been touched. -/
def empty : Registry := ⟨.empty⟩

instance : Inhabited Registry := ⟨empty⟩

/-- The state of a type. -/
def state (r : Registry) (path : String) : TypeState :=
  (r.states.get? path).getD .untouched

/-- Change the state of a type. -/
def update (r : Registry) (path : String) (change : TypeState → TypeState) : Registry :=
  ⟨r.states.insert path (change (r.state path))⟩

/-- Has the type been booted? -/
def isBooted (r : Registry) (path : String) : Bool := (r.state path).booted

/-- Is the protection of the type lifted? -/
def isUnguarded (r : Registry) (path : String) : Bool := (r.state path).unguarded

/-- Note that the type has been booted. -/
def markBooted (r : Registry) (path : String) : Registry :=
  r.update path fun s => { s with booted := true }

/-- Lift the protection of a type, or put it back. -/
def setUnguarded (r : Registry) (path : String) (unguarded : Bool) : Registry :=
  r.update path fun s => { s with unguarded := unguarded }

/-- Count a reading of the clock of a type. -/
def countReading (r : Registry) (path : String) : Registry :=
  r.update path fun s => { s with readings := s.readings + 1 }

/-- Lift the protection of a type for as long as the scope is held. -/
def openScope (r : Registry) (path : String) : Scope × Registry :=
  (⟨path, r.isUnguarded path⟩, r.setUnguarded path true)

/-- Put the flag back to what the scope found. -/
def closeScope (r : Registry) (scope : Scope) : Registry :=
  r.setUnguarded scope.path scope.previous

@[simp] theorem state_empty (path : String) : empty.state path = .untouched := rfl

/-- An update changes the state of one type only. -/
theorem state_update (r : Registry) (path other : String) (change : TypeState → TypeState) :
    (r.update path change).state other =
      if path = other then change (r.state path) else r.state other := by
  simp only [update, state, Dict.get?_insert]
  split <;> simp

theorem isBooted_markBooted (r : Registry) (path other : String) :
    (r.markBooted path).isBooted other = (path == other || r.isBooted other) := by
  simp only [markBooted, isBooted, state_update]
  by_cases h : path = other <;> simp [h]

@[simp] theorem isBooted_setUnguarded (r : Registry) (path other : String) (unguarded : Bool) :
    (r.setUnguarded path unguarded).isBooted other = r.isBooted other := by
  simp only [setUnguarded, isBooted, state_update]
  by_cases h : path = other <;> simp [h]

theorem isUnguarded_setUnguarded (r : Registry) (path other : String) (unguarded : Bool) :
    (r.setUnguarded path unguarded).isUnguarded other =
      if path = other then unguarded else r.isUnguarded other := by
  simp only [setUnguarded, isUnguarded, state_update]
  split <;> rfl

end Registry

end LiveRecord
