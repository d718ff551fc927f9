import LiveRecord.Record
import LiveRecord.Session

/-!
# Edits

An edit is an action that also changes one record. Like an action it ends with a result or with
a failure, and what it changed in the record before a failure stays changed.
-/

namespace LiveRecord

/-- A record in a session. -/
structure Held (m : Model) (σ : Type) where
  record : Record m
  session : Session σ

/-- An action that changes a record. -/
abbrev Edit (m : Model) (σ : Type) : Type → Type := EStateM Error (Held m σ)

namespace Edit

variable {m : Model} {σ : Type} {α : Type}

/-- Do something that leaves the record alone. -/
def ofAction (action : Action σ α) : Edit m σ α := fun held =>
  match action held.session with
  | .ok a session => .ok a { held with session := session }
  | .error e session => .error e { held with session := session }

/-- Leave a message for the log. -/
def note (message : Message) : Edit m σ Unit := ofAction (Action.note message)

/-- End with a result or a failure. -/
def ofExcept : Except Error α → Edit m σ α
  | .ok a => pure a
  | .error e => throw e

/-- The record as it is now. -/
def current : Edit m σ (Record m) := return (← get).record

/-- Make a change that cannot fail. -/
def change (f : Record m → Record m) : Edit m σ Unit :=
  modify fun held => { held with record := f held.record }

/-- Make a change that may fail; a failure leaves the record alone. -/
def changeOr (f : Record m → Except Error (Record m)) : Edit m σ Unit := do
  let record ← ofExcept (f (← current))
  change fun _ => record

/-- Store a value under a key. -/
def write (key : String) (v : Value) : Edit m σ Unit := changeOr fun r => r.write key v

/-- Do something while the protection of the model is lifted. -/
def unguarded (edit : Edit m σ α) : Edit m σ α :=
  bracketed
    (fun held =>
      let (scope, session) := held.session.openScope m.path
      (scope, { held with session := session }))
    (fun scope held => { held with session := held.session.closeScope scope })
    edit

/-- Make an edit to a record: the result, and the record afterwards. -/
def applyTo (edit : Edit m σ α) (r : Record m) : Action σ (α × Record m) := fun session =>
  match edit ⟨r, session⟩ with
  | .ok a held => .ok (a, held.record) held.session
  | .error e held => .error e held.session

end Edit

end LiveRecord
