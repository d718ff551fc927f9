import LiveRecord.Connection
import LiveRecord.Journal
import LiveRecord.Model
import LiveRecord.Registry.Boot

/-!
# Sessions

A session is everything outside a record that its operations read and change: the executors,
the installed resolver, the registry of record types, and the journal. An action ends with a
result or with a failure, and what it changed before a failure stays changed. Each primitive
action below appends what it did to the journal.
-/

namespace LiveRecord

/-- What the operations on records have in common. -/
structure Session (σ : Type) where
  pool : σ
  /-- What finds the executors of connections, once it is installed. -/
  resolver : Option Resolver
  registry : Registry
  /-- What has happened, oldest first. -/
  journal : List Event

/-- An action in a session. -/
abbrev Action (σ : Type) : Type → Type := EStateM Error (Session σ)

/-- A computation on a state of which a part is opened before and closed after it, also when it
fails. -/
def bracketed {s c α : Type} (enter : s → c × s) (leave : c → s → s) (x : EStateM Error s α) :
    EStateM Error s α := fun state =>
  let (held, entered) := enter state
  match x entered with
  | .ok a reached => .ok a (leave held reached)
  | .error e reached => .error e (leave held reached)

namespace Session

variable {σ : Type}

/-- A session in which nothing has happened. -/
def ofPool (pool : σ) : Session σ := ⟨pool, none, .empty, []⟩

/-- Add an event to the journal. -/
def noting (s : Session σ) (event : Event) : Session σ :=
  { s with journal := s.journal ++ [event] }

/-- Lift the protection of a type. -/
def openScope (path : String) (s : Session σ) : Scope × Session σ :=
  let (scope, registry) := s.registry.openScope path
  (scope, { s with registry := registry })

/-- Put the protection of a type back to what the scope found. -/
def closeScope (scope : Scope) (s : Session σ) : Session σ :=
  { s with registry := s.registry.closeScope scope }

end Session

namespace Action

variable {σ : Type}

/-- Leave a message for the log. -/
def note (message : Message) : Action σ Unit :=
  modify (·.noting (.noted message))

/-- End with a result or a failure. -/
def ofExcept {α : Type} : Except Error α → Action σ α
  | .ok a => pure a
  | .error e => throw e

/-- Read the clock of a type; each reading is the next one. -/
def readClock (m : Model) : Action σ DateTime := do
  let s ← get
  let reading := m.clock (s.registry.state m.path).readings
  set ({ s with registry := s.registry.countReading m.path }.noting (.clockRead m.path reading))
  return reading

/-- The mass-assignment rules of a type at this moment. -/
def guardOf (m : Model) : Action σ Guard := do
  return m.guardWith ((← get).registry.isUnguarded m.path)

/-- Do something while the protection of a type is lifted. -/
def unguarded {α : Type} (m : Model) (action : Action σ α) : Action σ α :=
  bracketed (Session.openScope m.path) Session.closeScope action

/-- Name an executor in a manager. -/
def register (manager : Manager) (name : String) (executor : Executor) : Action σ Manager := do
  note (.registering name)
  return manager.add name executor

/-- Install a resolver, or remove the installed one. -/
def install (resolver : Option Resolver) : Action σ Unit :=
  modify fun s => { s with resolver := resolver }

/-- Find the executor of a connection, or of the default connection. -/
def resolve (name : Option String) : Action σ Executor := do
  match (← get).resolver with
  | some resolver => ofExcept (resolver name)
  | none => throw .resolverNotSet

/-- Boot a type unless it has been booted: did this call start its hook, and what happened? -/
def boot (hooks : Hooks) (path : String) : Action σ (Bool × List HookEvent) := do
  let booted := (← get).registry.boot hooks path
  modify fun s => { s with registry := booted.registry }
  for event in booted.events do
    if let .started started := event then
      note (.booting started)
  return (booted.first, booted.events)

/-- Let the pool do something, write the exchange down, and pass its answer on. -/
def exchange {α : Type} (executor : Executor) (call : σ → Except DatabaseError α × σ)
    (describe : Except DatabaseError α → Exchange) : Action σ α := do
  let s ← get
  let (answer, pool) := call s.pool
  set ({ s with pool := pool }.noting (.exchanged executor (describe answer)))
  match answer with
  | .ok a => return a
  | .error cause => throw (.database cause)

variable [Pool σ]

/-- Run a request and count the affected rows. -/
def execute (executor : Executor) (request : Request) : Action σ Nat :=
  exchange executor (Pool.execute executor request) (.executed request)

/-- Run a request and return its rows. -/
def queryAll (executor : Executor) (request : Request) : Action σ (List Row) :=
  exchange executor (Pool.queryAll executor request) (.queried request)

/-- Run an insertion and return the generated key. -/
def insertGetKey (executor : Executor) (request : Request) (key : String) : Action σ Value :=
  exchange executor (Pool.insertGetKey executor request key) (.insertedForKey request key)

end Action

end LiveRecord
