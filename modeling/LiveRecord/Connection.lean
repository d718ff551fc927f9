import LiveRecord.Executor

/-!
# Connections

A record never owns a connection. Whenever one has to run a statement, it asks the installed
resolver for an executor by name; without a name the resolver's default is meant. A manager of
named executors is the resolver in stock.
-/

namespace LiveRecord

/-- What finds the executor of a connection, or of the default connection. -/
abbrev Resolver : Type := Option String → Except Error Executor

/-- Named executors and the name of the default. -/
structure Manager where
  default : String
  executors : Dict Executor

namespace Manager

/-- A manager without executors. -/
def ofDefault (default : String) : Manager := ⟨default, .empty⟩

/-- Name an executor; a name given before is given anew. -/
def add (manager : Manager) (name : String) (executor : Executor) : Manager :=
  { manager with executors := manager.executors.insert name executor }

/-- The name that is meant when a connection is asked for. -/
def effectiveName (manager : Manager) (name : Option String) : String :=
  name.getD manager.default

/-- The executor of a name, or of the default. -/
def connection (manager : Manager) : Resolver := fun name =>
  match manager.executors.get? (manager.effectiveName name) with
  | some executor => .ok executor
  | none => .error (.connectionNotFound (manager.effectiveName name))

end Manager

end LiveRecord
