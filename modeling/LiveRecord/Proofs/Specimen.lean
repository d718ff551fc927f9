import LiveRecord.Executor.Scripted
import LiveRecord.Record.Persistence

/-!
# A specimen

A record type, a stored row of it and a session with a scripted executor. General results about
records are instantiated here where their hypotheses need an inhabitant.
-/

namespace LiveRecord.Specimen

/-- The first moment of 2024. -/
def newYear : DateTime := .ofDate ⟨2024, 1, 1, by decide, by decide, by decide⟩

/-- The users of an application, of whom the name may be mass assigned. -/
def users : Model :=
  { Model.declared "app::User" fun _ => newYear with fillable := ["name"] }

/-- A stored row. -/
def row : Row := .ofList [("id", .int 1), ("name", .text "Ada")]

/-- A session with one scripted executor, which every connection resolves to. -/
def session (executor : Scripted) : Session ScriptedPool :=
  { Session.ofPool ⟨[executor]⟩ with resolver := some fun _ => .ok ⟨0, .sqlite⟩ }

/-- The record of the stored row, with another name that has not been saved. -/
def renamed : Record users :=
  let loaded := Record.ofRow users row none
  { loaded with attributes := loaded.attributes.set "name" (.text "Grace") }

end LiveRecord.Specimen
