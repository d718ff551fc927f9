import LiveRecord.Record.Edit

/-!
# Mass assignment

A fill stores the values of a row under the rules of the model's guard. A key may carry the name
of the model's table in front. Keys that may not be set are left out; only a type that admits no
key at all refuses the fill, at its first key.
-/

namespace LiveRecord

/-- What follows a given beginning, if the text starts with it. -/
def afterBeginning? : List Char → List Char → Option (List Char)
  | [], cs => some cs
  | b :: bs, c :: cs => if b = c then afterBeginning? bs cs else none
  | _ :: _, [] => none

/-- A key without the name of its own table in front. -/
def unqualified (table key : String) : String :=
  match afterBeginning? (table.toList ++ ['.']) key.toList with
  | some column => String.ofList column
  | none => key

namespace Record

variable {m : Model} {σ : Type}

/-- Fill in one entry of a row. -/
def fillEntry (g : Guard) (key : String) (v : Value) : Edit m σ Unit :=
  if g.isFillable key then do
    Edit.note (.filling m.table key)
    Edit.write key v
  else if g.totallyGuarded then throw (.massAssignment key)
  else Edit.note (.dropping m.table key)

/-- Fill in entries, one after another. -/
def fillEntries (g : Guard) : List (String × Value) → Edit m σ Unit
  | [] => return ()
  | (key, v) :: rest => do
    fillEntry g key v
    fillEntries g rest

/-- Store the values of a row that the model's guard lets through. -/
def fill (row : Row) : Edit m σ Unit := do
  let g ← Edit.ofAction (Action.guardOf m)
  fillEntries g (g.keepFillable (row.mapKeys (unqualified m.table))).entries

/-- Store the values of a row, protection lifted meanwhile. -/
def forceFill (row : Row) : Edit m σ Unit := Edit.unguarded (fill row)

/-- A new record filled from a row. -/
def ofFill (m : Model) (row : Row) : Action σ (Record m) := do
  let (_, r) ← (fill row).applyTo (new m)
  return r

end Record

end LiveRecord
