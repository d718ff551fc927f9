import LiveRecord.Proofs.Equality
import LiveRecord.Record.Persistence

/-!
# A row of the database

A database that accepts an update carries out its assignments in the rows that meet all its
conditions, and one that refuses it changes nothing. So what has become of a row can be computed
from the events of a transcript. A value of a row meets a condition if it agrees with the value of
the condition.
-/

namespace LiveRecord

open Sql (Assignment Condition)
open Record (Step)

/-- Does a row meet the condition? -/
def Sql.Condition.meets (row : Row) : Condition → Bool
  | .equals column v => (row.get? column).any fun w => v.Agrees w
  | .isNull column => (row.get? column).any Value.isNull
  | .isIn column values => (row.get? column).any fun w => values.any fun v => v.Agrees w

/-- The row with a column changed by an amount; what is no number stays. -/
def Row.adjustBy (row : Row) (step : Step) (column : String) (amount : Value) : Row :=
  match row.get? column with
  | some v =>
    match step.ofValue v amount with
    | .ok adjusted => row.insert column adjusted
    | .error _ => row
  | none => row

/-- The row after an assignment. -/
def Sql.Assignment.apply (row : Row) : Assignment → Row
  | .set column v => row.insert column v
  | .add column amount => row.adjustBy .increment column amount
  | .subtract column amount => row.adjustBy .decrement column amount

namespace Row

/-- What an event makes of a row of a table. -/
def afterEvent (table : String) (row : Row) : Event → Row
  | .exchanged _ (.executed (.statement (.update updated assignments conditions)) (.ok _)) =>
    if updated = table ∧ conditions.all (·.meets row) then assignments.foldl Assignment.apply row
    else row
  | _ => row

/-- What some events make of a row of a table, one after another. -/
def after (table : String) (row : Row) (events : List Event) : Row :=
  events.foldl (afterEvent table) row

@[simp] theorem after_nil (table : String) (row : Row) : row.after table [] = row := rfl

@[simp] theorem after_append (table : String) (row : Row) (events more : List Event) :
    row.after table (events ++ more) = (row.after table events).after table more := by
  simp [after]

/-- Each value of the first row agrees with the value that the second has in its column. -/
def Mirrors (r stored : Row) : Prop :=
  ∀ column v, r.get? column = some v → ∃ w, stored.get? column = some w ∧ v.Agrees w

theorem Mirrors.refl (r : Row) : r.Mirrors r := fun _ v there => ⟨v, there, .refl v⟩

/-- After the columns of a row are set, it holds their values and otherwise what it held. -/
theorem get?_foldl_set (entries : List (String × Value)) (distinct : (Entries.keys entries).Nodup)
    (stored : Row) (column : String) :
    ((entries.map fun entry => Assignment.set entry.1 entry.2).foldl Assignment.apply
      stored).get? column = (Entries.lookup column entries).or (stored.get? column) := by
  induction entries generalizing stored with
  | nil => rfl
  | cons entry rest ih =>
      obtain ⟨name, v⟩ := entry
      obtain ⟨absent, distinct⟩ := List.nodup_cons.1 distinct
      rw [List.map_cons, List.foldl_cons, ih distinct, Assignment.apply, Dict.get?_insert,
        Entries.lookup]
      split
      · next same =>
        subst same
        rw [Entries.lookup_eq_none_iff.2 absent]
        rfl
      · rfl

end Row

namespace Sql.Condition

/-- A row meets a condition that asks for a value if it holds one that agrees. -/
theorem AsksFor.meets_iff {row : Row} {column : String} {v : Value} {condition : Condition}
    (asks : AsksFor column v condition) :
    condition.meets row = true ↔ ∃ w, row.get? column = some w ∧ v.Agrees w := by
  cases asks with
  | null =>
      simp only [meets, Option.any_eq_true]
      refine exists_congr fun w => and_congr_right fun _ => ?_
      cases w <;> simp [Value.isNull, Value.Agrees, Value.same]
  | value present => simp [meets, Option.any_eq_true]

end Sql.Condition

end LiveRecord
