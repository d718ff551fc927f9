import LiveRecord.Proofs.Writing

/-!
# The outcomes of deleting and adjusting

These are the operations that address the row by the key that the record holds now. Each of them
sends one statement at most, and a record whose statement is refused is as it was.
-/

namespace LiveRecord.Record

open Sql (Statement)

variable {m : Model} {σ : Type} [Pool σ]

/-- The deletion of a row by its key. -/
def deletion (m : Model) (key : String) (v : Value) : Statement :=
  .delete m.table [.holds key v]

/-- What can come of a deletion. -/
inductive Deleting (resolved : Except Error Executor) (r : Record m) :
    Except Error Bool → Record m → List Event → Prop
  | unnamed {e : Error} (failed : keyName m = .error e) : Deleting resolved r (.error e) r []
  | absent {key : String} (named : keyName m = .ok key) (new : r.persisted = false) :
      Deleting resolved r (.ok false) r []
  | unkeyed {key : String} {e : Error} (named : keyName m = .ok key) (old : r.persisted = true)
      (failed : r.attributes.get key = .error e) : Deleting resolved r (.error e) r []
  | unresolved {key : String} {v : Value} {e : Error} (named : keyName m = .ok key)
      (old : r.persisted = true) (keyed : r.attributes.get key = .ok v)
      (failed : resolved = .error e) : Deleting resolved r (.error e) r []
  | deleted {key : String} {v : Value} {executor : Executor} {n : Nat}
      (named : keyName m = .ok key) (old : r.persisted = true)
      (keyed : r.attributes.get key = .ok v) (found : resolved = .ok executor) :
      Deleting resolved r (.ok true) { r with persisted := false }
        [.exchanged executor (.executed (.statement (deletion m key v)) (.ok n))]
  | refused {key : String} {v : Value} {executor : Executor} {cause : DatabaseError}
      (named : keyName m = .ok key) (old : r.persisted = true)
      (keyed : r.attributes.get key = .ok v) (found : resolved = .ok executor) :
      Deleting resolved r (.error (.database cause)) r
        [.exchanged executor (.executed (.statement (deletion m key v)) (.error cause))]

theorem delete_ends (held : Held m σ) :
    delete.Ends held
      (Deleting (held.session.resolved held.record.connection) held.record) := by
  refine .ofExcept (fun key named => .current ?_) fun e failed => .unnamed failed
  split
  · next old =>
    refine .ofExcept (fun v keyed => .note fun s grows => ?_) fun e failed => ?_
    · refine .query (fun executor found => ?_) fun e failed => ?_
      · rw [grows.resolved] at found
        refine .exchange WP.query_write (fun n s _ => .change (.pure ?_)) fun cause => ?_
        · exact .deleted named old keyed found
        · exact .refused named old keyed found
      · rw [grows.resolved] at failed
        exact .unresolved named old keyed failed
    · exact .unkeyed named old failed
  · next new => exact .pure (.absent named (by simpa using new))

/-- The changed value of a column. -/
def adjusted (r : Record m) (step : Step) (column : String) (amount : Value) :
    Except Error Value :=
  (r.read column).bind fun current => step.ofColumn column current amount

/-- The change of a column in the row of a key. -/
def adjustment (m : Model) (step : Step) (column : String) (amount : Value) (key : String)
    (v : Value) : Statement :=
  .update m.table [step.assignment column amount] [.holds key v]

/-- What can come of changing a column by an amount. -/
inductive Adjusting (step : Step) (column : String) (amount : Value)
    (resolved : Except Error Executor) (r : Record m) :
    Except Error Nat → Record m → List Event → Prop
  | unresolved {e : Error} (failed : resolved = .error e) :
      Adjusting step column amount resolved r (.error e) r []
  /-- The column is changed in the whole table. -/
  | everywhere {executor : Executor} (answer : Except DatabaseError Nat)
      (found : resolved = .ok executor) (new : r.persisted = false) :
      Adjusting step column amount resolved r (answer.mapError .database) r
        [.exchanged executor (.executed
          (.statement (.update m.table [step.assignment column amount] [])) answer)]
  | unkeyed {executor : Executor} {e : Error} (found : resolved = .ok executor)
      (old : r.persisted = true) (failed : (keyName m).bind r.attributes.get = .error e) :
      Adjusting step column amount resolved r (.error e) r []
  | unadjusted {executor : Executor} {key : String} {v : Value} {e : Error}
      (found : resolved = .ok executor) (old : r.persisted = true) (named : keyName m = .ok key)
      (keyed : r.attributes.get key = .ok v) (failed : r.adjusted step column amount = .error e) :
      Adjusting step column amount resolved r (.error e) r []
  | stored {executor : Executor} {key : String} {v w : Value} {n : Nat} {r₁ : Record m}
      (found : resolved = .ok executor) (old : r.persisted = true) (named : keyName m = .ok key)
      (keyed : r.attributes.get key = .ok v) (value : r.adjusted step column amount = .ok w)
      (stored : r.write column w = .ok r₁) :
      Adjusting step column amount resolved r (.ok n) (r₁.syncKey column)
        [.exchanged executor (.executed
          (.statement (adjustment m step column amount key v)) (.ok n))]
  /-- The row is changed, but the changed value cannot be stored in the record. -/
  | lost {executor : Executor} {key : String} {v w : Value} {n : Nat} {e : Error}
      (found : resolved = .ok executor) (old : r.persisted = true) (named : keyName m = .ok key)
      (keyed : r.attributes.get key = .ok v) (value : r.adjusted step column amount = .ok w)
      (failed : r.write column w = .error e) :
      Adjusting step column amount resolved r (.error e) r
        [.exchanged executor (.executed
          (.statement (adjustment m step column amount key v)) (.ok n))]
  | refused {executor : Executor} {key : String} {v w : Value} {cause : DatabaseError}
      (found : resolved = .ok executor) (old : r.persisted = true) (named : keyName m = .ok key)
      (keyed : r.attributes.get key = .ok v) (value : r.adjusted step column amount = .ok w) :
      Adjusting step column amount resolved r (.error (.database cause)) r
        [.exchanged executor (.executed
          (.statement (adjustment m step column amount key v)) (.error cause))]

theorem adjust_ends (step : Step) (column : String) (amount : Value) (held : Held m σ) :
    (adjust step column amount).Ends held
      (Adjusting step column amount (held.session.resolved held.record.connection)
        held.record) := by
  refine .current (.query (fun executor found => ?_) fun e failed => .unresolved failed)
  split
  · next old =>
    refine .ofExcept (fun key named => .ofExcept (fun v keyed => ?_) fun e failed => ?_)
      fun e failed => ?_
    · refine .ofExcept (fun current read => .ofExcept (fun w stepped => ?_) fun e failed => ?_)
        fun e failed => ?_
      · have value : held.record.adjusted step column amount = .ok w := by
          rw [adjusted, read]
          exact stepped
        refine .exchange WP.query_write (fun n s _ => .write (fun r₁ stored => ?_) fun e failed => ?_)
          fun cause => ?_
        · exact .change (.pure (.stored found old named keyed value stored))
        · exact .lost found old named keyed value failed
        · exact .refused found old named keyed value
      · refine .unadjusted found old named keyed ?_
        rw [adjusted, read]
        exact failed
      · refine .unadjusted found old named keyed ?_
        rw [adjusted, failed]
        rfl
    · refine .unkeyed found old ?_
      rw [named]
      exact failed
    · refine .unkeyed found old ?_
      rw [failed]
      rfl
  · next new =>
    have new : held.record.persisted = false := by simpa using new
    rw [← bind_pure (Edit.ofAction _)]
    refine .exchange WP.query_write (fun n s _ => .pure ?_) fun cause => ?_
    · exact .everywhere (.ok n) found new
    · exact .everywhere (.error cause) found new

end LiveRecord.Record
