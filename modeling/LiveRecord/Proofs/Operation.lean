import LiveRecord.Proofs.Outcome
import LiveRecord.Record.Persistence

/-!
# Runs of operations

An operation is a call of a method that changes a record. What can become of a record over time
is described by the runs of operations on it. Each operation is performed in the session that it
finds, and between two operations anything may happen to that session: executors and resolvers
are exchanged, other records are used, protection is lifted and put back. `Reaches` relates the
start of a run to its end and to the events that the operations of the run added to the
transcript.
-/

namespace LiveRecord

open Record (Step)

/-- A call of a method that changes a record. -/
inductive Operation where
  | set (key : String) (v : Value)
  | unset (key : String)
  | replace (row : Row) (snapshot : Bool)
  | sync
  | syncKey (key : String)
  | fill (row : Row)
  | forceFill (row : Row)
  | saveWith (stamping : Bool)
  | touch
  | update (row : Row)
  | delete
  | adjust (step : Step) (column : String) (amount : Value)

namespace Operation

variable {m : Model} {σ : Type} [Pool σ]

/-- Make the call. The result says whether the record has been saved. -/
def perform : Operation → Edit m σ Bool
  | .set key v => do
    Edit.write key v
    return false
  | .unset key => do
    Edit.changeOr fun r => (r.remove key).map Prod.snd
    return false
  | .replace row snapshot => do
    Edit.change fun r => r.replace row snapshot
    return false
  | .sync => do
    Edit.change Record.sync
    return false
  | .syncKey key => do
    Edit.change fun r => r.syncKey key
    return false
  | .fill row => do
    Record.fill row
    return false
  | .forceFill row => do
    Record.forceFill row
    return false
  | .saveWith stamping => Record.saveWith stamping
  | .touch => Record.touch
  | .update row => do
    match ← Record.update row with
    | .saved done => return done
    | .table _ => return false
  | .delete => do
    let _ ← Record.delete
    return false
  | .adjust step column amount => do
    let _ ← Record.adjust step column amount
    return false

/-- The result of the call, and the record and the session afterwards, whether it failed or
not. -/
def run (op : Operation) (held : Held m σ) : Except Error Bool × Held m σ :=
  match op.perform held with
  | .ok saved reached => (.ok saved, reached)
  | .error e reached => (.error e, reached)

theorem run_of_ends {op : Operation} {held : Held m σ}
    {post : Except Error Bool → Record m → List Event → Prop} (h : op.perform.Ends held post) :
    ∃ events, held.session.Grows events (op.run held).2.session ∧
      post (op.run held).1 (op.run held).2.record events := by
  rw [run]
  cases ran : op.perform held with
  | ok saved reached => exact h.of_ok ran
  | error e reached => exact h.of_error ran

/-- Does the operation set attributes one by one, or save? -/
def EditsOrSaves : Operation → Prop
  | .set .. | .fill _ | .forceFill _ | .saveWith _ | .touch | .update _ => True
  | _ => False

/-- Has the operation saved a persisted record if it returned `done`? Only a touch can return
without a save, if the model has no timestamps. -/
def Saves : Operation → Bool → Prop
  | .saveWith _, _ | .update _, _ => True
  | .touch, done => done = true
  | _, _ => False

theorem Saves.editsOrSaves {op : Operation} {done : Bool} (saves : op.Saves done) :
    op.EditsOrSaves := by
  cases op <;> trivial

end Operation

variable {m : Model} {σ : Type} [Pool σ]

/-- The record can come from `start` to a state by admitted operations that add the given events
to the transcript, whatever happens to the session in between. -/
inductive Reaches (admitted : Operation → Prop) (start : Held m σ) :
    List Event → Held m σ → Prop
  | start : Reaches admitted start [] start
  | step {events more : List Event} {held : Held m σ} (run : Reaches admitted start events held)
      (op : Operation) (ok : admitted op)
      (grows : (op.run held).2.session.transcript = held.session.transcript ++ more) :
      Reaches admitted start (events ++ more) (op.run held).2
  | elsewhere {events : List Event} {held : Held m σ} (run : Reaches admitted start events held)
      (s : Session σ) : Reaches admitted start events ⟨held.record, s⟩

namespace Reaches

variable {admitted : Operation → Prop} {start held : Held m σ} {events : List Event}

/-- What every admitted operation preserves holds after every run. -/
theorem invariant (holds : List Event → Record m → Prop) (initial : holds [] start.record)
    (preserved : ∀ events r s op, admitted op → holds events r →
      op.perform.Ends (⟨r, s⟩ : Held m σ) fun _ r' more => holds (events ++ more) r')
    (run : Reaches admitted start events held) : holds events held.record := by
  induction run with
  | start => exact initial
  | step _ op ok grows ih =>
      obtain ⟨more, grows', kept⟩ := Operation.run_of_ends (preserved _ _ _ op ok ih)
      obtain rfl := List.append_cancel_left (grows.symm.trans grows'.transcript)
      exact kept
  | elsewhere _ _ ih => exact ih

end Reaches

end LiveRecord
