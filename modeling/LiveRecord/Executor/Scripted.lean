import LiveRecord.Executor

/-!
# Scripted executors

An executor that records every call and answers from queues. A call for which nothing is queued
gets a neutral answer: one affected row, no rows, the key 1. An executor that reads keys from
rows has no call of its own for a generated key and queries instead.
-/

namespace LiveRecord

/-- The kinds of calls. -/
inductive CallKind where
  | execute
  | query
  | insertGetKey
  deriving Repr, DecidableEq

/-- A recorded call. -/
structure Call where
  kind : CallKind
  sent : Sql.Rendered

/-- An executor that answers from queues. -/
structure Scripted where
  /-- The calls so far, oldest first. -/
  calls : List Call
  affected : List (Except DatabaseError Nat)
  rows : List (Except DatabaseError (List Row))
  keys : List (Except DatabaseError Value)
  /-- Does an insertion that reports a key run as a query? -/
  keysFromRows : Bool

namespace Scripted

/-- An executor without a queued answer. -/
def idle (keysFromRows : Bool) : Scripted := ⟨[], [], [], [], keysFromRows⟩

instance : Inhabited Scripted := ⟨idle false⟩

/-- Queue the answer of a call that counts rows. -/
def pushAffected (s : Scripted) (answer : Except DatabaseError Nat) : Scripted :=
  { s with affected := s.affected ++ [answer] }

/-- Queue the answer of a query. -/
def pushRows (s : Scripted) (answer : Except DatabaseError (List Row)) : Scripted :=
  { s with rows := s.rows ++ [answer] }

/-- Queue the answer of an insertion that reports a key. -/
def pushKey (s : Scripted) (answer : Except DatabaseError Value) : Scripted :=
  { s with keys := s.keys ++ [answer] }

/-- Forget the recorded calls; the queues stay. -/
def clear (s : Scripted) : Scripted := { s with calls := [] }

/-- How many of the recorded calls write. -/
def writeCount (s : Scripted) : Nat :=
  s.calls.countP fun call => call.kind != .query

/-- The last recorded call. -/
def lastCall? (s : Scripted) : Option Call := s.calls.getLast?

/-- Record a call. -/
def record (s : Scripted) (kind : CallKind) (sent : Sql.Rendered) : Scripted :=
  { s with calls := s.calls ++ [⟨kind, sent⟩] }

/-- Record a call and answer how many rows it affected. -/
def execute (s : Scripted) (sent : Sql.Rendered) : Except DatabaseError Nat × Scripted :=
  (s.affected.headD (.ok 1), { s.record .execute sent with affected := s.affected.tail })

/-- Record a call and answer with rows. -/
def queryAll (s : Scripted) (sent : Sql.Rendered) : Except DatabaseError (List Row) × Scripted :=
  (s.rows.headD (.ok []), { s.record .query sent with rows := s.rows.tail })

/-- Record a call and answer with a generated key. -/
def insertGetKey (s : Scripted) (sent : Sql.Rendered) (key : String) :
    Except DatabaseError Value × Scripted :=
  if s.keysFromRows then
    let (answer, s) := s.queryAll sent
    (answer.bind Pool.firstRow |>.bind (Pool.keyOf key), s)
  else
    (s.keys.headD (.ok (.int 1)), { s.record .insertGetKey sent with keys := s.keys.tail })

end Scripted

/-- Scripted executors, each at its place. -/
structure ScriptedPool where
  executors : List Scripted

namespace ScriptedPool

/-- The executor at a place; a place without one behaves as if it were idle. -/
def executorAt (pool : ScriptedPool) (place : Nat) : Scripted :=
  pool.executors.getD place default

/-- Put an executor at a place. -/
def put (pool : ScriptedPool) (place : Nat) (s : Scripted) : ScriptedPool :=
  ⟨pool.executors.set place s⟩

/-- Let the executor at a place do something. -/
def apply {α : Type} (pool : ScriptedPool) (place : Nat) (call : Scripted → α × Scripted) :
    α × ScriptedPool :=
  let (answer, s) := call (pool.executorAt place)
  (answer, pool.put place s)

instance : Pool ScriptedPool where
  execute executor request pool :=
    pool.apply executor.place fun s => s.execute (request.render executor.dialect)
  queryAll executor request pool :=
    pool.apply executor.place fun s => s.queryAll (request.render executor.dialect)
  insertGetKey executor request key pool :=
    pool.apply executor.place fun s => s.insertGetKey (request.render executor.dialect) key

end ScriptedPool

end LiveRecord
