import LiveRecord.Query

/-!
# Chains of calls on a query

A query is made on an executor and then refined by calls, one after another. A chain of calls adds
conditions and orders in the sequence of the calls, and the last limit counts; the executor and the
connection stay as they were.
-/

namespace LiveRecord.Query

open Sql (Condition Direction)

/-- A call that refines a query. -/
inductive Clause where
  | whereEq (column : String) (v : Value)
  | whereIn (column : String) (values : List Value)
  | whereRow (row : Row)
  | orderBy (column : String) (direction : Direction)
  | limitTo (limit : Nat)

namespace Clause

/-- The conditions that the call adds. -/
def conditions : Clause → List Condition
  | .whereEq column v => [.holds column v]
  | .whereIn column values => [.isIn column values]
  | .whereRow row => row.entries.map fun entry => .holds entry.1 entry.2
  | .orderBy .. | .limitTo _ => []

/-- The orders that the call adds. -/
def orders : Clause → List (String × Direction)
  | .orderBy column direction => [(column, direction)]
  | .whereEq .. | .whereIn .. | .whereRow _ | .limitTo _ => []

/-- The limit that the call sets. -/
def limit? : Clause → Option Nat
  | .limitTo limit => some limit
  | .whereEq .. | .whereIn .. | .whereRow _ | .orderBy .. => none

/-- The limit that a chain of calls sets, if it sets one. -/
def lastLimit? (clauses : List Clause) : Option Nat := (clauses.filterMap limit?).getLast?

end Clause

variable {m : Model}

/-- Make a call on a query. -/
def refine (q : Query m) : Clause → Query m
  | .whereEq column v => q.whereEq column v
  | .whereIn column values => q.whereIn column values
  | .whereRow row => q.whereRow row
  | .orderBy column direction => q.orderBy column direction
  | .limitTo limit => q.limitTo limit

/-- Make calls on a query, one after another. -/
def refineAll (q : Query m) (clauses : List Clause) : Query m := clauses.foldl refine q

/-- The conditions of a row follow the earlier ones. -/
theorem whereRow_eq (q : Query m) (row : Row) :
    q.whereRow row = { q with
      conditions := q.conditions ++ row.entries.map fun entry => .holds entry.1 entry.2 } := by
  rw [whereRow]
  generalize row.entries = entries
  induction entries generalizing q with
  | nil => simp
  | cons entry rest ih =>
      rw [List.foldl_cons, ih]
      simp [whereEq, having]

theorem refine_eq (q : Query m) (clause : Clause) :
    q.refine clause = { q with
      conditions := q.conditions ++ clause.conditions
      orders := q.orders ++ clause.orders
      limit := clause.limit?.or q.limit } := by
  cases clause with
  | whereRow row => simp [refine, whereRow_eq, Clause.conditions, Clause.orders, Clause.limit?]
  | whereEq | whereIn | orderBy | limitTo =>
      simp [refine, whereEq, whereIn, orderBy, limitTo, having, Clause.conditions, Clause.orders,
        Clause.limit?]

/-- What a chain of calls adds to a query. -/
theorem refineAll_eq (q : Query m) (clauses : List Clause) :
    q.refineAll clauses = { q with
      conditions := q.conditions ++ clauses.flatMap Clause.conditions
      orders := q.orders ++ clauses.flatMap Clause.orders
      limit := (Clause.lastLimit? clauses).or q.limit } := by
  rw [refineAll, Clause.lastLimit?]
  induction clauses generalizing q with
  | nil => simp
  | cons clause rest ih =>
      rw [List.foldl_cons, ih, refine_eq]
      cases limit : clause.limit? with
      | none => simp [List.filterMap_cons_none limit]
      | some n => simp [List.filterMap_cons_some limit, List.getLast?_cons]

/-- The query that a chain of calls makes of a new one. -/
theorem refineAll_on (m : Model) (executor : Executor) (connection : Option String)
    (clauses : List Clause) :
    (on m executor connection).refineAll clauses =
      ⟨executor, connection, clauses.flatMap Clause.conditions, clauses.flatMap Clause.orders,
        Clause.lastLimit? clauses⟩ := by
  rw [refineAll_eq, on, List.nil_append, List.nil_append, Option.or_none]

@[simp] theorem refineAll_executor (q : Query m) (clauses : List Clause) :
    (q.refineAll clauses).executor = q.executor := by
  rw [refineAll_eq]

@[simp] theorem refineAll_connection (q : Query m) (clauses : List Clause) :
    (q.refineAll clauses).connection = q.connection := by
  rw [refineAll_eq]

end LiveRecord.Query
