import LiveRecord.Registry
import Mathlib.Data.List.Basic

/-!
# Scopes that are alive together

A scope that is closed puts the flag of its type back to what it found. A scope that was opened
while another one was alive has found the flag set, so closing it changes nothing. The oldest
scope alive has found the flag as it was before all of them. If it is closed while a younger one
is alive, the protection of the type is back too early, and the younger one lifts it again when
it is closed in its turn.

So the flag follows the scopes if and only if the oldest one is closed last, or the flag was set
all along. The invariant is `Scoped.Nested`, which every other step keeps.
-/

namespace LiveRecord

/-- What can happen to a registry, seen from the scopes of one type. -/
inductive ScopeStep (path : String) where
  | acquire
  /-- Close the scope at a place among those alive, of which the oldest has place 0. -/
  | release (place : Nat)
  /-- Do something else that leaves the flag of the type alone. -/
  | elsewhere (change : Registry → Registry)
      (spared : ∀ r : Registry, (change r).isUnguarded path = r.isUnguarded path)

/-- A registry with the scopes of one type that are alive, oldest first. -/
structure Scoped where
  registry : Registry
  alive : List Scope

variable {path : String}

namespace ScopeStep

/-- Let the step happen. -/
def perform (s : Scoped) : ScopeStep path → Scoped
  | .acquire => ⟨(s.registry.openScope path).2, s.alive ++ [(s.registry.openScope path).1]⟩
  | .release place =>
    match s.alive[place]? with
    | some scope => ⟨s.registry.closeScope scope, s.alive.eraseIdx place⟩
    | none => s
  | .elsewhere change _ => { s with registry := change s.registry }

/-- With so many scopes alive, is the step something else than closing the oldest of several? -/
def SparesOldest (alive : Nat) : ScopeStep path → Prop
  | .release place => place = 0 → alive ≤ 1
  | .acquire | .elsewhere .. => True

/-- How many scopes are alive after the step. -/
def count (alive : Nat) : ScopeStep path → Nat
  | .acquire => alive + 1
  | .release place => if place < alive then alive - 1 else alive
  | .elsewhere .. => alive

theorem length_perform (s : Scoped) (step : ScopeStep path) :
    (step.perform s).alive.length = step.count s.alive.length := by
  cases step with
  | acquire => simp [perform, count]
  | elsewhere change spared => rfl
  | release place =>
      rw [perform, count]
      split
      · next scope found =>
        obtain ⟨inside, -⟩ := List.getElem?_eq_some_iff.1 found
        rw [if_pos inside, List.length_eraseIdx_of_lt inside]
      · next missing =>
        rw [if_neg (Nat.not_lt.2 (List.getElem?_eq_none_iff.1 missing))]

theorem eq_of_not_sparesOldest {alive : Nat} {step : ScopeStep path}
    (closes : ¬ step.SparesOldest alive) : step = .release 0 ∧ 2 ≤ alive := by
  cases step with
  | acquire => exact absurd trivial closes
  | elsewhere => exact absurd trivial closes
  | release place =>
      simp only [SparesOldest, Classical.not_imp] at closes
      obtain ⟨rfl, several⟩ := closes
      exact ⟨rfl, by omega⟩

end ScopeStep

namespace Scoped

/-- Let steps happen one after another. -/
def run (s : Scoped) (steps : List (ScopeStep path)) : Scoped := steps.foldl ScopeStep.perform s

/-- Is the oldest scope alive never closed while another one is alive? -/
def OldestLast (alive : Nat) : List (ScopeStep path) → Prop
  | [] => True
  | step :: rest => step.SparesOldest alive ∧ OldestLast (step.count alive) rest

/-- The flag of the type is set as long as a scope is alive, and otherwise as it was found. -/
def Follows (path : String) (found : Bool) (s : Scoped) : Prop :=
  (s.alive ≠ [] → s.registry.isUnguarded path = true) ∧
    (s.alive = [] → s.registry.isUnguarded path = found)

/-- The oldest scope alive has found the flag that was there before all of them, and the others
have found it set. -/
structure Nested (path : String) (found : Bool) (s : Scoped) : Prop where
  follows : s.Follows path found
  path : ∀ scope ∈ s.alive, scope.path = path
  oldest : ∀ scope ∈ s.alive.head?, scope.previous = found
  younger : ∀ scope ∈ s.alive.tail, scope.previous = true

variable {found : Bool} {s : Scoped}

theorem isUnguarded_closeScope {r : Registry} {scope : Scope} (own : scope.path = path) :
    (r.closeScope scope).isUnguarded path = scope.previous := by
  rw [Registry.closeScope, Registry.isUnguarded_setUnguarded, if_pos own]

namespace Nested

theorem start (path : String) (r : Registry) : Nested path (r.isUnguarded path) ⟨r, []⟩ where
  follows := ⟨fun alive => absurd rfl alive, fun _ => rfl⟩
  path := nofun
  oldest := nofun
  younger := nofun

theorem acquire (h : Nested path found s) :
    Nested path found ((.acquire : ScopeStep path).perform s) := by
  have lifted : (s.registry.openScope path).2.isUnguarded path = true := by
    rw [Registry.openScope, Registry.isUnguarded_setUnguarded, if_pos rfl]
  obtain ⟨r, alive⟩ := s
  cases alive with
  | nil =>
      have before : r.isUnguarded path = found := h.follows.2 rfl
      refine ⟨⟨fun _ => lifted, nofun⟩, ?_, ?_, nofun⟩
      · simp [ScopeStep.perform, Registry.openScope]
      · simp [ScopeStep.perform, Registry.openScope, before]
  | cons oldest younger =>
      have before : r.isUnguarded path = true := h.follows.1 (List.cons_ne_nil _ _)
      refine ⟨⟨fun _ => lifted, nofun⟩, ?_, h.oldest, ?_⟩
      · intro scope mem
        rcases List.mem_append.1 mem with mem | mem
        · exact h.path scope mem
        · rw [List.mem_singleton.1 mem]
          rfl
      · intro scope mem
        rcases List.mem_append.1 mem with mem | mem
        · exact h.younger scope mem
        · rw [List.mem_singleton.1 mem]
          exact before

/-- Closing a younger scope sets the flag, which is set. -/
theorem release_younger {r : Registry} {oldest scope : Scope} {younger : List Scope} {place : Nat}
    (h : Nested path found ⟨r, oldest :: younger⟩) (there : younger[place]? = some scope) :
    Nested path found ⟨r.closeScope scope, oldest :: younger.eraseIdx place⟩ := by
  have mem : scope ∈ younger := List.mem_of_getElem? there
  have lifted : (r.closeScope scope).isUnguarded path = true :=
    (isUnguarded_closeScope (h.path scope (List.mem_cons_of_mem _ mem))).trans (h.younger scope mem)
  refine ⟨⟨fun _ => lifted, nofun⟩, ?_, h.oldest, ?_⟩
  · intro other mem
    refine h.path other ?_
    rcases List.mem_cons.1 mem with rfl | mem
    · exact List.mem_cons_self
    · exact List.mem_cons_of_mem _ (List.mem_of_mem_eraseIdx mem)
  · exact fun other mem => h.younger other (List.mem_of_mem_eraseIdx mem)

/-- Closing the oldest scope puts the flag back, which is right if it is the only one or if the
flag was set all along. -/
theorem release_oldest {r : Registry} {oldest : Scope} {younger : List Scope}
    (h : Nested path found ⟨r, oldest :: younger⟩) (spared : found = true ∨ younger = []) :
    Nested path found ⟨r.closeScope oldest, younger⟩ := by
  have back : (r.closeScope oldest).isUnguarded path = found :=
    (isUnguarded_closeScope (h.path oldest List.mem_cons_self)).trans (h.oldest oldest rfl)
  rcases spared with rfl | rfl
  · refine ⟨⟨fun _ => back, fun _ => back⟩, ?_, ?_, ?_⟩
    · exact fun scope mem => h.path scope (List.mem_cons_of_mem _ mem)
    · exact fun scope mem => h.younger scope (List.mem_of_head? mem)
    · exact fun scope mem => h.younger scope (List.mem_of_mem_tail mem)
  · exact ⟨⟨fun alive => absurd rfl alive, fun _ => back⟩, nofun, nofun, nofun⟩

theorem perform (h : Nested path found s) {step : ScopeStep path}
    (spared : found = true ∨ step.SparesOldest s.alive.length) :
    Nested path found (step.perform s) := by
  obtain ⟨r, alive⟩ := s
  cases step with
  | acquire => exact h.acquire
  | elsewhere change untouched =>
      have same := untouched r
      refine ⟨⟨fun alive => ?_, fun none => ?_⟩, h.path, h.oldest, h.younger⟩
      · exact same.trans (h.follows.1 alive)
      · exact same.trans (h.follows.2 none)
  | release place =>
      cases alive with
      | nil => exact h
      | cons oldest younger =>
          cases place with
          | zero =>
              refine h.release_oldest (spared.imp_right fun only => ?_)
              have : younger.length + 1 ≤ 1 := only rfl
              exact List.length_eq_zero_iff.1 (by omega)
          | succ place =>
              rw [ScopeStep.perform, List.getElem?_cons_succ]
              split
              · next scope there => exact h.release_younger there
              · exact h

/-- Once the flag has followed the scopes, closing the oldest of several drops it too early. -/
theorem not_follows_release (h : Nested path false s) (several : 2 ≤ s.alive.length) :
    ¬ Follows path false ((.release 0 : ScopeStep path).perform s) := by
  obtain ⟨r, _ | ⟨oldest, _ | ⟨second, rest⟩⟩⟩ := s
  · simp at several
  · simp at several
  · intro follows
    have lifted : (r.closeScope oldest).isUnguarded path = true :=
      follows.1 (List.cons_ne_nil second rest)
    rw [isUnguarded_closeScope (h.path oldest List.mem_cons_self), h.oldest oldest rfl] at lifted
    cases lifted

/-- The flag follows the scopes all along if and only if it was set before, or the oldest scope is
closed last. -/
theorem follows_iff (h : Nested path found s) (steps : List (ScopeStep path)) :
    (∀ before, before <+: steps → Follows path found (s.run before)) ↔
      found = true ∨ OldestLast s.alive.length steps := by
  induction steps generalizing s with
  | nil =>
      refine iff_of_true (fun before start => ?_) (.inr trivial)
      rw [List.prefix_nil.1 start]
      exact h.follows
  | cons step rest ih =>
      have forward (spared : found = true ∨ step.SparesOldest s.alive.length) :
          (∀ before, before <+: step :: rest → Follows path found (s.run before)) ↔
            found = true ∨ OldestLast (step.count s.alive.length) rest := by
        rw [← ScopeStep.length_perform, ← ih (h.perform spared)]
        constructor
        · intro all before start
          exact all (step :: before) ((List.prefix_cons_inj step).2 start)
        · intro all before start
          rcases List.prefix_cons_iff.1 start with rfl | ⟨later, rfl, inner⟩
          · exact h.follows
          · exact all later inner
      constructor
      · intro all
        by_cases spared : found = true ∨ step.SparesOldest s.alive.length
        · rcases (forward spared).1 all with set | ordered
          · exact .inl set
          · exact spared.imp_right fun spares => ⟨spares, ordered⟩
        · obtain ⟨unset, closes⟩ := not_or.1 spared
          obtain rfl := Bool.eq_false_iff.2 unset
          obtain ⟨rfl, several⟩ := ScopeStep.eq_of_not_sparesOldest closes
          exact absurd (all [.release 0] ((List.prefix_cons_inj _).2 (List.nil_prefix)))
            (h.not_follows_release several)
      · intro ordered
        exact (forward (ordered.imp_right And.left)).2 (ordered.imp_right And.right)

end Nested

/-- Let scopes of a type be opened and closed, in any order, while other things happen that leave
the flag of the type alone. Then at every moment the protection of the type is lifted if a scope is
alive, and otherwise as it was before the first scope, if and only if it had been lifted before, or
the oldest scope alive is never closed while a younger one is alive. The younger ones may be closed
in any order. -/
theorem unguarded_follows_scopes_iff (path : String) (r : Registry)
    (steps : List (ScopeStep path)) :
    (∀ before, before <+: steps →
      ((run ⟨r, []⟩ before).alive ≠ [] →
        (run ⟨r, []⟩ before).registry.isUnguarded path = true) ∧
      ((run ⟨r, []⟩ before).alive = [] →
        (run ⟨r, []⟩ before).registry.isUnguarded path = r.isUnguarded path)) ↔
    r.isUnguarded path = true ∨ OldestLast 0 steps :=
  (Nested.start path r).follows_iff steps

/-- Of two scopes the first is closed first: the type is guarded while the second is alive, and
open when none is. -/
theorem crossed_scopes :
    let path := "app::Post"
    let crossed := run ⟨.empty, []⟩ [(.acquire : ScopeStep path), .acquire, .release 0]
    let closed := run crossed [(.release 0 : ScopeStep path)]
    Registry.empty.isUnguarded path = false ∧
      crossed.alive.length = 1 ∧ crossed.registry.isUnguarded path = false ∧
      closed.alive = [] ∧ closed.registry.isUnguarded path = true := by
  decide

end Scoped

end LiveRecord
