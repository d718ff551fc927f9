import LiveRecord.Registry

/-!
# Booting record types

A record type is booted once. Its boot hook is a list of actions on the registry, which may boot
other types or the same one again: a type counts as booted before its hook starts, so hooks that
boot each other come to an end. Running a hook leaves a list of events, in the order in which
they happened.
-/

namespace LiveRecord

/-- What an action of a boot hook does with a type. -/
inductive HookVerb where
  | boot
  | isBooted
  | unguard
  | reguard
  | isUnguarded
  deriving Repr, DecidableEq

/-- An action of a boot hook. -/
structure HookAction where
  verb : HookVerb
  path : String
  deriving Repr, DecidableEq

/-- The boot hooks of the types that have one. -/
abbrev Hooks := Dict (List HookAction)

/-- What happens while types are booted. -/
inductive HookEvent where
  /-- The hook of a type starts. -/
  | started (path : String)
  /-- The hook of a type has done an action; a question or a boot has an answer. -/
  | acted (path : String) (action : HookAction) (answer : Option Bool)
  deriving Repr, DecidableEq

namespace Boot

/-- What is still to be done: an action of the hook of `owner`, or noting its answer. -/
inductive Task where
  | act (owner : String) (action : HookAction)
  | report (owner : String) (action : HookAction) (answer : Option Bool)
  deriving Repr, DecidableEq

/-- An action becomes a report, so it weighs more. -/
def Task.weight : Task → Nat
  | .act .. => 2
  | .report .. => 1

/-- The weight of a list of tasks. -/
def weight (tasks : List Task) : Nat := (tasks.map Task.weight).foldr (· + ·) 0

/-- How many hooks have not been started. -/
def waiting (hooks : Hooks) (r : Registry) : Nat :=
  hooks.keys.countP fun path => !r.isBooted path

@[simp] theorem waiting_setUnguarded (hooks : Hooks) (r : Registry) (path : String)
    (unguarded : Bool) : waiting hooks (r.setUnguarded path unguarded) = waiting hooks r := by
  simp [waiting]

/-- Fewer members of a list meet a stronger condition if one member tells the two apart. -/
theorem countP_lt_countP {α : Type} {p q : α → Bool} (imp : ∀ x, p x = true → q x = true) {a : α}
    (hp : p a = false) (hq : q a = true) : ∀ {l : List α}, a ∈ l → l.countP p < l.countP q
  | x :: l, ha => by
    have hle : l.countP p ≤ l.countP q := List.countP_mono_left fun y _ => imp y
    rcases List.mem_cons.1 ha with rfl | ha
    · simp only [List.countP_cons, hp, hq]
      exact Nat.lt_succ_of_le hle
    · have ih := countP_lt_countP imp hp hq ha
      simp only [List.countP_cons]
      by_cases hx : p x = true
      · simp [hx, imp x hx, ih]
      · rw [if_neg hx]
        omega

/-- Starting a hook that was waiting leaves fewer that wait. -/
theorem waiting_markBooted_lt {hooks : Hooks} {r : Registry} {path : String}
    (hooked : path ∈ hooks.keys) (unbooted : r.isBooted path = false) :
    waiting hooks (r.markBooted path) < waiting hooks r := by
  refine countP_lt_countP (a := path) ?_ ?_ ?_ hooked
  · intro other
    simp only [Registry.isBooted_markBooted]
    cases path == other <;> simp
  · simp [Registry.isBooted_markBooted]
  · simp [unbooted]

/-- Booting a type without a hook leaves as many that wait. -/
theorem waiting_markBooted_of_notMem {hooks : Hooks} {r : Registry} {path : String}
    (unhooked : path ∉ hooks.keys) : waiting hooks (r.markBooted path) = waiting hooks r := by
  refine List.countP_congr fun other hother => ?_
  have hne : ¬ path = other := fun h => unhooked (h ▸ hother)
  simp [Registry.isBooted_markBooted, hne]

/-- The actions of a type's hook, to be done for that type. -/
def hookTasks (hooks : Hooks) (path : String) : List Task :=
  ((hooks.get? path).getD []).map (.act path)

theorem hookTasks_of_notMem {hooks : Hooks} {path : String} (unhooked : path ∉ hooks.keys) :
    hookTasks hooks path = [] := by
  simp [hookTasks, Dict.get?_eq_none_iff.2 unhooked]

/-- Do the tasks one after another: the registry afterwards, and what happened. -/
def run (hooks : Hooks) (r : Registry) : List Task → Registry × List HookEvent
  | [] => (r, [])
  | .report owner action answer :: rest =>
    let (r', events) := run hooks r rest
    (r', .acted owner action answer :: events)
  | .act owner ⟨.boot, path⟩ :: rest =>
    if r.isBooted path then run hooks r (.report owner ⟨.boot, path⟩ (some false) :: rest)
    else
      let (r', events) := run hooks (r.markBooted path)
        (hookTasks hooks path ++ .report owner ⟨.boot, path⟩ (some true) :: rest)
      (r', .started path :: events)
  | .act owner ⟨.isBooted, path⟩ :: rest =>
    run hooks r (.report owner ⟨.isBooted, path⟩ (some (r.isBooted path)) :: rest)
  | .act owner ⟨.unguard, path⟩ :: rest =>
    run hooks (r.setUnguarded path true) (.report owner ⟨.unguard, path⟩ none :: rest)
  | .act owner ⟨.reguard, path⟩ :: rest =>
    run hooks (r.setUnguarded path false) (.report owner ⟨.reguard, path⟩ none :: rest)
  | .act owner ⟨.isUnguarded, path⟩ :: rest =>
    run hooks r (.report owner ⟨.isUnguarded, path⟩ (some (r.isUnguarded path)) :: rest)
termination_by tasks => (waiting hooks r, weight tasks)
decreasing_by
  · exact .right _ (by simp [weight, Task.weight])
  · exact .right _ (by simp [weight, Task.weight])
  · next unbooted =>
    simp only [Bool.not_eq_true] at unbooted
    by_cases hooked : path ∈ hooks.keys
    · exact .left _ _ (waiting_markBooted_lt hooked unbooted)
    · rw [hookTasks_of_notMem hooked, waiting_markBooted_of_notMem hooked]
      exact .right _ (by simp [weight, Task.weight])
  · exact .right _ (by simp [weight, Task.weight])
  · rw [waiting_setUnguarded]
    exact .right _ (by simp [weight, Task.weight])
  · rw [waiting_setUnguarded]
    exact .right _ (by simp [weight, Task.weight])
  · exact .right _ (by simp [weight, Task.weight])

end Boot

namespace Registry

/-- What comes of a call to boot a type. -/
structure Booted where
  /-- Did this call start the hook of the type? -/
  first : Bool
  registry : Registry
  /-- What happened meanwhile. -/
  events : List HookEvent

/-- Boot a type unless it has been booted. -/
def boot (hooks : Hooks) (r : Registry) (path : String) : Booted :=
  if r.isBooted path then ⟨false, r, []⟩
  else
    let (r', events) := Boot.run hooks (r.markBooted path) (Boot.hookTasks hooks path)
    ⟨true, r', .started path :: events⟩

end Registry

end LiveRecord
