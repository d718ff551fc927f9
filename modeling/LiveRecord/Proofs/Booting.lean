import LiveRecord.Registry.Boot
import Mathlib

/-!
# Booting once

The program of a boot hook is recursive: an action may boot another type, whose hook then runs to
its end before the next action, and hooks may boot each other in circles. `Boot.Returns` is the
relation of this recursion, a finite derivation for every call that returns, while `Registry.boot`
works off a list of tasks. Both are the same, and every call returns: a hook that starts leaves
fewer types whose hook has not started, because its type counts as booted before.

What a stretch of a run does is `Boot.Orderly`: it starts the hooks of types that were not booted,
each once, and a type is booted from then on. The stretches of a run compose.
-/

namespace LiveRecord

namespace Boot

/-- The actions of a type's hook. -/
def actions (hooks : Hooks) (path : String) : List HookAction := (hooks.get? path).getD []

/-- What an action does at once, without a hook: the registry afterwards, and the answer. -/
def reply (r : Registry) (path : String) : HookVerb → Option (Registry × Option Bool)
  | .boot => none
  | .isBooted => some (r, some (r.isBooted path))
  | .unguard => some (r.setUnguarded path true, none)
  | .reguard => some (r.setUnguarded path false, none)
  | .isUnguarded => some (r, some (r.isUnguarded path))

mutual

/-- A call to boot a type returns with an outcome. A type that has been booted is left alone. -/
inductive Returns (hooks : Hooks) : Registry → String → Registry.Booted → Prop
  | again {r : Registry} {path : String} (booted : r.isBooted path = true) :
      Returns hooks r path ⟨false, r, []⟩
  | first {r r' : Registry} {path : String} {events : List HookEvent}
      (unbooted : r.isBooted path = false)
      (hook : Completes hooks path (r.markBooted path) (actions hooks path) r' events) :
      Returns hooks r path ⟨true, r', .started path :: events⟩

/-- The actions that are left of the hook of `owner` are all done: the registry afterwards, and
what happened. -/
inductive Completes (hooks : Hooks) :
    String → Registry → List HookAction → Registry → List HookEvent → Prop
  | done {owner : String} {r : Registry} : Completes hooks owner r [] r []
  | boot {owner path : String} {r r' : Registry} {rest : List HookAction}
      {booted : Registry.Booted} {events : List HookEvent} (call : Returns hooks r path booted)
      (later : Completes hooks owner booted.registry rest r' events) :
      Completes hooks owner r (⟨.boot, path⟩ :: rest) r'
        (booted.events ++ .acted owner ⟨.boot, path⟩ (some booted.first) :: events)
  | plain {owner path : String} {verb : HookVerb} {r s r' : Registry} {answer : Option Bool}
      {rest : List HookAction} {events : List HookEvent}
      (replied : reply r path verb = some (s, answer))
      (later : Completes hooks owner s rest r' events) :
      Completes hooks owner r (⟨verb, path⟩ :: rest) r' (.acted owner ⟨verb, path⟩ answer :: events)

end

variable {hooks : Hooks} {r s t : Registry} {owner path : String} {events more : List HookEvent}
variable {verb : HookVerb} {answer : Option Bool}

/-- Only a boot makes a type booted. -/
theorem isBooted_of_reply (replied : reply r path verb = some (s, answer)) (other : String) :
    s.isBooted other = r.isBooted other := by
  cases verb <;> cases replied <;> simp

theorem eq_of_reply_isBooted (replied : reply r path .isBooted = some (s, answer)) :
    answer = some (r.isBooted path) := by
  cases replied
  rfl

/-!
## The list of tasks
-/

theorem run_of_reply {rest : List Task} (replied : reply r path verb = some (s, answer)) :
    run hooks r (.act owner ⟨verb, path⟩ :: rest) =
      ((run hooks s rest).1, .acted owner ⟨verb, path⟩ answer :: (run hooks s rest).2) := by
  cases verb <;> cases replied <;> rw [run, run]

mutual

/-- A boot at the head of the list is worked off as the call that returns. -/
theorem run_of_returns {owner : String} {rest : List Task} :
    ∀ {r : Registry} {path : String} {booted : Registry.Booted}, Returns hooks r path booted →
      run hooks r (.act owner ⟨.boot, path⟩ :: rest) =
        ((run hooks booted.registry rest).1, booted.events ++
          .acted owner ⟨.boot, path⟩ (some booted.first) :: (run hooks booted.registry rest).2)
  | _, _, _, .again booted => by
      rw [run, if_pos booted, run]
      rfl
  | _, _, _, .first unbooted hook => by
      rw [run, if_neg (Bool.eq_false_iff.1 unbooted), hookTasks, ← actions, run_of_completes _ hook,
        run]
      simp only [List.cons_append]

/-- The actions of a hook at the head of the list are worked off before what comes after them. -/
theorem run_of_completes (rest : List Task) :
    ∀ {owner : String} {r r' : Registry} {left : List HookAction} {events : List HookEvent},
      Completes hooks owner r left r' events →
        run hooks r (left.map (.act owner) ++ rest) =
          ((run hooks r' rest).1, events ++ (run hooks r' rest).2)
  | _, _, _, _, _, .done => rfl
  | _, _, _, _, _, .boot call later => by
      rw [List.map_cons, List.cons_append, run_of_returns call, run_of_completes _ later]
      simp only [List.append_assoc, List.cons_append]
  | _, _, _, _, _, .plain replied later => by
      rw [List.map_cons, List.cons_append, run_of_reply replied, run_of_completes _ later]
      rfl

end

theorem Returns.eq_boot {booted : Registry.Booted} (h : Returns hooks r path booted) :
    booted = r.boot hooks path := by
  cases h with
  | again booted => rw [Registry.boot, if_pos booted]
  | first unbooted hook =>
      have worked := run_of_completes [] hook
      rw [List.append_nil, run, List.append_nil] at worked
      rw [Registry.boot, if_neg (Bool.eq_false_iff.1 unbooted), hookTasks, ← actions, worked]

/-!
## Orderly stretches
-/

/-- From one registry to another, only hooks start of types that were not booted, each once. A type
is booted as soon as its hook has started and stays so, and this is what questions are told. -/
structure Orderly (r s : Registry) (events : List HookEvent) : Prop where
  isBooted_iff : ∀ path, s.isBooted path = true ↔
    r.isBooted path = true ∨ .started path ∈ events
  unbooted : ∀ path, .started path ∈ events → r.isBooted path = false
  once : ∀ path, events.count (.started path) ≤ 1
  answer_iff : ∀ earlier owner path answer later,
    events = earlier ++ .acted owner ⟨.isBooted, path⟩ (some answer) :: later →
      (answer = true ↔ r.isBooted path = true ∨ .started path ∈ earlier)

namespace Orderly

/-- Nothing happens, and no type is booted. -/
theorem silent (same : ∀ path, s.isBooted path = r.isBooted path) : Orderly r s [] where
  isBooted_iff path := by simp [same]
  unbooted _ mem := absurd mem List.not_mem_nil
  once _ := Nat.zero_le 1
  answer_iff earlier _ _ _ _ split := by simp at split

/-- The hook of a type starts. -/
theorem start (unbooted : r.isBooted path = false) :
    Orderly r (r.markBooted path) [.started path] where
  isBooted_iff other := by
    rw [Registry.isBooted_markBooted, Bool.or_eq_true, beq_iff_eq, or_comm, List.mem_singleton,
      HookEvent.started.injEq, @eq_comm _ other]
  unbooted other mem := by
    cases List.mem_singleton.1 mem
    exact unbooted
  once _ := List.count_le_length
  answer_iff earlier _ _ _ _ split := by
    rcases List.singleton_eq_append_iff.1 split with ⟨-, more⟩ | ⟨-, none⟩
    · cases more
    · cases none

/-- An action has been done. A question whether a type is booted has been answered truly. -/
theorem acted {action : HookAction} {answer : Option Bool}
    (same : ∀ path, s.isBooted path = r.isBooted path)
    (told : action.verb = .isBooted → answer = some (r.isBooted action.path)) :
    Orderly r s [.acted owner action answer] where
  isBooted_iff other := by simp [same]
  unbooted other mem := by simp at mem
  once _ := List.count_le_length
  answer_iff earlier _ _ _ _ split := by
    rcases List.singleton_eq_append_iff.1 split with ⟨rfl, more⟩ | ⟨-, none⟩
    · cases more
      have told := Option.some.inj (told rfl)
      simp [told]
    · cases none

/-- Stretches compose: what the second one finds booted is what was booted before or has started
in the first. -/
theorem append (h : Orderly r s events) (k : Orderly s t more) : Orderly r t (events ++ more) where
  isBooted_iff path := by
    rw [k.isBooted_iff, h.isBooted_iff, List.mem_append, or_assoc]
  unbooted path mem := by
    rcases List.mem_append.1 mem with mem | mem
    · exact h.unbooted path mem
    · have later := k.unbooted path mem
      rw [← Bool.not_eq_true, h.isBooted_iff, not_or] at later
      exact Bool.eq_false_iff.2 later.1
  once path := by
    rw [List.count_append]
    by_cases started : .started path ∈ events
    · have booted := (h.isBooted_iff path).2 (.inr started)
      have absent : .started path ∉ more := fun mem => by
        rw [k.unbooted path mem] at booted
        cases booted
      rw [List.count_eq_zero.2 absent]
      exact h.once path
    · rw [List.count_eq_zero.2 started, Nat.zero_add]
      exact k.once path
  answer_iff earlier owner path answer later split := by
    rcases List.append_eq_append_iff.1 split with ⟨inner, rfl, second⟩ | ⟨inner, first, second⟩
    · rw [k.answer_iff inner owner path answer later second, h.isBooted_iff, List.mem_append,
        or_assoc]
    · cases inner with
      | nil =>
          rw [List.append_nil] at first
          rw [k.answer_iff [] owner path answer later second.symm, h.isBooted_iff, first]
          simp
      | cons event inner =>
          obtain ⟨rfl, -⟩ := List.cons.inj second
          exact h.answer_iff earlier owner path answer inner first

end Orderly

mutual

theorem Returns.orderly : ∀ {r : Registry} {path : String} {booted : Registry.Booted},
    Returns hooks r path booted → Orderly r booted.registry booted.events
  | _, _, _, .again _ => .silent fun _ => rfl
  | _, _, _, .first unbooted hook => (Orderly.start unbooted).append hook.orderly

theorem Completes.orderly : ∀ {owner : String} {r r' : Registry} {left : List HookAction}
    {events : List HookEvent}, Completes hooks owner r left r' events → Orderly r r' events
  | _, _, _, _, _, .done => .silent fun _ => rfl
  | _, _, _, _, _, .boot call later =>
      call.orderly.append ((Orderly.acted (fun _ => rfl) (by simp)).append later.orderly)
  | _, _, _, _, _, .plain replied later =>
      (Orderly.acted (isBooted_of_reply replied) fun asked => by
        cases asked
        exact eq_of_reply_isBooted replied).append later.orderly

end

/-!
## Every call returns
-/

/-- Fewer and fewer hooks wait. -/
theorem Orderly.waiting_le (h : Orderly r s events) : waiting hooks s ≤ waiting hooks r := by
  refine List.countP_mono_left fun path _ waits => ?_
  rw [Bool.not_eq_true'] at waits ⊢
  rw [← Bool.not_eq_true, h.isBooted_iff, not_or] at waits
  exact Bool.eq_false_iff.2 waits.1

/-- A call to boot a type returns if the hooks are done that start with fewer waiting. -/
theorem exists_returns_of {n : Nat} (bound : waiting hooks r ≤ n)
    (fewer : ∀ k < n, ∀ owner r left, waiting hooks r ≤ k →
      ∃ r' events, Completes hooks owner r left r' events) (path : String) :
    ∃ booted, Returns hooks r path booted := by
  cases state : r.isBooted path with
  | true => exact ⟨_, .again state⟩
  | false =>
      by_cases hooked : path ∈ hooks.keys
      · have started : waiting hooks (r.markBooted path) < n :=
          Nat.lt_of_lt_of_le (waiting_markBooted_lt hooked state) bound
        obtain ⟨r', events, hook⟩ := fewer _ started path _ (actions hooks path) (Nat.le_refl _)
        exact ⟨_, .first state hook⟩
      · have idle : actions hooks path = [] := by
          rw [actions, Dict.get?_eq_none_iff.2 hooked, Option.getD_none]
        have hook : Completes hooks path (r.markBooted path) (actions hooks path)
            (r.markBooted path) [] := by
          rw [idle]
          exact .done
        exact ⟨_, .first state hook⟩

/-- The actions of a hook are all done in the end. The induction is on the number of hooks that
wait, which falls when a hook starts, and then on the actions that are left. -/
theorem exists_completes (hooks : Hooks) (n : Nat) : ∀ (owner : String) (r : Registry)
    (left : List HookAction), waiting hooks r ≤ n →
      ∃ r' events, Completes hooks owner r left r' events := by
  induction n using Nat.strongRecOn with
  | ind n fewer =>
      intro owner r left bound
      induction left generalizing r with
      | nil => exact ⟨r, [], .done⟩
      | cons action rest later =>
          obtain ⟨verb, path⟩ := action
          cases replied : reply r path verb with
          | none =>
              obtain rfl : verb = .boot := by
                cases verb <;> cases replied
                rfl
              obtain ⟨booted, call⟩ := exists_returns_of bound fewer path
              obtain ⟨r', events, left⟩ :=
                later booted.registry (Nat.le_trans call.orderly.waiting_le bound)
              exact ⟨r', _, .boot call left⟩
          | some done =>
              have told : Orderly r done.1 [] := .silent (isBooted_of_reply replied)
              obtain ⟨r', events, left⟩ := later done.1 (Nat.le_trans told.waiting_le bound)
              exact ⟨r', _, .plain replied left⟩

/-- Every call to boot a type returns, and the list of tasks computes what it returns. -/
theorem returns_iff {booted : Registry.Booted} :
    Returns hooks r path booted ↔ booted = r.boot hooks path := by
  constructor
  · exact Returns.eq_boot
  · rintro rfl
    obtain ⟨booted, call⟩ := exists_returns_of (Nat.le_refl _)
      (fun k _ => exists_completes hooks k) path
    rw [← call.eq_boot]
    exact call

/-- A call is told that it is the first if and only if it has started the hook of its type. -/
theorem Returns.first_iff {booted : Registry.Booted} (h : Returns hooks r path booted) :
    booted.first = true ↔ .started path ∈ booted.events := by
  cases h with
  | again booted => simp
  | first unbooted hook => simp

end Boot

/-- A call on the registry of record types, by whoever. -/
inductive RegistryCall where
  | boot (path : String)
  | isBooted (path : String)
  | unguard (path : String)
  | reguard (path : String)
  | isUnguarded (path : String)
  | openScope (path : String)
  | closeScope (scope : Scope)

/-- A registry, and what has happened while types were booted. -/
structure Chronicle where
  registry : Registry
  events : List HookEvent

namespace RegistryCall

/-- Make the call. -/
def perform (hooks : Hooks) (c : Chronicle) : RegistryCall → Chronicle
  | .boot path =>
    ⟨(c.registry.boot hooks path).registry, c.events ++ (c.registry.boot hooks path).events⟩
  | .isBooted _ | .isUnguarded _ => c
  | .unguard path => { c with registry := c.registry.setUnguarded path true }
  | .reguard path => { c with registry := c.registry.setUnguarded path false }
  | .openScope path => { c with registry := (c.registry.openScope path).2 }
  | .closeScope scope => { c with registry := c.registry.closeScope scope }

theorem orderly_perform {hooks : Hooks} {start : Registry} {c : Chronicle}
    (h : Boot.Orderly start c.registry c.events) (call : RegistryCall) :
    Boot.Orderly start (call.perform hooks c).registry (call.perform hooks c).events := by
  have elsewhere {r : Registry} (same : ∀ path, r.isBooted path = c.registry.isBooted path) :
      Boot.Orderly start r c.events := by
    rw [← List.append_nil c.events]
    exact h.append (.silent same)
  cases call with
  | boot path => exact h.append (Boot.returns_iff.2 rfl).orderly
  | isBooted path => exact h
  | isUnguarded path => exact h
  | unguard path => exact elsewhere fun other => Registry.isBooted_setUnguarded ..
  | reguard path => exact elsewhere fun other => Registry.isBooted_setUnguarded ..
  | openScope path => exact elsewhere fun other => Registry.isBooted_setUnguarded ..
  | closeScope scope => exact elsewhere fun other => Registry.isBooted_setUnguarded ..

end RegistryCall

/-- The chronicle of calls that are made one after another. -/
def Registry.chronicle (hooks : Hooks) (start : Registry) (calls : List RegistryCall) : Chronicle :=
  calls.foldl (RegistryCall.perform hooks) ⟨start, []⟩

theorem Registry.orderly_chronicle (hooks : Hooks) (start : Registry) (calls : List RegistryCall) :
    Boot.Orderly start (start.chronicle hooks calls).registry
      (start.chronicle hooks calls).events := by
  have run (c : Chronicle) (h : Boot.Orderly start c.registry c.events) :
      Boot.Orderly start (calls.foldl (RegistryCall.perform hooks) c).registry
        (calls.foldl (RegistryCall.perform hooks) c).events := by
    induction calls generalizing c with
    | nil => exact h
    | cons call rest ih => exact ih _ (RegistryCall.orderly_perform h call)
  exact run ⟨start, []⟩ (.silent fun _ => rfl)

/-- Let types have boot hooks that may boot each other and themselves, and let any calls be made on
a registry, one after another. Then the hook of each type starts once at most, and a type is booted
if and only if it was at the start or its hook has started; every hook that asks is told so. The
next call to boot a type returns, and it is told that it is the first if and only if the type was
not booted at the start and its hook has not started yet. Every call that returns, of a hook or of
another caller, is told so if and only if it has itself started the hook of its type, and it leaves
booted what was. -/
theorem Registry.hooks_start_once (hooks : Hooks) (start : Registry) (calls : List RegistryCall) :
    let reached := start.chronicle hooks calls
    (∀ path, reached.events.count (.started path) ≤ 1) ∧
    (∀ path, reached.registry.isBooted path = true ↔
      start.isBooted path = true ∨ .started path ∈ reached.events) ∧
    (∀ earlier owner path answer later,
      reached.events = earlier ++ .acted owner ⟨.isBooted, path⟩ (some answer) :: later →
        (answer = true ↔ start.isBooted path = true ∨ .started path ∈ earlier)) ∧
    (∀ path, Boot.Returns hooks reached.registry path (reached.registry.boot hooks path) ∧
      ((reached.registry.boot hooks path).first = true ↔
        start.isBooted path = false ∧ .started path ∉ reached.events)) ∧
    ∀ r path booted, Boot.Returns hooks r path booted →
      (booted.first = true ↔ .started path ∈ booted.events) ∧
      ∀ other, r.isBooted other = true → booted.registry.isBooted other = true := by
  have orderly := start.orderly_chronicle hooks calls
  refine ⟨orderly.once, orderly.isBooted_iff, orderly.answer_iff, fun path => ?_, ?_⟩
  · refine ⟨Boot.returns_iff.2 rfl, ?_⟩
    rw [← Bool.not_eq_true, ← not_or, ← orderly.isBooted_iff, Registry.boot]
    split
    · next booted => simp [booted]
    · next unbooted => simp [unbooted]
  · intro r path booted call
    exact ⟨call.first_iff, fun other before => (call.orderly.isBooted_iff other).2 (.inl before)⟩

/-- Two types whose hooks boot each other. The second one also boots itself, and asks. -/
def Boot.circle : Hooks := .ofList [
  ("app::Post", [⟨.unguard, "app::Post"⟩, ⟨.boot, "app::User"⟩]),
  ("app::User", [⟨.boot, "app::Post"⟩, ⟨.boot, "app::User"⟩, ⟨.isBooted, "app::Post"⟩])]

/-- Both are booted while scopes are opened and closed. -/
def Boot.circled : Chronicle := Registry.empty.chronicle circle
  [.openScope "app::User", .boot "app::Post", .closeScope ⟨"app::Post", false⟩]

theorem Boot.events_circled : circled.events =
    [.started "app::Post", .acted "app::Post" ⟨.unguard, "app::Post"⟩ none,
      .started "app::User", .acted "app::User" ⟨.boot, "app::Post"⟩ (some false),
      .acted "app::User" ⟨.boot, "app::User"⟩ (some false),
      .acted "app::User" ⟨.isBooted, "app::Post"⟩ (some true),
      .acted "app::Post" ⟨.boot, "app::User"⟩ (some true)] := by
  cbv

theorem Registry.circle_starts_once :
    .started "app::User" ∈ Boot.circled.events ∧
    (∀ path, Boot.circled.events.count (.started path) ≤ 1) ∧
    (Boot.circled.registry.boot Boot.circle "app::User").first ≠ true := by
  have started : .started "app::User" ∈ Boot.circled.events := by
    rw [Boot.events_circled]
    decide
  obtain ⟨once, -, -, next, -⟩ := hooks_start_once Boot.circle .empty
    [.openScope "app::User", .boot "app::Post", .closeScope ⟨"app::Post", false⟩]
  exact ⟨started, once, fun first => ((next "app::User").2.1 first).2 started⟩

end LiveRecord
