import LiveRecord.Dict
import Mathlib.Data.List.Induction

/-!
# Dictionaries and their history

What a dictionary holds is decided by the history of its changes. A look-up finds the value that was
last written under the key, and the keys stand in the order in which they were added: overwriting a
key does not move it, and a key that has been dropped and is written again goes last. `Reflects`
says this of a dictionary and a history, without mention of the dictionary's own operations. That no
key stands twice is a consequence, because no key is added at two places of one history.
-/

namespace LiveRecord.Dict

universe u

variable {α : Type u}

/-- A change of a dictionary. -/
inductive Change (α : Type u) where
  | put (key : String) (value : α)
  | drop (key : String)
  /-- All keys are dropped. -/
  | clear

/-- Make a change. -/
def Change.apply (d : Dict α) : Change α → Dict α
  | .put key value => d.insert key value
  | .drop key => d.erase key
  | .clear => empty

/-- What the change leaves under the key, if it concerns the key. -/
def Change.leaves (key : String) : Change α → Option (Option α)
  | .put name value => if name = key then some (some value) else none
  | .drop name => if name = key then some none else none
  | .clear => some none

/-- Make changes, one after another. -/
def applyAll (d : Dict α) (changes : List (Change α)) : Dict α := changes.foldl Change.apply d

/-- The value that was last written under the key, unless the key has been dropped since. -/
def lastValue (history : List (Change α)) (key : String) : Option α :=
  (history.filterMap (Change.leaves key)).getLast?.join

/-- The change at this place of the history has added the key, and it has been held ever since. -/
def AddedAt (history : List (Change α)) (key : String) (place : Nat) : Prop :=
  lastValue (history.take place) key = none ∧
    ∀ later, place < later → lastValue (history.take later) key ≠ none

/-- Are both keys held, the first one for longer? -/
def AddedBefore (history : List (Change α)) (first next : String) : Prop :=
  ∃ i j, i < j ∧ AddedAt history first i ∧ AddedAt history next j

/-- The dictionary holds what the history of its changes has left, in the order of the history. -/
structure Reflects (d : Dict α) (history : List (Change α)) : Prop where
  get?_eq : ∀ key, d.get? key = lastValue history key
  order : d.keys.Pairwise (AddedBefore history)

variable {d : Dict α} {history : List (Change α)} {change : Change α} {key first next : String}

theorem Change.get?_apply (d : Dict α) (change : Change α) (key : String) :
    (change.apply d).get? key = (change.leaves key).getD (d.get? key) := by
  cases change with
  | put name value =>
      rw [apply, get?_insert, leaves]
      split <;> rfl
  | drop name =>
      rw [apply, get?_erase, leaves]
      by_cases same : name = key
      · rw [if_pos same, if_pos same.symm, Option.getD_some]
      · rw [if_neg same, if_neg (Ne.symm same), Option.getD_none]
  | clear => rfl

theorem lastValue_concat (history : List (Change α)) (change : Change α) (key : String) :
    lastValue (history ++ [change]) key = (change.leaves key).getD (lastValue history key) := by
  rw [lastValue, List.filterMap_append]
  cases left : change.leaves key with
  | none => simp [left, lastValue]
  | some value => simp [left]

/-!
## The place at which a key was added
-/

theorem AddedAt.lt_length {place : Nat} (added : AddedAt history key place) :
    place < history.length := by
  by_contra beyond
  have all : history.take place = history := List.take_of_length_le (Nat.le_of_not_lt beyond)
  have more : history.take (place + 1) = history := List.take_of_length_le (by omega)
  have held := added.2 (place + 1) (Nat.lt_succ_self place)
  rw [more] at held
  rw [AddedAt, all] at added
  exact held added.1

/-- A key that is still held was added where it was added before. -/
theorem AddedAt.concat {place : Nat} (added : AddedAt history key place)
    (held : lastValue (history ++ [change]) key ≠ none) :
    AddedAt (history ++ [change]) key place := by
  have inside := added.lt_length
  refine ⟨?_, fun later after => ?_⟩
  · rw [List.take_append_of_le_length (Nat.le_of_lt inside)]
    exact added.1
  · by_cases within : later ≤ history.length
    · rw [List.take_append_of_le_length within]
      exact added.2 later after
    · rw [List.take_of_length_le (by simp; omega)]
      exact held

/-- A key that was not held before is added last. -/
theorem addedAt_length (absent : lastValue history key = none)
    (held : lastValue (history ++ [change]) key ≠ none) :
    AddedAt (history ++ [change]) key history.length := by
  refine ⟨?_, fun later after => ?_⟩
  · rw [List.take_left]
    exact absent
  · rw [List.take_of_length_le (by simp; omega)]
    exact held

theorem exists_addedAt (held : lastValue history key ≠ none) :
    ∃ place, AddedAt history key place := by
  induction history using List.reverseRecOn with
  | nil => exact absurd rfl held
  | append_singleton earlier change ih =>
      by_cases before : lastValue earlier key = none
      · exact ⟨_, addedAt_length before held⟩
      · obtain ⟨place, added⟩ := ih before
        exact ⟨place, added.concat held⟩

theorem AddedBefore.concat (before : AddedBefore history first next)
    (heldFirst : lastValue (history ++ [change]) first ≠ none)
    (heldNext : lastValue (history ++ [change]) next ≠ none) :
    AddedBefore (history ++ [change]) first next := by
  obtain ⟨i, j, lt, addedFirst, addedNext⟩ := before
  exact ⟨i, j, lt, addedFirst.concat heldFirst, addedNext.concat heldNext⟩

/-- No key is held for longer than it is held. -/
theorem AddedBefore.ne (before : AddedBefore history first next) : first ≠ next := by
  rintro rfl
  obtain ⟨i, j, lt, added, again⟩ := before
  exact added.2 j lt again.1

/-!
## The dictionary of a history
-/

namespace Reflects

/-- No key stands twice. -/
theorem nodup (h : d.Reflects history) : d.keys.Nodup := h.order.imp AddedBefore.ne

theorem mem_keys_iff (h : d.Reflects history) : key ∈ d.keys ↔ lastValue history key ≠ none := by
  rw [← h.get?_eq, Ne, get?_eq_none_iff, not_not]

theorem empty : (Dict.empty : Dict α).Reflects [] := ⟨fun _ => rfl, .nil⟩

/-- The keys that are held after a change keep their order. -/
theorem order_concat (h : d.Reflects history) {kept : List String} (sub : kept.Sublist d.keys)
    (held : ∀ key ∈ kept, lastValue (history ++ [change]) key ≠ none) :
    kept.Pairwise (AddedBefore (history ++ [change])) :=
  (h.order.sublist sub).imp_of_mem fun memFirst memNext before =>
    before.concat (held _ memFirst) (held _ memNext)

theorem concat (h : d.Reflects history) (change : Change α) :
    (change.apply d).Reflects (history ++ [change]) := by
  have get?_eq (key : String) :
      (change.apply d).get? key = lastValue (history ++ [change]) key := by
    rw [Change.get?_apply, lastValue_concat, h.get?_eq]
  have held {key : String} (mem : key ∈ (change.apply d).keys) :
      lastValue (history ++ [change]) key ≠ none := by
    rw [← get?_eq]
    exact fun absent => get?_eq_none_iff.1 absent mem
  refine ⟨get?_eq, ?_⟩
  cases change with
  | put key value =>
      have keys : (Change.apply d (.put key value)).keys =
          if key ∈ d.keys then d.keys else d.keys ++ [key] := keys_insert d key value
      by_cases there : key ∈ d.keys
      · rw [if_pos there] at keys
        rw [keys] at held ⊢
        exact h.order_concat (.refl _) fun _ => held
      · rw [if_neg there] at keys
        rw [keys] at held ⊢
        refine List.pairwise_append.2 ⟨?_, List.pairwise_singleton _ _, ?_⟩
        · exact h.order_concat (.refl _) fun _ mem => held (List.mem_append_left _ mem)
        · intro older mem new new_mem
          obtain rfl := List.mem_singleton.1 new_mem
          obtain ⟨place, added⟩ := exists_addedAt (h.mem_keys_iff.1 mem)
          have absent : lastValue history new = none := by
            rw [← h.get?_eq]
            exact get?_eq_none_iff.2 there
          have holds := held (List.mem_append_left _ mem)
          have holdsNew := held (List.mem_append_right _ new_mem)
          exact ⟨place, history.length, added.lt_length, added.concat holds,
            addedAt_length absent holdsNew⟩
  | drop key =>
      have keys : (Change.apply d (.drop key)).keys = d.keys.filter (· != key) := keys_erase d key
      rw [keys] at held ⊢
      exact h.order_concat List.filter_sublist fun _ => held
  | clear => exact .nil

theorem applyAll (h : d.Reflects history) (changes : List (Change α)) :
    (d.applyAll changes).Reflects (history ++ changes) := by
  induction changes generalizing d history with
  | nil =>
      rw [List.append_nil]
      exact h
  | cons change rest ih =>
      rw [List.append_cons]
      exact ih (h.concat change)

end Reflects

/-!
## Particular changes
-/

/-- Entries are put one after another. -/
def puts (entries : List (String × α)) : List (Change α) :=
  entries.map fun entry => .put entry.1 entry.2

theorem applyAll_puts (entries : List (String × α)) :
    (empty : Dict α).applyAll (puts entries) = ofList entries := by
  rw [applyAll, puts, List.foldl_map]
  rfl

/-- Dropping keys leaves the entries of the others. -/
theorem applyAll_drops (d : Dict α) (keys : List String) :
    d.applyAll (keys.map .drop) = d.filter fun key _ => !keys.contains key := by
  induction keys generalizing d with
  | nil => exact Dict.ext (List.filter_eq_self.2 fun _ _ => rfl).symm
  | cons first rest ih =>
      refine (ih (d.erase first)).trans (Dict.ext ?_)
      simp only [erase, filter, List.filter_filter]
      refine List.filter_congr fun entry _ => ?_
      rw [List.contains_cons, Bool.not_or, Bool.and_comm]
      rfl

end LiveRecord.Dict
