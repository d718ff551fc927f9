/-!
# Insertion-ordered dictionaries

A dictionary is a list of entries with distinct keys. Its observable content is the
look-up function `get?` together with the key list `keys`: assigning to a present key
keeps the place of that key, a new key goes last, and erasing keeps the remaining order.
Distinctness of the keys is part of the type, so no operation needs it as a premise.
-/

namespace LiveRecord

universe u v

namespace Entries

variable {α : Type u}

/-- The value held under `key`, from the first entry with that key. -/
def lookup (key : String) : List (String × α) → Option α
  | [] => none
  | (name, value) :: rest => if name = key then some value else lookup key rest

/-- Overwrite the value of `key` in place, or append a new entry. -/
def assign (key : String) (value : α) : List (String × α) → List (String × α)
  | [] => [(key, value)]
  | (name, old) :: rest =>
    if name = key then (name, value) :: rest else (name, old) :: assign key value rest

/-- The keys, in order. -/
def keys (entries : List (String × α)) : List String :=
  entries.map Prod.fst

/-- The keys after an assignment: unchanged if the key was present, else one more. -/
theorem keys_assign (key : String) (value : α) (entries : List (String × α)) :
    keys (assign key value entries) =
      if key ∈ keys entries then keys entries else keys entries ++ [key] := by
  induction entries with
  | nil => simp [assign, keys]
  | cons entry rest ih =>
    obtain ⟨name, old⟩ := entry
    by_cases h : name = key
    · simp [assign, keys, h]
    · have hne : ¬ key = name := fun e => h e.symm
      simp only [keys] at ih
      simp only [assign, h, if_false, keys, List.map_cons, List.mem_cons, hne, false_or, ih]
      split <;> simp [*]

/-- A new key goes last. -/
theorem assign_of_not_mem {key : String} {value : α} {entries : List (String × α)}
    (fresh : key ∉ keys entries) : assign key value entries = entries ++ [(key, value)] := by
  induction entries with
  | nil => rfl
  | cons entry rest ih =>
    obtain ⟨name, old⟩ := entry
    obtain ⟨other, fresh⟩ : ¬ key = name ∧ key ∉ keys rest :=
      not_or.1 (mt List.mem_cons.2 fresh)
    rw [assign, if_neg (Ne.symm other), ih fresh, List.cons_append]

theorem nodup_keys_assign (key : String) (value : α) {entries : List (String × α)}
    (h : (keys entries).Nodup) : (keys (assign key value entries)).Nodup := by
  rw [keys_assign]
  split
  · exact h
  · next hne =>
    rw [List.nodup_append]
    refine ⟨h, by simp, ?_⟩
    intro a ha b hb
    simp only [List.mem_singleton] at hb
    rintro rfl
    exact hne (hb ▸ ha)

@[simp] theorem lookup_nil (key : String) : lookup key ([] : List (String × α)) = none := rfl

theorem lookup_assign (key other : String) (value : α) (entries : List (String × α)) :
    lookup other (assign key value entries) =
      if key = other then some value else lookup other entries := by
  induction entries with
  | nil => simp [assign, lookup]
  | cons entry rest ih =>
    obtain ⟨name, old⟩ := entry
    by_cases h : name = key
    · subst h
      by_cases ho : name = other <;> simp [assign, lookup, ho]
    · by_cases ho : name = other
      · subst ho
        have hk : ¬ key = name := fun e => h e.symm
        simp [assign, lookup, h, hk]
      · simp [assign, lookup, h, ho, ih]

theorem lookup_eq_none_iff {key : String} {entries : List (String × α)} :
    lookup key entries = none ↔ key ∉ keys entries := by
  induction entries with
  | nil => simp [keys]
  | cons entry rest ih =>
    obtain ⟨name, old⟩ := entry
    by_cases h : name = key
    · simp [lookup, keys, h]
    · have hne : ¬ key = name := fun e => h e.symm
      simp only [keys] at ih
      simp [lookup, keys, h, ih, hne]

/-- With distinct keys, looking up finds exactly the entries of the list. -/
theorem lookup_eq_some_iff {key : String} {value : α} {entries : List (String × α)}
    (h : (keys entries).Nodup) : lookup key entries = some value ↔ (key, value) ∈ entries := by
  induction entries with
  | nil => simp
  | cons entry rest ih =>
    obtain ⟨name, old⟩ := entry
    simp only [keys, List.map_cons, List.nodup_cons] at h
    by_cases hk : name = key
    · subst hk
      have habs : ∀ v, (name, v) ∉ rest := fun v hv => h.1 (List.mem_map_of_mem hv)
      simp [lookup, habs, eq_comm]
    · have hne : ¬ key = name := fun e => hk e.symm
      simp [lookup, hk, hne, ih h.2]

/-- With distinct keys, an entry list is known by its keys and its look-ups. -/
theorem eq_of_lookup {entries others : List (String × α)} (h : (keys entries).Nodup)
    (same : keys entries = keys others) (get : ∀ key, lookup key entries = lookup key others) :
    entries = others := by
  induction entries generalizing others with
  | nil => exact (List.map_eq_nil_iff.1 same.symm).symm
  | cons entry rest ih =>
    obtain ⟨name, value⟩ := entry
    cases others with
    | nil => cases same
    | cons other others =>
      obtain ⟨otherName, otherValue⟩ := other
      obtain ⟨rfl, tails⟩ : name = otherName ∧ keys rest = keys others := List.cons.inj same
      obtain ⟨fresh, distinct⟩ : name ∉ keys rest ∧ (keys rest).Nodup := List.nodup_cons.1 h
      have heads : value = otherValue := by simpa [lookup] using get name
      rw [heads, ih distinct tails fun key => ?_]
      by_cases hk : name = key
      · subst hk
        rw [lookup_eq_none_iff.2 fresh, lookup_eq_none_iff.2 (tails ▸ fresh)]
      · simpa [lookup, hk] using get key

theorem nodup_keys_filter (keep : String × α → Bool) {entries : List (String × α)}
    (h : (keys entries).Nodup) : (keys (entries.filter keep)).Nodup :=
  (List.Sublist.map Prod.fst List.filter_sublist).nodup h

/-- A filter that looks at keys only acts on the look-up pointwise. -/
theorem lookup_filter_key (keep : String → Bool) (key : String) (entries : List (String × α)) :
    lookup key (entries.filter fun entry => keep entry.1) =
      if keep key then lookup key entries else none := by
  induction entries with
  | nil => simp
  | cons entry rest ih =>
    obtain ⟨name, old⟩ := entry
    by_cases hk : name = key
    · subst hk
      by_cases hp : keep name = true
      · simp [lookup, hp]
      · simp [hp, ih]
    · by_cases hp : keep name = true
      · simp [lookup, hp, hk, ih]
      · simp [lookup, hp, hk, ih]

end Entries

/-- A dictionary from texts to `α` that remembers the order in which keys were added. -/
structure Dict (α : Type u) where
  /-- The entries, oldest key first. -/
  entries : List (String × α)
  /-- No key occurs twice. -/
  nodup : (Entries.keys entries).Nodup

namespace Dict

variable {α : Type u}

@[ext] theorem ext {d e : Dict α} (h : d.entries = e.entries) : d = e := by
  cases d
  cases e
  cases h
  rfl

/-- The dictionary without entries. -/
def empty : Dict α := ⟨[], List.nodup_nil⟩

instance : EmptyCollection (Dict α) := ⟨empty⟩

instance : Inhabited (Dict α) := ⟨empty⟩

/-- The keys, in the order in which they were first added. -/
def keys (d : Dict α) : List String := Entries.keys d.entries

/-- The value under `key`, if there is one. -/
def get? (d : Dict α) (key : String) : Option α := Entries.lookup key d.entries

/-- Is there an entry for `key`? -/
def contains (d : Dict α) (key : String) : Bool := (d.get? key).isSome

/-- The number of entries. -/
def size (d : Dict α) : Nat := d.entries.length

/-- Has the dictionary no entries? -/
def isEmpty (d : Dict α) : Bool := d.entries.isEmpty

/-- Hold `value` under `key`: a present key keeps its place, a new key goes last. -/
def insert (d : Dict α) (key : String) (value : α) : Dict α :=
  ⟨Entries.assign key value d.entries, Entries.nodup_keys_assign key value d.nodup⟩

/-- Drop the entries that `keep` refuses. -/
def filter (d : Dict α) (keep : String → α → Bool) : Dict α :=
  ⟨d.entries.filter fun entry => keep entry.1 entry.2, Entries.nodup_keys_filter _ d.nodup⟩

/-- Drop the entry of `key`; the other entries keep their order. -/
def erase (d : Dict α) (key : String) : Dict α :=
  d.filter fun name _ => name != key

/-- Hold the entries of a list, added one after another: a repeated key keeps its first place
and its last value. -/
def ofList (entries : List (String × α)) : Dict α :=
  entries.foldl (fun d entry => d.insert entry.1 entry.2) empty

/-- Rename every key, adding the renamed entries one after another. -/
def mapKeys (d : Dict α) (rename : String → String) : Dict α :=
  ofList (d.entries.map fun entry => (rename entry.1, entry.2))

/-- Do both dictionaries have the same keys, with values that `same` relates? Order does not
matter. -/
def agrees (same : α → α → Bool) (d e : Dict α) : Bool :=
  d.size == e.size && d.entries.all fun entry =>
    match e.get? entry.1 with
    | some other => same entry.2 other
    | none => false

@[simp] theorem get?_empty (key : String) : (empty : Dict α).get? key = none := rfl

@[simp] theorem keys_empty : (empty : Dict α).keys = [] := rfl

theorem nodup_keys (d : Dict α) : d.keys.Nodup := d.nodup

theorem get?_insert (d : Dict α) (key other : String) (value : α) :
    (d.insert key value).get? other = if key = other then some value else d.get? other :=
  Entries.lookup_assign key other value d.entries

@[simp] theorem get?_insert_self (d : Dict α) (key : String) (value : α) :
    (d.insert key value).get? key = some value := by
  simp [get?_insert]

theorem get?_insert_of_ne (d : Dict α) {key other : String} (value : α) (h : key ≠ other) :
    (d.insert key value).get? other = d.get? other := by
  simp [get?_insert, h]

theorem keys_insert (d : Dict α) (key : String) (value : α) :
    (d.insert key value).keys = if key ∈ d.keys then d.keys else d.keys ++ [key] :=
  Entries.keys_assign key value d.entries

theorem get?_eq_none_iff {d : Dict α} {key : String} : d.get? key = none ↔ key ∉ d.keys :=
  Entries.lookup_eq_none_iff

theorem get?_eq_some_iff {d : Dict α} {key : String} {value : α} :
    d.get? key = some value ↔ (key, value) ∈ d.entries :=
  Entries.lookup_eq_some_iff d.nodup

/-- A dictionary is known by its keys and its look-ups. -/
theorem eq_of_get? {d e : Dict α} (same : d.keys = e.keys)
    (get : ∀ key, d.get? key = e.get? key) : d = e :=
  Dict.ext (Entries.eq_of_lookup d.nodup same get)

theorem mem_keys_of_get? {d : Dict α} {key : String} {value : α} (held : d.get? key = some value) :
    key ∈ d.keys :=
  List.mem_map_of_mem (get?_eq_some_iff.1 held)

/-- Assigning the value that is held changes nothing. -/
theorem insert_of_get? {d : Dict α} {key : String} {value : α} (held : d.get? key = some value) :
    d.insert key value = d := by
  refine eq_of_get? (by rw [keys_insert, if_pos (mem_keys_of_get? held)]) fun other => ?_
  rw [get?_insert]
  split
  · next same => rw [← same, held]
  · rfl

theorem contains_iff {d : Dict α} {key : String} : d.contains key = true ↔ key ∈ d.keys := by
  rw [contains, Option.isSome_iff_ne_none, ne_eq, get?_eq_none_iff, Decidable.not_not]

theorem isEmpty_iff {d : Dict α} : d.isEmpty = true ↔ ∀ key, d.get? key = none := by
  constructor
  · intro h key
    rw [isEmpty, List.isEmpty_iff] at h
    rw [get?, h, Entries.lookup_nil]
  · intro h
    rw [isEmpty, List.isEmpty_iff, List.eq_nil_iff_forall_not_mem]
    rintro ⟨key, value⟩ mem
    rw [← get?_eq_some_iff, h key] at mem
    cases mem

/-- Looking up in what a filter keeps is looking up first and filtering then. -/
theorem get?_filter (d : Dict α) (keep : String → α → Bool) (key : String) :
    (d.filter keep).get? key = (d.get? key).filter (keep key) := by
  refine Option.ext fun value => ?_
  rw [get?_eq_some_iff, filter, List.mem_filter, ← get?_eq_some_iff, Option.filter_eq_some_iff]

theorem get?_erase (d : Dict α) (key other : String) :
    (d.erase key).get? other = if other = key then none else d.get? other := by
  have h := Entries.lookup_filter_key (fun name => name != key) other d.entries
  have hb : (other != key) = !decide (other = key) := by simp [bne, BEq.beq]
  simp only [erase, filter, get?, h, hb]
  by_cases he : other = key <;> simp [he]

theorem keys_erase (d : Dict α) (key : String) :
    (d.erase key).keys = d.keys.filter (· != key) := by
  simp [erase, filter, keys, Entries.keys, List.filter_map, Function.comp_def]

end Dict

end LiveRecord
