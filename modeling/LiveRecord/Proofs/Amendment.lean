import LiveRecord.Proofs.DateColumns

/-!
# Changing columns one after another

Writing the dates of a row and decoding its columns are the same kind of walk: a list of columns is
gone through, and the value of each, if the row has one, is replaced by what a function makes of it,
which may fail. `Dict.amendAll` is that walk. It keeps the columns of the row and their order, leaves
every column alone that is not on the list, and does not look at other columns than the one whose turn
it is. A column on the list for the first time still holds its old value then, whether the walk gets
through or fails there.
-/

namespace LiveRecord

namespace Dict

variable {α ε : Type} {d d' : Dict α} {key other : String}

theorem erase_insert_self (d : Dict α) (key : String) (value : α) :
    (d.insert key value).erase key = d.erase key := by
  refine eq_of_get? ?_ fun name => ?_
  · rw [keys_erase, keys_erase, keys_insert]
    split
    · rfl
    · simp
  · rw [get?_erase, get?_erase, get?_insert]
    split
    · rfl
    · next ne => rw [if_neg (Ne.symm ne)]

theorem erase_insert_of_ne (d : Dict α) (value : α) (ne : other ≠ key) :
    (d.insert other value).erase key = (d.erase key).insert other value := by
  refine eq_of_get? ?_ fun name => ?_
  · rw [keys_erase, keys_insert, keys_insert, keys_erase]
    by_cases there : other ∈ d.keys
    · rw [if_pos there, if_pos (List.mem_filter.2 ⟨there, by simpa using ne⟩)]
    · rw [if_neg there, if_neg fun mem => there (List.mem_filter.1 mem).1]
      simp [ne]
  · rw [get?_erase, get?_insert, get?_insert, get?_erase]
    by_cases same : name = key
    · rw [if_pos same, if_pos same, if_neg fun h => ne (h.trans same)]
    · rw [if_neg same, if_neg same]

theorem erase_filter (d : Dict α) (keep : String → α → Bool) (key : String) :
    (d.erase key).filter keep = (d.filter keep).erase key := by
  refine Dict.ext ?_
  simp [erase, filter, List.filter_filter, Bool.and_comm]

/-- Replace the value under a key, if there is one, by what a function makes of it. -/
def amend (d : Dict α) (change : String → α → Except ε α) (key : String) : Except ε (Dict α) :=
  match d.get? key with
  | none => .ok d
  | some v => (change key v).map (d.insert key)

/-- Replace the values under some keys, one after another. -/
def amendAll (d : Dict α) (change : String → α → Except ε α) (keys : List String) :
    Except ε (Dict α) := keys.foldlM (amend · change) d

variable {change : String → α → Except ε α} {keys : List String} {v w : α} {e : ε}

/-! ## One key -/

theorem amend_of_none (absent : d.get? key = none) : d.amend change key = .ok d := by
  rw [amend, absent]

theorem amend_of_some (held : d.get? key = some v) :
    d.amend change key = (change key v).map (d.insert key) := by
  rw [amend, held]

/-- A step that gets through has found nothing, or has replaced the value that it found. -/
theorem eq_of_amend (h : d.amend change key = .ok d') :
    (d.get? key = none ∧ d' = d) ∨
      ∃ v w, d.get? key = some v ∧ change key v = .ok w ∧ d' = d.insert key w := by
  cases held : d.get? key with
  | none =>
      rw [amend_of_none held] at h
      exact .inl ⟨rfl, (Except.ok.inj h).symm⟩
  | some v =>
      rw [amend_of_some held] at h
      obtain ⟨w, changed, rfl⟩ := Except.exists_of_map_eq_ok h
      exact .inr ⟨v, w, rfl, changed, rfl⟩

theorem keys_of_amend (h : d.amend change key = .ok d') : d'.keys = d.keys := by
  obtain ⟨-, rfl⟩ | ⟨v, w, held, -, rfl⟩ := eq_of_amend h
  · rfl
  · rw [keys_insert, if_pos (mem_keys_of_get? held)]

/-- A value is replaced by what the function makes of it. -/
theorem get?_of_amend (h : d.amend change key = .ok d') (held : d.get? key = some v) :
    ∃ w, change key v = .ok w ∧ d'.get? key = some w := by
  obtain ⟨absent, -⟩ | ⟨v', w, held', changed, rfl⟩ := eq_of_amend h
  · cases absent.symm.trans held
  · cases held.symm.trans held'
    exact ⟨w, changed, get?_insert_self d key w⟩

theorem get?_of_amend_of_ne (h : d.amend change key = .ok d') (ne : key ≠ other) :
    d'.get? other = d.get? other := by
  obtain ⟨-, rfl⟩ | ⟨v, w, -, -, rfl⟩ := eq_of_amend h
  · rfl
  · exact get?_insert_of_ne d w ne

/-- Only a value can fail to be replaced. -/
theorem exists_of_amend_error (h : d.amend change key = .error e) :
    ∃ v, d.get? key = some v ∧ change key v = .error e := by
  cases held : d.get? key with
  | none =>
      rw [amend_of_none held] at h
      cases h
  | some v =>
      rw [amend_of_some held] at h
      exact ⟨v, rfl, Except.of_map_eq_error h⟩

/-- Replacing a value does not look at other keys. -/
theorem amend_erase (ne : other ≠ key) :
    (d.erase key).amend change other = (d.amend change other).map (·.erase key) := by
  have same : (d.erase key).get? other = d.get? other := by rw [get?_erase, if_neg ne]
  cases held : d.get? other with
  | none => rw [amend_of_none held, amend_of_none (same.trans held)]; rfl
  | some v =>
      rw [amend_of_some held, amend_of_some (same.trans held)]
      cases change other v with
      | error e => rfl
      | ok w => exact congrArg Except.ok (erase_insert_of_ne d w ne).symm

/-! ## Several keys -/

theorem amendAll_cons (key : String) (keys : List String) :
    d.amendAll change (key :: keys) = (d.amend change key).bind (·.amendAll change keys) := by
  rw [amendAll, List.foldlM_cons]
  rfl

/-- A walk that gets through gets through its first step. -/
theorem of_amendAll_cons (h : d.amendAll change (key :: keys) = .ok d') :
    ∃ mid, d.amend change key = .ok mid ∧ mid.amendAll change keys = .ok d' := by
  rw [amendAll_cons] at h
  exact Except.exists_of_bind_eq_ok h

theorem keys_of_amendAll (h : d.amendAll change keys = .ok d') : d'.keys = d.keys := by
  induction keys generalizing d with
  | nil =>
      cases h
      rfl
  | cons key keys ih =>
      obtain ⟨mid, first, rest⟩ := of_amendAll_cons h
      rw [ih rest, keys_of_amend first]

theorem get?_of_amendAll (absent : key ∉ keys) (h : d.amendAll change keys = .ok d') :
    d'.get? key = d.get? key := by
  induction keys generalizing d with
  | nil =>
      cases h
      rfl
  | cons first rest ih =>
      obtain ⟨mid, changed, walked⟩ := of_amendAll_cons h
      rw [ih (List.not_mem_of_not_mem_cons absent) walked,
        get?_of_amend_of_ne changed (List.ne_of_not_mem_cons absent).symm]

/-! ## The value of one key -/

/-- What the walk makes of the value under one key, whatever it does to the others. -/
def carry (change : String → α → Except ε α) (key : String) : List String → α → Except ε α
  | [], v => .ok v
  | first :: rest, v =>
    if first = key then (change key v).bind (carry change key rest) else carry change key rest v

theorem carry_cons_self (keys : List String) (v : α) :
    carry change key (key :: keys) v = (change key v).bind (carry change key keys) := if_pos rfl

theorem carry_cons_of_ne (ne : other ≠ key) (keys : List String) (v : α) :
    carry change key (other :: keys) v = carry change key keys v := if_neg ne

/-- A value that is left alone wherever its turn comes is kept. -/
theorem carry_of_fixed (fixed : key ∈ keys → change key v = .ok v) :
    carry change key keys v = .ok v := by
  induction keys with
  | nil => rfl
  | cons first rest ih =>
      have rest_kept := ih fun mem => fixed (List.mem_cons_of_mem first mem)
      by_cases same : first = key
      · subst same
        rw [carry_cons_self, fixed List.mem_cons_self]
        exact rest_kept
      · rw [carry_cons_of_ne same, rest_kept]

/-- The value of a key on the list is changed once and for all, if there is one turn only or a
changed value is left alone. -/
theorem carry_of_mem (mem : key ∈ keys)
    (settled : 2 ≤ keys.count key → ∀ w, change key v = .ok w → change key w = .ok w) :
    carry change key keys v = change key v := by
  induction keys with
  | nil => cases mem
  | cons first rest ih =>
      by_cases same : first = key
      · subst same
        rw [carry_cons_self]
        cases changed : change first v with
        | error e => rfl
        | ok w =>
            refine carry_of_fixed fun again => settled ?_ w changed
            rw [List.count_cons_self]
            have twice := List.count_pos_iff.2 again
            omega
      · rw [List.count_cons_of_ne same] at settled
        rw [carry_cons_of_ne same]
        exact ih ((List.mem_cons.1 mem).resolve_left (Ne.symm same)) settled

theorem carry_of_once (once : keys.count key = 1) (v : α) :
    carry change key keys v = change key v :=
  carry_of_mem (List.count_pos_iff.1 (by omega)) fun twice => by omega

/-- A walk that gets through leaves under a key what it makes of the value there. -/
theorem get?_of_amendAll_carry (h : d.amendAll change keys = .ok d') (held : d.get? key = some v) :
    ∃ w, carry change key keys v = .ok w ∧ d'.get? key = some w := by
  induction keys generalizing d v with
  | nil =>
      cases h
      exact ⟨v, rfl, held⟩
  | cons first rest ih =>
      obtain ⟨mid, stepped, walked⟩ := of_amendAll_cons h
      by_cases same : first = key
      · subst same
        obtain ⟨w, changed, there⟩ := get?_of_amend stepped held
        rw [carry_cons_self, changed]
        exact ih walked there
      · rw [carry_cons_of_ne same]
        exact ih walked ((get?_of_amend_of_ne stepped same).trans held)

/-- Without a key whose value gets through, the walk comes to the same without the key. -/
theorem amendAll_erase_of_carry (held : d.get? key = some v)
    (carried : carry change key keys v = .ok w) :
    (d.erase key).amendAll change keys = (d.amendAll change keys).map (·.erase key) := by
  induction keys generalizing d v with
  | nil => rfl
  | cons first rest ih =>
      rw [amendAll_cons, amendAll_cons]
      by_cases same : first = key
      · subst same
        rw [carry_cons_self] at carried
        obtain ⟨u, changed, carried⟩ := Except.exists_of_bind_eq_ok carried
        have gone : (d.erase first).get? first = none := by rw [get?_erase, if_pos rfl]
        rw [amend_of_none gone, amend_of_some held, changed]
        show (d.erase first).amendAll change rest =
          ((d.insert first u).amendAll change rest).map (·.erase first)
        rw [← ih (get?_insert_self d first u) carried, erase_insert_self]
      · rw [carry_cons_of_ne same] at carried
        rw [amend_erase same]
        cases stepped : d.amend change first with
        | error e => rfl
        | ok mid => exact ih ((get?_of_amend_of_ne stepped same).trans held) carried

theorem amendAll_empty : (empty : Dict α).amendAll change keys = .ok empty := by
  induction keys with
  | nil => rfl
  | cons first rest ih =>
      rw [amendAll_cons, amend_of_none (get?_empty first)]
      exact ih

theorem eq_ofList_of_keys (alone : d.keys = [key]) (held : d.get? key = some v) :
    d = ofList [(key, v)] := by
  refine eq_of_get? alone fun name => ?_
  rw [show (ofList [(key, v)]).get? name = if key = name then some v else none from
    get?_insert empty key name v]
  split
  · next same => rw [← same, held]
  · next ne =>
    rw [get?_eq_none_iff, alone]
    exact fun mem => ne (List.mem_singleton.1 mem).symm

/-- A walk over a dictionary of one entry takes its value through. -/
theorem amendAll_ofList_singleton : (ofList [(key, v)]).amendAll change keys =
    (carry change key keys v).map fun w => ofList [(key, w)] := by
  induction keys generalizing v with
  | nil => rfl
  | cons first rest ih =>
      have held : (ofList [(key, v)]).get? first = if key = first then some v else none :=
        get?_insert empty key first v
      rw [amendAll_cons]
      by_cases same : first = key
      · subst same
        rw [if_pos rfl] at held
        rw [carry_cons_self, amend_of_some held]
        cases change first v with
        | error e => rfl
        | ok w =>
            have replaced : (ofList [(first, v)]).insert first w = ofList [(first, w)] :=
              Dict.ext (by simp [ofList, insert, empty, Entries.assign])
            show ((ofList [(first, v)]).insert first w).amendAll change rest = _
            rw [replaced]
            exact ih
      · rw [if_neg (Ne.symm same)] at held
        rw [carry_cons_of_ne same, amend_of_none held]
        exact ih

/-- A key that is on the list once is replaced once. -/
theorem get?_of_amendAll_once (once : keys.count key = 1) (h : d.amendAll change keys = .ok d')
    (held : d.get? key = some v) : ∃ w, change key v = .ok w ∧ d'.get? key = some w := by
  obtain ⟨w, carried, there⟩ := get?_of_amendAll_carry h held
  exact ⟨w, (carry_of_once once v).symm.trans carried, there⟩

/-- A walk that fails has failed at the value of one key on the list. It is the value that the key had
in the beginning, unless the walk has come by that key before. -/
theorem exists_of_amendAll_error (h : d.amendAll change keys = .error e) :
    ∃ key v, key ∈ keys ∧ key ∈ d.keys ∧ change key v = .error e ∧
      (keys.count key ≤ 1 → d.get? key = some v) := by
  induction keys generalizing d with
  | nil => cases h
  | cons first rest ih =>
      rw [amendAll_cons] at h
      obtain failed | ⟨mid, changed, h⟩ := Except.of_bind_eq_error h
      · obtain ⟨v, held, failed⟩ := exists_of_amend_error failed
        exact ⟨first, v, List.mem_cons_self, mem_keys_of_get? held, failed, fun _ => held⟩
      · obtain ⟨key, v, mem, there, failed, held⟩ := ih h
        rw [keys_of_amend changed] at there
        refine ⟨key, v, List.mem_cons_of_mem first mem, there, failed, ?_⟩
        intro once
        have fresh : first ≠ key := by
          rintro rfl
          rw [List.count_cons_self] at once
          have again := List.count_pos_iff.2 mem
          omega
        rw [List.count_cons_of_ne fresh] at once
        rw [← get?_of_amend_of_ne changed fresh]
        exact held once

end Dict

namespace Projection

variable (p : Projection)

theorem writeDates_eq_amendAll (keys : List String) (row : Row) :
    p.writeDates keys row = row.amendAll p.written keys := by
  have step (key : String) (row : Row) : p.writeDate key row = row.amend p.written key := by
    rw [writeDate_eq]
    cases held : row.get? key with
    | none => rw [Dict.amend_of_none held]; rfl
    | some v =>
        rw [Dict.amend_of_some held, visit]
        cases p.written key v <;> rfl
  simp only [writeDates, Dict.amendAll, step]

theorem decodeColumns_eq_amendAll (keys : List String) (row : Row) :
    p.decodeColumns keys row = row.amendAll p.schema.decode keys := by
  have step (key : String) (row : Row) :
      p.decodeColumn key row = row.amend p.schema.decode key := by
    rw [decodeColumn, Dict.amend]
    cases row.get? key <;> rfl
  simp only [decodeColumns, Dict.amendAll, step]

/-- What is shown comes from two walks: one over the date columns, one over the columns with a
cast. -/
theorem apply_eq_amendAll (a : Attributes) :
    p.apply a = ((p.shown a).amendAll p.written p.schema.dateColumns).bind
      (·.amendAll p.schema.decode (p.schema.casts.map Prod.fst)) := by
  simp only [← writeDates_eq_amendAll, ← decodeColumns_eq_amendAll]
  rfl

variable {p} {key : String} {stored dated decoded : Value} {a : Attributes}

/-- A shown column whose value gets through both walks is shown as they leave it, and what is shown
besides it does not depend on it. -/
theorem apply_of_carry (there : a.current.get? key = some stored) (shows : p.shows key = true)
    (dates : Dict.carry p.written key p.schema.dateColumns stored = .ok dated)
    (decodes : Dict.carry p.schema.decode key (p.schema.casts.map Prod.fst) dated = .ok decoded) :
    (p.apply a).map (·.erase key) = p.apply { a with current := a.current.erase key } ∧
      ∀ row, p.apply a = .ok row → row.get? key = some decoded := by
  have held : (p.shown a).get? key = some stored := by
    rw [shown, Dict.get?_filter, there, Option.filter_some, shows]
    rfl
  have without : p.shown { a with current := a.current.erase key } = (p.shown a).erase key :=
    Dict.erase_filter _ _ _
  rw [apply_eq_amendAll, apply_eq_amendAll, without, Dict.amendAll_erase_of_carry held dates]
  cases first : (p.shown a).amendAll p.written p.schema.dateColumns with
  | error e =>
      refine ⟨rfl, fun row h => ?_⟩
      cases h
  | ok row =>
      obtain ⟨dated', carried, held⟩ := Dict.get?_of_amendAll_carry first held
      cases dates.symm.trans carried
      refine ⟨(Dict.amendAll_erase_of_carry held decodes).symm, fun row' second => ?_⟩
      obtain ⟨decoded', carried, held⟩ := Dict.get?_of_amendAll_carry second held
      cases decodes.symm.trans carried
      exact held

theorem apply_of_hidden (hides : p.shows key = false) (alone : a.current = .ofList [(key, stored)]) :
    p.apply a = .ok .empty := by
  have nothing : p.shown a = .empty := by
    refine Dict.ext ?_
    simp [shown, alone, Dict.filter, Dict.ofList, Dict.insert, Dict.empty, Entries.assign, hides]
  rw [apply_eq_amendAll, nothing, Dict.amendAll_empty]
  exact Dict.amendAll_empty

/-- What is shown of a record with one attribute. -/
theorem apply_ofList_singleton (shows : p.shows key = true)
    (alone : a.current = .ofList [(key, stored)]) :
    p.apply a = ((Dict.carry p.written key p.schema.dateColumns stored).bind
      (Dict.carry p.schema.decode key (p.schema.casts.map Prod.fst))).map
        fun shown => .ofList [(key, shown)] := by
  have all : p.shown a = .ofList [(key, stored)] := by
    refine Dict.ext ?_
    simp [shown, alone, Dict.filter, Dict.ofList, Dict.insert, Dict.empty, Entries.assign, shows]
  rw [apply_eq_amendAll, all, Dict.amendAll_ofList_singleton]
  cases Dict.carry p.written key p.schema.dateColumns stored with
  | error e => rfl
  | ok dated => exact Dict.amendAll_ofList_singleton

end Projection

end LiveRecord
