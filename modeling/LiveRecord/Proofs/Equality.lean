import LiveRecord.Attributes
import Mathlib

/-!
# Equality of values

`Value.same` compares values as the record layer does. It is symmetric and transitive, and the
only values that differ from themselves are the binary64 numbers that are no number. A value
therefore agrees with another, being identical or equal, in an equivalence relation: this is the
sense in which a snapshot agrees with the row of the database.

Documents are compared by recursion on the first tree. An object has as many members as the
object that it is compared with and its keys are distinct, so both have the same keys.
-/

namespace LiveRecord

namespace Entries

variable {α : Type*}

theorem mem_of_lookup {key : String} {value : α} {entries : List (String × α)}
    (h : lookup key entries = some value) : (key, value) ∈ entries := by
  induction entries with
  | nil => simp at h
  | cons entry rest ih =>
      obtain ⟨name, old⟩ := entry
      by_cases hk : name = key
      · simp only [lookup, hk, if_true, Option.some.injEq] at h
        simp [hk, h]
      · simp only [lookup, hk, if_false] at h
        exact List.mem_cons_of_mem _ (ih h)

/-- A list of distinct keys that are all found in a list of no more keys has all of them. -/
theorem mem_keys_of_subset {xs : List (String × α)} {ys : List (String × α)}
    (distinct : (keys xs).Nodup) (found : ∀ key ∈ keys xs, key ∈ keys ys)
    (size : xs.length = ys.length) {key : String} (h : key ∈ keys ys) : key ∈ keys xs := by
  have short : (keys ys).length ≤ (keys xs).length := by simp [keys, size]
  exact ((List.subperm_of_subset distinct found).perm_of_length_le short).mem_iff.2 h

end Entries

namespace Json

theorem Number.same_self (n : Number) : n.same n = true := by
  cases n with
  | integer n => simp [Number.same]
  | real x =>
      refine Float.beq_self_iff.2 fun isNaN => ?_
      have finite := x.finite
      rw [isNaN] at finite
      exact absurd finite (by decide)

theorem Number.same_symm {m n : Number} (h : m.same n = true) : n.same m = true := by
  cases m <;> cases n <;> simp only [Number.same, beq_iff_eq, Bool.false_eq_true] at h ⊢
  case integer.integer => exact h.symm
  case real.real => exact BEq.symm h

theorem Number.same_trans {m n k : Number} (h : m.same n = true) (h' : n.same k = true) :
    m.same k = true := by
  cases m <;> cases n <;> cases k <;>
    simp only [Number.same, beq_iff_eq, Bool.false_eq_true] at h h' ⊢
  case integer.integer.integer => exact h.trans h'
  case real.real.real => exact BEq.trans h h'

theorem sameMembers_cons {key : String} {x : Json} {rest ys : List (String × Json)} :
    sameMembers ((key, x) :: rest) ys = true ↔
      (∃ y, Entries.lookup key ys = some y ∧ x.same y = true) ∧ sameMembers rest ys = true := by
  rw [sameMembers, Bool.and_eq_true]
  cases Entries.lookup key ys <;> simp

/-- Every member of the first list is found in the second with an equal value. -/
theorem exists_of_sameMembers {xs ys : List (String × Json)} (h : sameMembers xs ys = true)
    {key : String} {x : Json} (hx : (key, x) ∈ xs) :
    ∃ y, Entries.lookup key ys = some y ∧ x.same y = true := by
  induction xs with
  | nil => cases hx
  | cons member rest ih =>
      obtain ⟨found, others⟩ := sameMembers_cons.1 h
      rcases List.mem_cons.1 hx with rfl | hx
      · exact found
      · exact ih others hx

theorem sameMembers_of_forall {xs ys : List (String × Json)}
    (h : ∀ key x, (key, x) ∈ xs → ∃ y, Entries.lookup key ys = some y ∧ x.same y = true) :
    sameMembers xs ys = true := by
  induction xs with
  | nil => rfl
  | cons member rest ih =>
      refine sameMembers_cons.2 ⟨h _ _ List.mem_cons_self, ih fun key x hx => ?_⟩
      exact h key x (List.mem_cons_of_mem _ hx)

mutual

theorem same_self : ∀ {x : Json}, x.KeysDistinct → x.same x = true
  | .null, _ => rfl
  | .bool b, _ => by simp [same]
  | .num n, _ => n.same_self
  | .str s, _ => by simp [same]
  | .arr items, h => by
      rw [KeysDistinct] at h
      rw [same]
      exact sameItems_self h
  | .obj members, h => by
      rw [KeysDistinct] at h
      rw [same, beq_self_eq_true, Bool.true_and]
      refine sameMembers_of_forall fun key x hx => ?_
      have found := (Entries.lookup_eq_some_iff h.1).2 hx
      exact ⟨x, found, same_self_of_lookup h.2 found⟩

theorem sameItems_self : ∀ {xs : List Json}, ItemsDistinct xs → sameItems xs xs = true
  | [], _ => rfl
  | item :: rest, h => by
      rw [ItemsDistinct] at h
      simp [sameItems, same_self h.1, sameItems_self h.2]

theorem same_self_of_lookup : ∀ {xs : List (String × Json)} {key : String} {x : Json},
    MembersDistinct xs → Entries.lookup key xs = some x → x.same x = true
  | [], _, _, _, found => by simp at found
  | (name, value) :: rest, key, x, h, found => by
      rw [MembersDistinct] at h
      by_cases hk : name = key
      · simp only [Entries.lookup, hk, if_true, Option.some.injEq] at found
        exact found ▸ same_self h.1
      · simp only [Entries.lookup, hk, if_false] at found
        exact same_self_of_lookup h.2 found

end

mutual

theorem same_trans : ∀ {x y z : Json}, x.same y = true → y.same z = true → x.same z = true
  | x, y, z, h, k => by
      cases x <;> cases y <;> simp only [same, Bool.false_eq_true] at h <;>
        cases z <;> simp only [same, Bool.false_eq_true] at k ⊢
      case bool => simp_all
      case num => exact Number.same_trans h k
      case str => simp_all
      case arr xs ys zs => exact sameItems_trans h k
      case obj xs ys zs =>
        simp only [Bool.and_eq_true, beq_iff_eq] at h k ⊢
        exact ⟨h.1.trans k.1, sameMembers_trans h.2 k.2⟩

theorem sameItems_trans : ∀ {xs ys zs : List Json}, sameItems xs ys = true →
    sameItems ys zs = true → sameItems xs zs = true
  | [], [], [], _, _ => rfl
  | x :: xs, y :: ys, z :: zs, h, k => by
      simp only [sameItems, Bool.and_eq_true] at h k ⊢
      exact ⟨same_trans h.1 k.1, sameItems_trans h.2 k.2⟩

theorem sameMembers_trans : ∀ {xs ys zs : List (String × Json)}, sameMembers xs ys = true →
    sameMembers ys zs = true → sameMembers xs zs = true
  | [], _, _, _, _ => rfl
  | (key, x) :: rest, ys, zs, h, k => by
      obtain ⟨⟨y, found, hy⟩, others⟩ := sameMembers_cons.1 h
      obtain ⟨z, found', hz⟩ := exists_of_sameMembers k (Entries.mem_of_lookup found)
      exact sameMembers_cons.2 ⟨⟨z, found', same_trans hy hz⟩, sameMembers_trans others k⟩

end

theorem keysDistinct_of_mem {members : List (String × Json)} (h : MembersDistinct members)
    {key : String} {value : Json} (hv : (key, value) ∈ members) : value.KeysDistinct := by
  induction members with
  | nil => cases hv
  | cons member rest ih =>
      rw [MembersDistinct] at h
      rcases List.mem_cons.1 hv with rfl | hv
      · exact h.1
      · exact ih h.2 hv

mutual

theorem same_symm : ∀ {x y : Json}, x.KeysDistinct → y.KeysDistinct → x.same y = true →
    y.same x = true
  | x, y, hx, hy, h => by
      cases x <;> cases y <;> simp only [same, Bool.false_eq_true] at h ⊢
      case bool => simp_all
      case num => exact Number.same_symm h
      case str => simp_all
      case arr xs ys =>
        rw [KeysDistinct] at hx hy
        exact sameItems_symm hx hy h
      case obj xs ys =>
        rw [KeysDistinct] at hx hy
        simp only [Bool.and_eq_true, beq_iff_eq] at h ⊢
        have found : ∀ key ∈ Entries.keys xs, key ∈ Entries.keys ys := by
          intro key hkey
          obtain ⟨⟨_, x⟩, hmem, rfl⟩ := List.mem_map.1 hkey
          obtain ⟨y, hy', _⟩ := exists_of_sameMembers h.2 hmem
          exact List.mem_map.2 ⟨(_, y), Entries.mem_of_lookup hy', rfl⟩
        refine ⟨h.1.symm, sameMembers_of_forall fun key y hmem => ?_⟩
        have hkey := Entries.mem_keys_of_subset hx.1 found h.1 (List.mem_map_of_mem hmem)
        obtain ⟨⟨_, x⟩, hx', rfl⟩ := List.mem_map.1 hkey
        obtain ⟨y', hy', hxy⟩ := exists_of_sameMembers h.2 hx'
        have hfirst := (Entries.lookup_eq_some_iff hy.1).2 hmem
        obtain rfl : y' = y := Option.some.inj (hy'.symm.trans hfirst)
        have hlook := (Entries.lookup_eq_some_iff hx.1).2 hx'
        exact ⟨x, hlook, same_symm_of_lookup hx.2 (keysDistinct_of_mem hy.2 hmem) hlook hxy⟩

theorem sameItems_symm : ∀ {xs ys : List Json}, ItemsDistinct xs → ItemsDistinct ys →
    sameItems xs ys = true → sameItems ys xs = true
  | [], [], _, _, _ => rfl
  | x :: xs, y :: ys, hx, hy, h => by
      rw [ItemsDistinct] at hx hy
      simp only [sameItems, Bool.and_eq_true] at h ⊢
      exact ⟨same_symm hx.1 hy.1 h.1, sameItems_symm hx.2 hy.2 h.2⟩

theorem same_symm_of_lookup : ∀ {xs : List (String × Json)} {key : String} {x y : Json},
    MembersDistinct xs → y.KeysDistinct → Entries.lookup key xs = some x → x.same y = true →
      y.same x = true
  | [], _, _, _, _, _, found, _ => by simp at found
  | (name, value) :: rest, key, x, y, hx, hy, found, h => by
      rw [MembersDistinct] at hx
      by_cases hk : name = key
      · simp only [Entries.lookup, hk, if_true, Option.some.injEq] at found
        subst found
        exact same_symm hx.1 hy h
      · simp only [Entries.lookup, hk, if_false] at found
        exact same_symm_of_lookup hx.2 hy found h

end

end Json

namespace Value

/-- Is the value a binary64 number that is no number? -/
def isNaN : Value → Bool
  | .float x => x.isNaN
  | _ => false

/-- Comparing values is reflexive but for the numbers that are no numbers. -/
theorem same_self_iff (v : Value) : v.same v = true ↔ v.isNaN = false := by
  cases v with
  | float x => simp [same, isNaN]
  | json d => simp [same, isNaN, Json.Document.same, Json.same_self d.distinct]
  | _ => simp [same, isNaN]

theorem same_symm {v w : Value} (h : v.same w = true) : w.same v = true := by
  cases v <;> cases w <;> simp only [same, Bool.false_eq_true] at h ⊢
  case float x y => exact BEq.symm h
  case json d e => exact Json.same_symm d.distinct e.distinct h
  all_goals simp_all

theorem same_trans {u v w : Value} (h : u.same v = true) (k : v.same w = true) :
    u.same w = true := by
  cases u <;> cases v <;> simp only [same, Bool.false_eq_true] at h <;>
    cases w <;> simp only [same, Bool.false_eq_true] at k ⊢
  case float x y z => exact BEq.trans h k
  case json d e f => exact Json.same_trans h k
  all_goals simp_all

/-- Two values agree if they are identical or equal. -/
def Agrees (v w : Value) : Prop := v = w ∨ v.same w = true

namespace Agrees

variable {u v w : Value}

theorem refl (v : Value) : v.Agrees v := .inl rfl

theorem of_same (h : v.same w = true) : v.Agrees w := .inr h

theorem symm (h : v.Agrees w) : w.Agrees v := h.imp Eq.symm same_symm

theorem trans (h : u.Agrees v) (k : v.Agrees w) : u.Agrees w := by
  rcases h with rfl | h
  · exact k
  · rcases k with rfl | k
    · exact .inr h
    · exact .inr (same_trans h k)

/-- Agreement can be computed: what is no number agrees with what is no number. -/
theorem iff_same_or_isNaN : v.Agrees w ↔ v.same w = true ∨ v.isNaN = true ∧ w.isNaN = true := by
  constructor
  · rintro (rfl | h)
    · cases hv : v.isNaN with
      | false => exact .inl ((same_self_iff v).2 hv)
      | true => exact .inr ⟨rfl, rfl⟩
    · exact .inl h
  · rintro (h | ⟨hv, hw⟩)
    · exact .inr h
    · cases v <;> cases w <;> simp only [isNaN, Bool.false_eq_true] at hv hw
      case float x y =>
        rw [Float.isNaN_eq_decide_eq_nan, decide_eq_true_eq] at hv hw
        exact .inl (by rw [hv, hw])

instance (v w : Value) : Decidable (v.Agrees w) := decidable_of_iff _ iff_same_or_isNaN.symm

end Agrees

end Value

/-- No value of the row is a number that is no number. -/
def Row.NaNFree (row : Row) : Prop :=
  ∀ key v, row.get? key = some v → v.isNaN = false

theorem Row.nanFree_iff {row : Row} :
    row.NaNFree ↔ ∀ entry ∈ row.entries, entry.2.isNaN = false := by
  constructor
  · rintro free ⟨key, v⟩ mem
    exact free key v (Dict.get?_eq_some_iff.2 mem)
  · intro free key v there
    exact free (key, v) (Dict.get?_eq_some_iff.1 there)

instance (row : Row) : Decidable row.NaNFree := decidable_of_iff _ Row.nanFree_iff.symm

/-- What is dirty after a snapshot are the numbers that are no numbers. -/
theorem Attributes.dirty_sync_isEmpty_iff (a : Attributes) :
    a.sync.dirty.isEmpty = true ↔ a.current.NaNFree := by
  rw [dirty_isEmpty_iff]
  refine forall₂_congr fun key v => imp_congr_right fun (there : a.current.get? key = some v) => ?_
  simp only [differs, sync_snapshot, there, Bool.not_eq_false']
  exact Value.same_self_iff v

end LiveRecord
