import LiveRecord.Dict

/-!
# JSON documents

A document is a tree whose objects keep their members in insertion order. Integers cover the
signed and unsigned 64-bit words, all other numbers are finite binary64 numbers; an integer
never equals a binary64 number. The keys of every object are distinct: `Json.merged` brings any
tree into that form, a repeated key keeping its first place and its last value, and
`Json.Document` packages a tree with the proof.
-/

namespace LiveRecord

namespace Json

/-- The integers that a JSON number holds exactly. -/
structure Integer where
  val : Int
  least_le : -9223372036854775808 ≤ val
  lt_bound : val < 18446744073709551616

/-- The binary64 numbers that a JSON number can hold. -/
structure Real where
  val : Float
  finite : val.isFinite = true

/-- A JSON number. -/
inductive Number where
  | integer (n : Integer)
  | real (x : Real)

/-- The integer `n` as a JSON number, if it is in range. -/
def Integer.ofInt? (n : Int) : Option Integer :=
  if h : -9223372036854775808 ≤ n ∧ n < 18446744073709551616 then some ⟨n, h.1, h.2⟩ else none

/-- The number `x`, if it is finite. -/
def Real.ofFloat? (x : Float) : Option Real :=
  if h : x.isFinite = true then some ⟨x, h⟩ else none

/-- A 64-bit word as a JSON number. -/
def Integer.ofInt64 (n : Int64) : Integer :=
  ⟨n.toInt, Int64.le_toInt n, by have := Int64.toInt_lt n; omega⟩

/-- Equality of numbers: as integers, or as binary64 numbers compare. -/
def Number.same : Number → Number → Bool
  | .integer m, .integer n => m.val == n.val
  | .real x, .real y => x.val == y.val
  | _, _ => false

end Json

/-- A JSON tree. -/
inductive Json where
  | null
  | bool (b : Bool)
  | num (n : Json.Number)
  | str (s : String)
  | arr (items : List Json)
  | obj (members : List (String × Json))

namespace Json

instance : Inhabited Json := ⟨.null⟩

mutual

/-- Are no two members of an object in the tree under one key? -/
def KeysDistinct : Json → Prop
  | .arr items => ItemsDistinct items
  | .obj members => (Entries.keys members).Nodup ∧ MembersDistinct members
  | _ => True

/-- `KeysDistinct` for all trees of a list. -/
def ItemsDistinct : List Json → Prop
  | [] => True
  | item :: rest => KeysDistinct item ∧ ItemsDistinct rest

/-- `KeysDistinct` for the values of all members. -/
def MembersDistinct : List (String × Json) → Prop
  | [] => True
  | (_, value) :: rest => KeysDistinct value ∧ MembersDistinct rest

end

mutual

/-- Equality of trees. The order of an object's members does not matter. -/
def same : Json → Json → Bool
  | .null, .null => true
  | .bool a, .bool b => a == b
  | .num m, .num n => m.same n
  | .str s, .str t => s == t
  | .arr xs, .arr ys => sameItems xs ys
  | .obj xs, .obj ys => xs.length == ys.length && sameMembers xs ys
  | _, _ => false

/-- Item by item equality. -/
def sameItems : List Json → List Json → Bool
  | [], [] => true
  | x :: xs, y :: ys => same x y && sameItems xs ys
  | _, _ => false

/-- Is every member of the first list found in the second with an equal value? -/
def sameMembers : List (String × Json) → List (String × Json) → Bool
  | [], _ => true
  | (key, x) :: rest, ys =>
    (match Entries.lookup key ys with
      | some y => same x y
      | none => false) && sameMembers rest ys

end

mutual

/-- The tree with the members of each object added one after another, so that a repeated key
keeps its first place and its last value. -/
def merged : Json → Json
  | .arr items => .arr (mergedItems items)
  | .obj members => .obj (mergedMembers [] members)
  | other => other

/-- `merged` for all trees of a list. -/
def mergedItems : List Json → List Json
  | [] => []
  | item :: rest => merged item :: mergedItems rest

/-- Add the members, merged, to those already `seen`. -/
def mergedMembers (seen : List (String × Json)) : List (String × Json) → List (String × Json)
  | [] => seen
  | (key, value) :: rest => mergedMembers (Entries.assign key (merged value) seen) rest

end

theorem membersDistinct_assign {key : String} {value : Json} (hv : value.KeysDistinct) :
    ∀ {members : List (String × Json)}, MembersDistinct members →
      MembersDistinct (Entries.assign key value members)
  | [], _ => by simp [Entries.assign, MembersDistinct, hv]
  | (name, old) :: rest, h => by
    simp only [MembersDistinct] at h
    by_cases hk : name = key
    · simp [Entries.assign, hk, MembersDistinct, hv, h.2]
    · simp only [Entries.assign, hk, if_false, MembersDistinct]
      exact ⟨h.1, membersDistinct_assign hv h.2⟩

mutual

theorem keysDistinct_merged : ∀ j : Json, j.merged.KeysDistinct
  | .null | .bool _ | .num _ | .str _ => by simp [merged, KeysDistinct]
  | .arr items => by
    simp only [merged, KeysDistinct]
    exact itemsDistinct_merged items
  | .obj members => by
    simp only [merged, KeysDistinct]
    exact membersDistinct_merged members [] (by simp [Entries.keys]) (by simp [MembersDistinct])

theorem itemsDistinct_merged : ∀ items : List Json, ItemsDistinct (mergedItems items)
  | [] => by simp [mergedItems, ItemsDistinct]
  | item :: rest => by
    simp only [mergedItems, ItemsDistinct]
    exact ⟨keysDistinct_merged item, itemsDistinct_merged rest⟩

theorem membersDistinct_merged : ∀ (members seen : List (String × Json)),
    (Entries.keys seen).Nodup → MembersDistinct seen →
      (Entries.keys (mergedMembers seen members)).Nodup ∧
        MembersDistinct (mergedMembers seen members)
  | [], _, hn, hd => ⟨hn, hd⟩
  | (key, value) :: rest, seen, hn, hd => by
    simp only [mergedMembers]
    exact membersDistinct_merged rest _ (Entries.nodup_keys_assign key _ hn)
      (membersDistinct_assign (keysDistinct_merged value) hd)

end

/-- A tree in which no object repeats a key. -/
structure Document where
  root : Json
  distinct : root.KeysDistinct

namespace Document

@[ext] theorem ext {d e : Document} (h : d.root = e.root) : d = e := by
  cases d
  cases e
  cases h
  rfl

/-- The document of a tree, repeated keys merged. -/
def ofTree (j : Json) : Document := ⟨j.merged, keysDistinct_merged j⟩

/-- Equality of documents, whatever the order of members. -/
def same (d e : Document) : Bool := d.root.same e.root

/-- The document `null`. -/
def null : Document := ⟨.null, trivial⟩

/-- A truth value as a document. -/
def ofBool (b : Bool) : Document := ⟨.bool b, trivial⟩

/-- A text as a document. -/
def ofString (s : String) : Document := ⟨.str s, trivial⟩

/-- A number as a document. -/
def ofNumber (n : Number) : Document := ⟨.num n, trivial⟩

instance : Inhabited Document := ⟨null⟩

theorem membersDistinct_map_root : ∀ entries : List (String × Document),
    MembersDistinct (entries.map fun entry => (entry.1, entry.2.root))
  | [] => trivial
  | (_, value) :: rest => ⟨value.distinct, membersDistinct_map_root rest⟩

end Document

end Json

end LiveRecord
