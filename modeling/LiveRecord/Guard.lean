import LiveRecord.Value

/-!
# Mass-assignment protection

A guard lists the keys that a protected fill may set and the keys that it must not. A key on
the allow-list may be set whatever the deny-list says. An empty allow-list admits every key
that is neither denied nor internal; the deny-list that consists of the star alone denies every
key, and with an empty allow-list the type is totally guarded.
-/

namespace LiveRecord

/-- Is the key private to the library? Such keys start with an underscore. -/
def isInternalKey (key : String) : Bool := key.toList.head? == some '_'

/-- The mass-assignment rules of a record type at one moment. -/
structure Guard where
  fillable : List String
  guarded : List String
  /-- Is protection lifted? -/
  unguarded : Bool
  deriving Repr, DecidableEq

namespace Guard

/-- Is the deny-list the star alone? -/
def deniesAll (g : Guard) : Bool := g.guarded == ["*"]

/-- Is the key denied? -/
def isGuarded (g : Guard) (key : String) : Bool :=
  g.guarded.contains key || g.deniesAll

/-- May the key be mass assigned? -/
def isFillable (g : Guard) (key : String) : Bool :=
  if g.unguarded then true
  else if g.fillable.contains key then true
  else if g.isGuarded key then false
  else g.fillable.isEmpty && !isInternalKey key

/-- Is no key at all declared as fillable? -/
def totallyGuarded (g : Guard) : Bool :=
  g.fillable.isEmpty && g.deniesAll

/-- Keep the keys on the allow-list. Without an allow-list, or without protection, all keys
stay, and refusing them is left to `isFillable`. -/
def keepFillable (g : Guard) (row : Row) : Row :=
  if g.fillable.isEmpty || g.unguarded then row
  else row.filter fun key _ => g.fillable.contains key

/-- A fillable key always survives the filter. -/
theorem get?_keepFillable {g : Guard} {key : String} (row : Row) (h : g.isFillable key = true) :
    (g.keepFillable row).get? key = row.get? key := by
  unfold keepFillable
  split
  · rfl
  · next hne =>
    simp only [Bool.or_eq_true, not_or, Bool.not_eq_true] at hne
    have hin : g.fillable.contains key = true := by
      simp only [isFillable, hne.2] at h
      by_cases hc : g.fillable.contains key = true
      · exact hc
      · simp [hne.1] at h
        simpa using h
    have hl := Entries.lookup_filter_key (fun name => g.fillable.contains name) key row.entries
    simp only [Dict.filter, Dict.get?]
    rw [hl, if_pos hin]

end Guard

end LiveRecord
