import LiveRecord.Guard

/-!
# Longer deny-lists

A key that is not on the allow-list may be assigned only if the allow-list is empty, the key is
not internal, and the deny-list neither names the key nor is the star alone. So a deny-list that
names more keys admits fewer. The star is the exception: it denies every key as long as it stands
alone, and next to another entry it is the name of a column like any other.
-/

namespace LiveRecord.Guard

theorem deniesAll_iff {g : Guard} : g.deniesAll = true ↔ g.guarded = ["*"] := by
  rw [deniesAll, beq_iff_eq]

theorem isGuarded_iff {g : Guard} {key : String} :
    g.isGuarded key = true ↔ key ∈ g.guarded ∨ g.guarded = ["*"] := by
  rw [isGuarded, Bool.or_eq_true, List.contains_iff_mem, deniesAll_iff]

/-- While protection is on, the allow-list decides, and without one the deny-list. -/
theorem isFillable_iff {g : Guard} (protection : g.unguarded = false) {key : String} :
    g.isFillable key = true ↔ key ∈ g.fillable ∨
      g.fillable = [] ∧ isInternalKey key = false ∧ key ∉ g.guarded ∧ g.guarded ≠ ["*"] := by
  rw [isFillable, protection, if_neg Bool.false_ne_true]
  split
  · next listed => exact iff_of_true rfl (.inl (List.contains_iff_mem.1 listed))
  · next unlisted =>
    rw [List.contains_iff_mem] at unlisted
    split
    · next denied =>
      refine iff_of_false Bool.false_ne_true ?_
      rintro (listed | ⟨-, -, unnamed, plural⟩)
      · exact unlisted listed
      · exact (isGuarded_iff.1 denied).elim unnamed plural
    · next free =>
      obtain ⟨unnamed, plural⟩ := not_or.1 (mt isGuarded_iff.2 free)
      simp [unlisted, unnamed, plural]

section Lists

variable {fillable guarded guarded' : List String} {key : String}

/-- A key that the longer list admits is admitted by the shorter one, unless that is the star
alone. -/
theorem isFillable_of_subset (longer : guarded ⊆ guarded')
    (alone : fillable = [] → guarded = ["*"] → guarded' = ["*"])
    (admitted : (Guard.mk fillable guarded' false).isFillable key = true) :
    (Guard.mk fillable guarded false).isFillable key = true := by
  rw [isFillable_iff rfl] at admitted ⊢
  rcases admitted with listed | ⟨empty, visible, unnamed, plural⟩
  · exact .inl listed
  · refine .inr ⟨empty, visible, fun named => ?_, fun star => ?_⟩
    · exact unnamed (longer named)
    · exact plural (alone empty star)

/-- Without an allow-list, the star next to another entry does not deny a key by itself. -/
theorem isFillable_of_starred {other : String} (named : other ∈ guarded) (named_ne : other ≠ "*") :
    (Guard.mk [] guarded false).isFillable key = true ↔
      isInternalKey key = false ∧ key ∉ guarded := by
  have plural : guarded ≠ ["*"] := by
    rintro rfl
    exact named_ne (List.mem_singleton.1 named)
  rw [isFillable_iff rfl]
  simp [plural]

end Lists

/-- Let one deny-list have every entry of another. Then the keys that may be assigned under it may
be assigned under the other, unless there is no allow-list and the star stands alone in the other
list only; and the two lists admit the same keys if they have the same entries and, without an
allow-list, the star is alone in both or in neither. The star alone admits no key without an
allow-list. A list with another entry admits then every key that it does not name and that is not
internal, also if it has the star. -/
theorem denying_more_admits_fewer (fillable guarded guarded' : List String)
    (longer : guarded ⊆ guarded') :
    ((fillable = [] → guarded = ["*"] → guarded' = ["*"]) → ∀ key,
      (Guard.mk fillable guarded' false).isFillable key = true →
        (Guard.mk fillable guarded false).isFillable key = true) ∧
    (guarded' ⊆ guarded → (fillable = [] → (guarded = ["*"] ↔ guarded' = ["*"])) → ∀ key,
      (Guard.mk fillable guarded' false).isFillable key =
        (Guard.mk fillable guarded false).isFillable key) ∧
    (fillable = [] → guarded = ["*"] → ∀ other ∈ guarded', other ≠ "*" → ∀ key,
      (Guard.mk fillable guarded false).isFillable key = false ∧
      ((Guard.mk fillable guarded' false).isFillable key = true ↔
        isInternalKey key = false ∧ key ∉ guarded')) := by
  refine ⟨fun alone key => isFillable_of_subset longer alone, fun shorter alone key => ?_, ?_⟩
  · rw [Bool.eq_iff_iff]
    constructor
    · exact isFillable_of_subset longer fun empty => (alone empty).1
    · exact isFillable_of_subset shorter fun empty => (alone empty).2
  · rintro rfl rfl other named named_ne key
    refine ⟨?_, isFillable_of_starred named named_ne⟩
    rw [← Bool.not_eq_true, isFillable_iff rfl]
    simp

/-- What a list with more entries admits, in another order and one of them twice. -/
theorem admitted_by_both_lists : ["admin"] ⊆ ["role", "admin", "role"] ∧
    (Guard.mk [] ["role", "admin", "role"] false).isFillable "email" = true ∧
    (Guard.mk [] ["admin"] false).isFillable "email" = true :=
  have longer : ["admin"] ⊆ ["role", "admin", "role"] := by decide
  have admitted : (Guard.mk [] ["role", "admin", "role"] false).isFillable "email" = true := by
    decide
  ⟨longer, admitted, (denying_more_admits_fewer [] _ _ longer).1 (by decide) "email" admitted⟩

/-- The star denies a key that the star with another entry admits. -/
theorem starred_list_admits_more : ["*"] ⊆ ["*", "admin"] ∧
    (Guard.mk [] ["*", "admin"] false).isFillable "name" = true ∧
    (Guard.mk [] ["*"] false).isFillable "name" = false := by
  decide

end LiveRecord.Guard
