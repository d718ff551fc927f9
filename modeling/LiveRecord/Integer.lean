/-!
# Integers of 64 bits

Attribute integers are signed 64-bit words. A result outside their range is either refused
(`toInt64?`) or replaced by the nearest end of the range (`saturate`), never wrapped.
-/

namespace LiveRecord.Integer

/-- The least and the greatest 64-bit integer. -/
def least : Int := -9223372036854775808

@[inherit_doc least]
def greatest : Int := 9223372036854775807

/-- The word for `n`, if it fits. -/
def toInt64? (n : Int) : Option Int64 :=
  if least ≤ n ∧ n ≤ greatest then some (Int64.ofInt n) else none

/-- The word nearest to `n`. -/
def saturate (n : Int) : Int64 :=
  if n < least then Int64.ofInt least
  else if greatest < n then Int64.ofInt greatest
  else Int64.ofInt n

/-- The binary64 number nearest to a word. -/
def toFloat (n : Int64) : Float := Float.ofInt n.toInt

theorem toInt_ofInt {n : Int} (h : least ≤ n ∧ n ≤ greatest) : (Int64.ofInt n).toInt = n := by
  simp only [least, greatest] at h
  exact Int64.toInt_ofInt_of_le (by omega) (by omega)

/-- A word is returned exactly for the numbers in range, and it stands for that number. -/
theorem toInt64?_eq_some_iff {n : Int} {word : Int64} :
    toInt64? n = some word ↔ word.toInt = n := by
  unfold toInt64?
  constructor
  · intro h
    split at h
    · next hr =>
      cases h
      exact toInt_ofInt hr
    · cases h
  · rintro rfl
    have h1 := Int64.le_toInt word
    have h2 := Int64.toInt_lt word
    have hr : least ≤ word.toInt ∧ word.toInt ≤ greatest := by
      simp only [least, greatest]
      omega
    rw [if_pos hr, Int64.ofInt_toInt]

theorem toInt64?_eq_none_iff {n : Int} : toInt64? n = none ↔ n < least ∨ greatest < n := by
  rw [toInt64?, ite_eq_right_iff]
  constructor
  · intro out
    by_cases inRange : least ≤ n ∧ n ≤ greatest
    · cases out inRange
    · omega
  · intro out inRange
    omega

end LiveRecord.Integer
