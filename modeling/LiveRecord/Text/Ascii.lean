/-!
# ASCII letters and digits

Case folding and digit values that look at ASCII characters only; every other character
stands for itself.
-/

namespace LiveRecord.Text

/-- The text with the letters `A` to `Z` made small. -/
def asciiLower (s : String) : String :=
  s.map Char.toLower

/-- Are the texts equal up to the case of ASCII letters? -/
def asciiEqIgnoreCase (s t : String) : Bool :=
  asciiLower s == asciiLower t

/-- The value of a decimal digit. -/
def digitValue? (c : Char) : Option Nat :=
  if c.isDigit then some (c.toNat - '0'.toNat) else none

/-- The decimal digit of a number below ten. -/
def digitChar (n : Nat) : Char :=
  Char.ofNat ('0'.toNat + n)

/-- The decimal digits of a number, without leading zeros. -/
def natDigits (n : Nat) : List Char :=
  Nat.toDigits 10 n

/-- The value of a list of decimal digits, continuing from `acc`. -/
def digitsValue (cs : List Char) (acc : Nat) : Nat :=
  cs.foldl (fun n c => 10 * n + (c.toNat - '0'.toNat)) acc

/-- A number in at least `width` columns, filled on the left with `fill`. -/
def padLeft (width : Nat) (fill : Char) (cs : List Char) : List Char :=
  List.replicate (width - cs.length) fill ++ cs

/-- A number with leading zeros, in at least `width` digits. -/
def zeroPadded (width n : Nat) : List Char :=
  padLeft width '0' (natDigits n)

theorem digitsValue_append (cs ds : List Char) (acc : Nat) :
    digitsValue (cs ++ ds) acc = digitsValue ds (digitsValue cs acc) :=
  List.foldl_append

theorem digitsValue_natDigits (n : Nat) : digitsValue (natDigits n) 0 = n :=
  Nat.ofDigitChars_toDigits (by decide) (by decide)

theorem isDigit_of_mem_natDigits {n : Nat} {c : Char} (h : c ∈ natDigits n) : c.isDigit = true :=
  Nat.isDigit_of_mem_toDigits (by decide) (by decide) h

theorem isDigit_of_mem_zeroPadded {width n : Nat} {c : Char} (h : c ∈ zeroPadded width n) :
    c.isDigit = true := by
  rcases List.mem_append.1 h with filling | written
  · rw [(List.mem_replicate.1 filling).2]
    decide
  · exact isDigit_of_mem_natDigits written

theorem le_length_zeroPadded (width n : Nat) : width ≤ (zeroPadded width n).length := by
  simp only [zeroPadded, padLeft, List.length_append, List.length_replicate]
  omega

/-- Leading zeros do not count. -/
theorem digitsValue_zeroPadded (width n : Nat) : digitsValue (zeroPadded width n) 0 = n := by
  have zeros (k : Nat) : digitsValue (List.replicate k '0') 0 = 0 := by
    induction k with
    | zero => rfl
    | succ k ih => exact ih
  rw [zeroPadded, padLeft, digitsValue_append, zeros, digitsValue_natDigits]

end LiveRecord.Text
