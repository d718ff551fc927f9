/-!
# Binary floating-point numbers as integers

A finite number is `m · 2^q` with natural `m`; rounding it to an integer is then exact integer
arithmetic. Everything is computed from the bits of the number, so that statements about it
reduce to statements about `m` and `q`.
-/

namespace LiveRecord

/-- What a binary64 number stands for. -/
inductive Binary64 where
  | nan
  | infinite (negative : Bool)
  /-- The number `m · 2^q`, negated if `negative`. -/
  | finite (negative : Bool) (m : Nat) (q : Int)
  deriving DecidableEq

namespace Binary64

/-- Split the bit pattern into sign, exponent and significand. -/
def ofBits (bits : Nat) : Binary64 :=
  let negative := bits / Nat.pow 2 63 % 2 == 1
  let exponent : Nat := bits / Nat.pow 2 52 % Nat.pow 2 11
  let fraction : Nat := bits % Nat.pow 2 52
  if exponent = Nat.pow 2 11 - 1 then
    if fraction = 0 then .infinite negative else .nan
  else if exponent = 0 then .finite negative fraction (-1074)
  else .finite negative (Nat.pow 2 52 + fraction) ((exponent : Int) - 1075)

/-- What `x` stands for. -/
def ofFloat (x : Float) : Binary64 := ofBits x.toBits.toNat

/-- The integer `m · 2^q` cut off after the binary point. -/
def wholePart (m : Nat) (q : Int) : Nat :=
  if 0 ≤ q then m * Nat.pow 2 q.toNat else m / Nat.pow 2 (-q).toNat

/-- Is `m · 2^q` not an integer? -/
def hasFraction (m : Nat) (q : Int) : Bool :=
  q < 0 && m % Nat.pow 2 (-q).toNat != 0

/-- Give a natural number a sign. -/
def signed (negative : Bool) (n : Nat) : Int :=
  if negative then -n else n

/-- The nearest integer that is not farther from zero; zero for what is not finite. -/
def truncate : Binary64 → Int
  | .finite negative m q => signed negative (wholePart m q)
  | _ => 0

/-- The greatest integer that is not greater; zero for what is not finite. -/
def floor : Binary64 → Int
  | .finite false m q => wholePart m q
  | .finite true m q => -((wholePart m q + if hasFraction m q then 1 else 0 : Nat) : Int)
  | _ => 0

/-- The nearest integer, a half going away from zero; zero for what is not finite. -/
def round : Binary64 → Int
  | .finite negative m q =>
    signed negative
      (if 0 ≤ q then wholePart m q else wholePart (2 * m + Nat.pow 2 (-q).toNat) (q - 1))
  | _ => 0

end Binary64

end LiveRecord
