/-!
# Shortest decimal text of a binary number

A positive number `m · 2^q` is the nearest binary number to every decimal inside an interval
around it. Among the decimal grids `{c · 10^k}` the search takes the coarsest that meets the
interval, which gives the fewest digits, and of the two neighbours of the number on that grid
the nearer one.
-/

namespace LiveRecord.Decimal

/-- Which neighbour to take when the number lies exactly between two. -/
inductive Tie where
  /-- The one whose last digit is even. -/
  | toEven
  /-- The greater one. -/
  | up
  deriving Repr, DecidableEq

/-- The decimal `digits · 10^exponent`. -/
structure Scaled where
  digits : Nat
  exponent : Int
  deriving Repr, DecidableEq

/-- A positive number between the ends of the interval that rounds to it, all four times some
power of two: `low / scale`, `mid / scale` and `high / scale`, the ends included if `closed`. -/
structure Interval where
  low : Nat
  mid : Nat
  high : Nat
  scale : Nat
  closed : Bool
  deriving Repr, DecidableEq

/-- The interval of the number `m · 2^q`. Below the least significand of a binade the
neighbours lie twice as close. -/
def Interval.ofBinary (m : Nat) (q : Int) : Interval :=
  let step := if m = Nat.pow 2 52 && q > -1074 then 1 else 2
  let e := q - 2
  let num := Nat.pow 2 e.toNat
  { low := (4 * m - step) * num
    mid := 4 * m * num
    high := (4 * m + 2) * num
    scale := Nat.pow 2 (-e).toNat
    closed := m % 2 == 0 }

namespace Interval

/-- Is `c / unit` inside, once all is scaled by `num`? -/
def holds (i : Interval) (num unit c : Nat) : Bool :=
  if i.closed then i.low * num ≤ c * unit && c * unit ≤ i.high * num
  else i.low * num < c * unit && c * unit < i.high * num

/-- The neighbour of the number on the grid of the multiples of `10^k` that lies inside the
interval; of two the nearer one. -/
def onGrid (i : Interval) (tie : Tie) (k : Int) : Option Nat :=
  let num := Nat.pow 10 (-k).toNat
  let unit := i.scale * Nat.pow 10 k.toNat
  let below := i.mid * num / unit
  let above := below + 1
  match i.holds num unit below, i.holds num unit above with
  | false, false => none
  | true, false => some below
  | false, true => some above
  | true, true =>
    let toBelow := i.mid * num - below * unit
    let toAbove := above * unit - i.mid * num
    if toBelow < toAbove then some below
    else if toAbove < toBelow then some above
    else match tie with
      | .up => some above
      | .toEven => some (if below % 2 = 0 then below else above)

/-- Search the grids from `10^k` downwards, at most `fuel` of them. -/
def coarsest (i : Interval) (tie : Tie) (k : Int) : Nat → Option Scaled
  | 0 => none
  | fuel + 1 =>
    match i.onGrid tie k with
    | some c => some ⟨c, k⟩
    | none => coarsest i tie (k - 1) fuel

end Interval

/-- A bound on the decimal exponent of `m · 2^q`: the number lies below ten to this power. -/
def exponentBound (m : Nat) (q : Int) : Int :=
  ((m.log2 : Int) + 1 + q) * 30103 / 100000 + 1

/-- The shortest decimal that reads back as the positive number `m · 2^q`. Seventeen digits
always suffice, so twenty grids below the bound are enough. -/
def shortest (tie : Tie) (m : Nat) (q : Int) : Scaled :=
  ((Interval.ofBinary m q).coarsest tie (exponentBound m q) 20).getD ⟨0, 0⟩

end LiveRecord.Decimal
