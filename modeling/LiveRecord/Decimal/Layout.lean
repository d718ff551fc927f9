import LiveRecord.Binary64
import LiveRecord.Decimal.Shortest
import LiveRecord.Text.Ascii

/-!
# Layouts of decimal numbers

A layout decides how the shortest digits of a number are written: which exponents are written
out in positional notation, whether an integer keeps a zero after the point, and how the
exponent is spelled otherwise. Three layouts are in use: the one of JSON numbers, the plain
one of messages, and the one of diagnostic output.
-/

namespace LiveRecord.Decimal

/-- How a number is written. -/
structure Layout where
  /-- Least and greatest exponent of the leading digit for positional notation; `none` for no
  limit. -/
  positional : Option (Int × Int)
  /-- Does an integer in positional notation end in `.0`? -/
  pointZero : Bool
  /-- Is a positive exponent written with its sign? -/
  plusSign : Bool
  tie : Tie
  deriving Repr, DecidableEq

/-- Numbers of JSON texts: positional from `1e-5` to below `1e16`, always with a point. -/
def Layout.json : Layout := ⟨some (-5, 15), true, true, .toEven⟩

/-- Numbers of messages: never an exponent, no point in an integer. -/
def Layout.plain : Layout := ⟨none, false, false, .up⟩

/-- Numbers of diagnostic output: positional from `1e-4` to below `1e16`. -/
def Layout.diagnostic : Layout := ⟨some (-4, 15), true, false, .up⟩

/-- Is a number whose leading digit has this exponent written in positional notation? -/
def Layout.isPositional (layout : Layout) (exponent : Int) : Bool :=
  match layout.positional with
  | none => true
  | some (least, greatest) => least ≤ exponent && exponent ≤ greatest

/-- The digits with the point after `places` of them. -/
def positionalText (layout : Layout) (digits : List Char) (places : Int) : List Char :=
  if places ≤ 0 then '0' :: '.' :: (List.replicate (-places).toNat '0' ++ digits)
  else if digits.length ≤ places.toNat then
    digits ++ List.replicate (places.toNat - digits.length) '0' ++
      (if layout.pointZero then ['.', '0'] else [])
  else digits.take places.toNat ++ '.' :: digits.drop places.toNat

/-- The digits with the point after the first and an exponent. -/
def exponentText (layout : Layout) (digits : List Char) (exponent : Int) : List Char :=
  let sign := if exponent < 0 then ['-'] else if layout.plusSign then ['+'] else []
  let fraction := match digits.drop 1 with
    | [] => []
    | more => '.' :: more
  digits.take 1 ++ fraction ++ 'e' :: (sign ++ Text.natDigits exponent.natAbs)

/-- The decimal written in the layout. -/
def Layout.text (layout : Layout) (d : Scaled) : List Char :=
  let digits := Text.natDigits d.digits
  let kept := (digits.reverse.dropWhile (· == '0')).reverse
  let places : Int := digits.length + d.exponent
  if layout.isPositional (places - 1) then positionalText layout kept places
  else exponentText layout kept (places - 1)

/-- The text of zero. -/
def Layout.zeroText (layout : Layout) : List Char :=
  if layout.pointZero then ['0', '.', '0'] else ['0']

/-- The text of a number. -/
def Layout.format (layout : Layout) (x : Float) : String :=
  match Binary64.ofFloat x with
  | .nan => "NaN"
  | .infinite negative => if negative then "-inf" else "inf"
  | .finite negative m q =>
    let body := if m = 0 then layout.zeroText else layout.text (shortest layout.tie m q)
    String.ofList (if negative then '-' :: body else body)

end LiveRecord.Decimal
