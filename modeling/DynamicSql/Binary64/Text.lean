import DynamicSql.Binary64.Basic
import DynamicSql.Text.Numeral

/-!
# Floating-point text

The shortest text of a floating-point number has the fewest significant digits
that read back as the number; among those it is the nearest, and an exact tie
goes to the even digit.  Small exponents are written positionally.
-/

namespace DynamicSql.Binary64

open Text (natText intText)

/-! ## Shortest digits -/

/-- The numbers that round to `x`, four times as fractions over one denominator:
the lower end, `x` itself, the upper end, and the denominator.  Below a power of
two the neighbours are closer. -/
def interval (x : Binary64) : Nat × Nat × Nat × Nat :=
  let below := if x.mantissa = twoPow 52 ∧ x.exponent > -1074 then 1 else 2
  let unit := scaled 1 1 (x.exponent - 2)
  ((4 * x.mantissa - below) * unit.1, 4 * x.mantissa * unit.1, (4 * x.mantissa + 2) * unit.1,
    unit.2)

/-- The multiple of `10 ^ p` that stands for `x`, if one rounds to `x`. -/
def onGrid? (x : Binary64) (p : Int) : Option Nat :=
  let (low, mid, high, den) := x.interval
  let step := if p < 0 then 1 else tenPow p.natAbs
  let factor := if p < 0 then tenPow p.natAbs else 1
  let grid := step * den
  let inside (d : Nat) : Bool :=
    let v := d * grid
    if x.mantissa % 2 = 0 then low * factor ≤ v && v ≤ high * factor
    else low * factor < v && v < high * factor
  let d := mid * factor / grid
  match inside d, inside (d + 1) with
  | true, true => some (roundHalfEven (mid * factor) grid)
  | true, false => some d
  | false, true => some (d + 1)
  | false, false => none

/-- Search the grids from coarse to fine. -/
def searchGrids (x : Binary64) : Nat → Int → Nat × Int
  | 0, p => (x.mantissa, p)
  | fuel + 1, p =>
    match onGrid? x p with
    | some d => (d, p)
    | none => searchGrids x fuel (p - 1)

/-- The shortest digits of a number that is not zero, and their exponent. -/
def shortest (x : Binary64) : Nat × Int :=
  searchGrids x 40 (((x.exponent + 53) * 30103).tdiv 100000 + 2)

/-! ## Written forms -/

/-- Where the shortest text uses positional notation: the point stands after more
than `least` and at most `most` digits. -/
structure PositionalRange where
  least : Int
  most : Int

/-- Numbers from `0.00001` up to `10 ^ 16` are written without an exponent. -/
def positional : PositionalRange := ⟨-5, 16⟩

/-- Digits with an exponent, as text. -/
def digitsText (digits : List Char) (exponent : Int) : List Char :=
  let length : Int := digits.length
  let point := length + exponent
  if 0 ≤ exponent ∧ point ≤ positional.most then
    digits ++ List.replicate exponent.natAbs '0' ++ ['.', '0']
  else if 0 < point ∧ point ≤ positional.most then
    digits.take point.natAbs ++ '.' :: digits.drop point.natAbs
  else if positional.least < point ∧ point ≤ 0 then
    '0' :: '.' :: List.replicate point.natAbs '0' ++ digits
  else
    match digits with
    | [d] => d :: 'e' :: intText (point - 1)
    | d :: rest => d :: '.' :: rest ++ 'e' :: intText (point - 1)
    | [] => []

/-- The shortest text. -/
def text (x : Binary64) : List Char :=
  let body :=
    if x.isZero then ['0', '.', '0']
    else
      let (d, p) := x.shortest
      digitsText (natText d) p
  if x.negative then '-' :: body else body

/-- The text with a fixed number of places, rounded to nearest with ties to even. -/
def fixedText (x : Binary64) (places : Nat) : List Char :=
  let (n, d) := x.fraction
  let digits := natText (roundHalfEven (n * tenPow places) d)
  let padded := List.replicate (places + 1 - digits.length) '0' ++ digits
  let body := padded.take (padded.length - places) ++ '.' :: padded.drop (padded.length - places)
  if x.negative then '-' :: body else body

end DynamicSql.Binary64
