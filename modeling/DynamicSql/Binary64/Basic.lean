import DynamicSql.Decimal.Rounding

/-!
# Binary floating point with 53 bits

A finite floating-point number is `± mantissa * 2 ^ exponent` with a mantissa of
at most 53 bits.  Operations are exact fractions rounded to the nearest such
number, ties to the even mantissa; a result beyond the largest finite number is
reported as an overflow.
-/

namespace DynamicSql

/-- A finite binary floating-point number.  The mantissa has exactly 53 bits
unless the exponent is the least one, -1074. -/
structure Binary64 where
  negative : Bool
  mantissa : Nat
  exponent : Int
  deriving DecidableEq, Repr

namespace Binary64

/-- Zero, with a sign. -/
def zero (negative : Bool) : Binary64 := ⟨negative, 0, -1074⟩

/-- Whether the number is zero. -/
def isZero (x : Binary64) : Bool := x.mantissa == 0

/-- `num / den * 2 ^ e` as a fraction of natural numbers. -/
def scaled (num den : Nat) (e : Int) : Nat × Nat :=
  if e < 0 then (num, den * twoPow e.natAbs) else (num * twoPow e.natAbs, den)

/-- The integer part of the binary logarithm of a positive fraction. -/
def log2Floor (num den : Nat) : Int :=
  let guess : Int := (Nat.log2 num : Int) - (Nat.log2 den : Int)
  let (n, d) := scaled num den (-guess)
  if d ≤ n then guess else guess - 1

/-- The floating-point number nearest to a fraction, or `none` on overflow. -/
def nearest (negative : Bool) (num den : Nat) : Option Binary64 :=
  if num = 0 then some (zero negative)
  else
    let e : Int := max (log2Floor num den - 52) (-1074)
    let (n, d) := scaled num den (-e)
    let q := roundHalfEven n d
    let (m, e) := if q = twoPow 53 then (twoPow 52, e + 1) else (q, e)
    if e > 971 then none else some ⟨negative, m, e⟩

/-- The magnitude as a fraction. -/
def fraction (x : Binary64) : Nat × Nat := scaled x.mantissa 1 x.exponent

/-- The number nearest to a natural number below `2 ^ 1024`. -/
def ofNat (n : Nat) : Option Binary64 := nearest false n 1

/-- Flip the sign. -/
def neg (x : Binary64) : Binary64 := { x with negative := !x.negative }

/-- The product. -/
def mul (x y : Binary64) : Option Binary64 :=
  let (a, b) := x.fraction
  let (c, d) := y.fraction
  nearest (x.negative != y.negative) (a * c) (b * d)

/-- The quotient; the divisor is not zero. -/
def div (x y : Binary64) : Option Binary64 :=
  let (a, b) := x.fraction
  let (c, d) := y.fraction
  nearest (x.negative != y.negative) (a * d) (b * c)

end Binary64

end DynamicSql
