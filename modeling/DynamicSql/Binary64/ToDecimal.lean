import DynamicSql.Binary64.Basic
import DynamicSql.Decimal.Basic

/-!
# From binary to decimal

An integral floating-point number is a decimal if it has at most 96 bits.  Any other
becomes one through 96-bit integer steps: the power of two below the point is traded
for powers of five and ten, losing low bits where the 96 bits do not suffice, and the
outcome is cut to the 15 or 16 digits that a floating-point number guarantees.
-/

namespace DynamicSql.Binary64

/-- Trade `2 ^ -n` for powers of ten: halve an even integer, multiply an odd one
by five, and halve where five times it has no room. -/
def tradeHalves : (n : Nat) → (bits : Nat) → (exponent : Int) → Nat × Int
  | 0, bits, exponent => (bits, exponent)
  | n + 1, bits, exponent =>
    if bits % 2 = 0 then tradeHalves n (bits / 2) (exponent + 1)
    else if bits * 5 < twoPow 96 then tradeHalves n (bits * 5) exponent
    else tradeHalves n (bits / 2) (exponent + 1)

/-- Drop `n` digits one by one, each rounding half up; nothing is left of a number
that vanishes. -/
def dropDigits : (n : Nat) → (bits : Nat) → (exponent : Int) → Nat × Int
  | 0, bits, exponent => (bits, exponent)
  | n + 1, bits, exponent =>
    if bits / 10 = 0 then (0, 0)
    else dropDigits n (bits / 10 + (if 5 ≤ bits % 10 then 1 else 0)) (exponent + 1)

/-- Drop places until the integer fits 52 bits, rounding half up. -/
def fitMantissa : (places : Nat) → (bits : Nat) → Nat × Nat
  | 0, bits => (bits, 0)
  | places + 1, bits =>
    if bits < twoPow 52 then (bits, places + 1)
    else fitMantissa places (bits / 10 + (if 5 ≤ bits % 10 then 1 else 0))

/-- Drop places that hold zeros. -/
def dropZeros : (places : Nat) → (bits : Nat) → Nat × Nat
  | 0, bits => (bits, 0)
  | places + 1, bits =>
    if bits % 10 = 0 then dropZeros places (bits / 10) else (bits, places + 1)

/-- The decimal for `± mantissa / 2 ^ n`. -/
def ofHalves (negative : Bool) (mantissa n : Nat) : Option Decimal :=
  let traded := tradeHalves n mantissa (-(n : Int))
  let cut := if traded.2 < -28 then dropDigits (traded.2 + 28).natAbs traded.1 traded.2 else traded
  let fitted := fitMantissa cut.2.natAbs cut.1
  let final := dropZeros fitted.2 fitted.1
  if h : final.1 < twoPow 96 ∧ final.2 ≤ 28 then
    some ⟨negative, final.1, final.2, h.1, h.2⟩
  else none

/-- The decimal for a floating-point number; `none` if it is too large. -/
def toDecimal (x : Binary64) : Option Decimal :=
  if x.isZero then some { Decimal.zero with negative := x.negative }
  else if x.exponent < 0 then ofHalves x.negative x.mantissa x.exponent.natAbs
  else
    let whole := x.mantissa * twoPow x.exponent.natAbs
    if h : whole < twoPow 96 then some { Decimal.ofNat whole h with negative := x.negative }
    else none

end DynamicSql.Binary64
