import DynamicSql.Decimal.Rounding

/-!
# Decimal numbers

A decimal is a sign, a coefficient below `2 ^ 96` and a scale of at most 28: the
number `± coefficient / 10 ^ scale`.  One number has several decimals (`1.5` and
`1.50`), and there is a negative zero; comparison looks at the number only.
-/

namespace DynamicSql

/-- A decimal number with its scale. -/
structure Decimal where
  negative : Bool
  coefficient : Nat
  scale : Nat
  coefficient_lt : coefficient < twoPow 96
  scale_le : scale ≤ 28
  deriving DecidableEq

namespace Decimal

/-- Zero with scale zero. -/
def zero : Decimal := ⟨false, 0, 0, by decide, by decide⟩

instance : Inhabited Decimal := ⟨zero⟩

/-- The coefficient with its sign. -/
def signed (d : Decimal) : Int := if d.negative then -(d.coefficient : Int) else d.coefficient

/-- Whether the number is zero. -/
def isZero (d : Decimal) : Bool := d.coefficient == 0

/-- Flip the sign, also of zero. -/
def neg (d : Decimal) : Decimal := { d with negative := !d.negative }

/-- The decimal of a small enough natural number. -/
def ofNat (n : Nat) (h : n < twoPow 96) : Decimal := ⟨false, n, 0, h, by decide⟩

/-- The decimal of a small enough integer. -/
def ofInt (i : Int) (h : i.natAbs < twoPow 96) : Decimal := ⟨i < 0, i.natAbs, 0, h, by decide⟩

/-- A 64-bit integer has less than 96 bits. -/
theorem natAbs_toInt_lt (i : Int64) : i.toInt.natAbs < twoPow 96 := by
  have hlt := i.toInt_lt
  have hle := i.le_toInt
  exact Nat.lt_of_le_of_lt (m := 9223372036854775808) (by omega) (by decide)

/-- A signed 64-bit integer as a decimal of scale zero. -/
def ofInt64 (i : Int64) : Decimal :=
  ofInt i.toInt (natAbs_toInt_lt i)

/-- The order of two numbers. -/
def compare (a b : Decimal) : Ordering :=
  Ord.compare (a.signed * tenPow b.scale) (b.signed * tenPow a.scale)

/-- Whether two decimals are the same number. -/
def same (a b : Decimal) : Bool := a.signed * tenPow b.scale == b.signed * tenPow a.scale

/-- The integer that equals the number, if there is one. -/
def toInt? (d : Decimal) : Option Int :=
  if d.coefficient % tenPow d.scale = 0 then
    some (if d.negative then -((d.coefficient / tenPow d.scale : Nat) : Int)
      else ((d.coefficient / tenPow d.scale : Nat) : Int))
  else none

end Decimal

end DynamicSql
