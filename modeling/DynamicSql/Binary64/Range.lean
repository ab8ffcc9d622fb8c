import DynamicSql.Binary64.Basic

/-!
# What floating-point numbers there are

The parts of a floating-point number are limited, and each number has them in one way only:
the mantissa is as long as it can be unless the exponent is the least one.
-/

namespace DynamicSql.Binary64

/-- Whether a mantissa and an exponent are those of a floating-point number. -/
def WellFormed (x : Binary64) : Prop :=
  x.mantissa < twoPow 53 ∧ -1074 ≤ x.exponent ∧ x.exponent ≤ 971 ∧
    (x.exponent = -1074 ∨ twoPow 52 ≤ x.mantissa)

instance (x : Binary64) : Decidable x.WellFormed :=
  inferInstanceAs (Decidable (_ ∧ _ ∧ _ ∧ (_ ∨ _)))

/-- The exponent with which the mantissa of a fraction has 53 bits, if there is one. -/
def nearestExponent (num den : Nat) : Int := max (log2Floor num den - 52) (-1074)

/-- The number that a floating-point number stands for. -/
def toRat (x : Binary64) : Rat :=
  mkRat (if x.negative then -(x.fraction.1 : Int) else x.fraction.1) x.fraction.2

end DynamicSql.Binary64
