import DynamicSql.Decimal.Basic
import DynamicSql.Decimal.LongDivision

/-!
# Decimal arithmetic

Every operation has an exact rational result.  The decimal that stands for it
has as many places as fit, at most 28: the coefficient is the result times a
power of ten, rounded to nearest, and the largest power for which it stays below
`2 ^ 96` counts.  Ties go to even; for quotients by wide divisors, some go up.  A
result that does not fit with no places at all overflows.  Afterwards trailing
zeros are dropped.  Remainders by wide divisors come from long division by words.
-/

namespace DynamicSql.Decimal

/-- The decimal nearest to `num / den` with at most `places` places; `tieUp` says with
how many places a tie goes up. -/
def nearest (tieUp : Nat → Bool) (negative : Bool) (num den : Nat) :
    (places : Nat) → places ≤ 28 → Option Decimal
  | 0, _ =>
    let c := roundHalf (tieUp 0) num den
    if h : c < twoPow 96 then some ⟨negative, c, 0, h, by decide⟩ else none
  | places + 1, hp =>
    let c := roundHalf (tieUp (places + 1)) (num * tenPow (places + 1)) den
    if h : c < twoPow 96 then some ⟨negative, c, places + 1, h, hp⟩
    else nearest tieUp negative num den places (by omega)

/-- Drop zeros from the end of a coefficient and its places. -/
def stripZeros (coefficient : Nat) : (scale : Nat) → Nat × Nat
  | 0 => (coefficient, 0)
  | scale + 1 =>
    if coefficient % 10 = 0 then stripZeros (coefficient / 10) scale
    else (coefficient, scale + 1)

theorem stripZeros_le (coefficient scale : Nat) :
    (stripZeros coefficient scale).1 ≤ coefficient ∧ (stripZeros coefficient scale).2 ≤ scale := by
  induction scale generalizing coefficient with
  | zero => simp [stripZeros]
  | succ scale ih =>
    unfold stripZeros
    split
    · have h := ih (coefficient / 10)
      exact ⟨Nat.le_trans h.1 (Nat.div_le_self ..), Nat.le_trans h.2 (Nat.le_succ _)⟩
    · simp

/-- The same number with the fewest places; zero loses its sign. -/
def normalize (d : Decimal) : Decimal :=
  if d.coefficient = 0 then zero
  else
    let stripped := stripZeros d.coefficient d.scale
    have h := stripZeros_le d.coefficient d.scale
    ⟨d.negative, stripped.1, stripped.2,
      Nat.lt_of_le_of_lt h.1 d.coefficient_lt, Nat.le_trans h.2 d.scale_le⟩

/-- The normalised decimal nearest to the fraction `num / den`. -/
def ofFraction (tieUp : Nat → Bool) (num : Int) (den : Nat) : Option Decimal :=
  (nearest tieUp (num < 0) num.natAbs den 28 (by decide)).map normalize

/-- Every tie goes to even. -/
def toEven (_places : Nat) : Bool := false

/-- The sum. -/
def add (a b : Decimal) : Option Decimal :=
  ofFraction toEven (a.signed * tenPow b.scale + b.signed * tenPow a.scale)
    (tenPow (a.scale + b.scale))

/-- The difference. -/
def sub (a b : Decimal) : Option Decimal :=
  ofFraction toEven (a.signed * tenPow b.scale - b.signed * tenPow a.scale)
    (tenPow (a.scale + b.scale))

/-- The product. -/
def mul (a b : Decimal) : Option Decimal :=
  ofFraction toEven (a.signed * b.signed) (tenPow (a.scale + b.scale))

/-! ## Division -/

/-- With how many places a tie of the quotient goes up.  Digits are developed in groups
behind the integer quotient of the coefficients: nine digits, or as many as leave the
coefficient below `2 ^ 96` with zeros in their place.  If the group's own digits push the
coefficient over that limit all the same, the last digit is dropped again, and with a
divisor of more than 64 bits a tie goes up then. -/
def quotientTieUp (a b : Decimal) (places : Nat) : Bool :=
  let developed := places + b.scale - a.scale
  let kept := developed % 9
  let before := a.coefficient * tenPow (developed - kept) / b.coefficient
  decide (twoPow 64 ≤ b.coefficient ∧ places < 28 ∧ before * tenPow (kept + 1) < twoPow 96)

/-- The quotient; the divisor is not zero. -/
def div (a b : Decimal) : Option Decimal :=
  ofFraction (quotientTieUp a b) ((if b.negative then -a.signed else a.signed) * tenPow b.scale)
    (b.coefficient * tenPow a.scale)

/-- The remainder of two coefficients of one scale: exact, unless the divisor is wide and
the dividend not smaller. -/
def remainder (dividend divisor : Nat) : Nat :=
  if divisor < twoPow 64 ∨ dividend < divisor then dividend % divisor
  else wideRemainder dividend divisor

/-- The remainder of the division that truncates toward zero; the divisor is not
zero, and the remainder has the sign of the dividend. -/
def rem (a b : Decimal) : Option Decimal :=
  let r := remainder (a.coefficient * tenPow (b.scale - a.scale))
    (b.coefficient * tenPow (a.scale - b.scale))
  ofFraction toEven (if a.negative then -(r : Int) else r)
    (tenPow (a.scale + (b.scale - a.scale)))

end DynamicSql.Decimal
