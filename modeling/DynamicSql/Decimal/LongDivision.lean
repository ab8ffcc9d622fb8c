import DynamicSql.Powers

/-!
# Long division by wide divisors

A remainder by a divisor of 65 to 96 bits is found word by word: divisor and
dividend are shifted until the divisor has 96 bits, and the remainder so far takes
up one 32-bit word of the dividend after the other.  The quotient digit of a step
is estimated from leading words and has to fit a word itself.
-/

namespace DynamicSql

/-- The remainder that one step leaves.  The estimate of the quotient digit does not fit
a word when the dividend starts with the divisor's first word; the dividend then loses
that word. -/
def stepRemainder (divisor dividend : Nat) : Nat :=
  if dividend / twoPow 96 < divisor / twoPow 64 then dividend % divisor
  else dividend % twoPow 96 % divisor

/-- The remainder of the `words` lower words of a number, from its first word to its
last. -/
def wordRemainder (divisor : Nat) : (words : Nat) → (n : Nat) → Nat
  | 0, _ => 0
  | words + 1, n =>
    stepRemainder divisor
      (wordRemainder divisor words (n / twoPow 32) * twoPow 32 + n % twoPow 32)

/-- The remainder by a divisor of 65 to 96 bits.  A 96-bit number times `10 ^ 28`, shifted
with the divisor, has at most seven words. -/
def wideRemainder (n divisor : Nat) : Nat :=
  let shift := twoPow (95 - Nat.log2 divisor)
  wordRemainder (divisor * shift) 7 (n * shift) / shift

end DynamicSql
