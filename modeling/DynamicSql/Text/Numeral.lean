/-!
# Decimal numerals

Reading and writing natural numbers with the digits `0` to `9`.
-/

namespace DynamicSql.Text

/-- The ASCII digits. -/
def isDigit (c : Char) : Bool := '0' ≤ c && c ≤ '9'

/-- The value of an ASCII digit. -/
def digitValue (c : Char) : Nat := c.toNat - 48

/-- The value of a string of digits, most significant first. -/
def digitsValue (cs : List Char) : Nat := cs.foldl (fun n c => 10 * n + digitValue c) 0

/-- The numeral of a natural number. -/
def natText (n : Nat) : List Char := Nat.toDigits 10 n

/-- The numeral of an integer. -/
def intText (i : Int) : List Char :=
  if i < 0 then '-' :: natText i.natAbs else natText i.natAbs

/-- A numeral below `bound`: digits only, after an optional plus sign. -/
def readBelow (bound : Nat) (cs : List Char) : Option Nat :=
  let digits := match cs with
    | '+' :: rest => rest
    | _ => cs
  if digits.isEmpty || !digits.all isDigit then none
  else
    let n := digitsValue digits
    if n < bound then some n else none

/-- The hexadecimal digits of a number in lower case, padded with zeros to `width`. -/
def hexText (width n : Nat) : List Char :=
  let digits := Nat.toDigits 16 n
  List.replicate (width - digits.length) '0' ++ digits

end DynamicSql.Text
