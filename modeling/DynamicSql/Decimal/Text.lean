import DynamicSql.Decimal.Arithmetic
import DynamicSql.Text.Numeral

/-!
# Decimal text

A decimal is written with all its places, and a zero keeps its sign.  Reading
takes an optional sign, digits, at most one point, and underscores after the
first digit.  Digits beyond the 28th place, or that the coefficient has no room
for, are dropped: the first of them rounds, five upwards, and the rest is not
looked at.  `exact` reading refuses them instead.
-/

namespace DynamicSql

/-- Why a text is not a decimal. -/
inductive DecimalFault
  | empty
  | noDigits
  | secondPoint
  | leadingSeparator
  | unknownCharacter
  | tooManyDigits
  | roundsTooFar
  | tooPrecise
  deriving DecidableEq, Repr

/-- The words for a fault. -/
def DecimalFault.message : DecimalFault → String
  | .empty => "Invalid decimal: empty"
  | .noDigits => "Invalid decimal: no digits found"
  | .secondPoint => "Invalid decimal: two decimal points"
  | .leadingSeparator => "Invalid decimal: must start lead with a number"
  | .unknownCharacter => "Invalid decimal: unknown character"
  | .tooManyDigits => "Invalid decimal: overflow from too many digits"
  | .roundsTooFar => "Invalid decimal: overflow from mantissa after rounding"
  | .tooPrecise => "Number has a high precision that can not be represented."

namespace Decimal

open Text (isDigit digitValue natText)

/-! ## Writing -/

/-- The digits of a coefficient with a point before the last `scale` of them. -/
def pointText (coefficient scale : Nat) : List Char :=
  let digits := natText coefficient
  let padded := List.replicate (scale + 1 - digits.length) '0' ++ digits
  if scale = 0 then padded
  else padded.take (padded.length - scale) ++ '.' :: padded.drop (padded.length - scale)

/-- The text of a decimal. -/
def chars (d : Decimal) : List Char :=
  let body := pointText d.coefficient d.scale
  if d.negative then '-' :: body else body

/-- The text of a decimal. -/
def text (d : Decimal) : String := String.ofList d.chars

/-! ## Reading -/

/-- A decimal from a coefficient known to fit; a zero is not negative. -/
def ofParts (negative : Bool) (coefficient scale : Nat) : Except DecimalFault Decimal :=
  if h : coefficient < twoPow 96 ∧ scale ≤ 28 then
    .ok ⟨negative && coefficient != 0, coefficient, scale, h.1, h.2⟩
  else .error .roundsTooFar

/-- The fault of a character that is no digit. -/
def badCharacter (c : Char) : DecimalFault :=
  if c = '.' then .secondPoint
  else if c = '_' then .leadingSeparator
  else .unknownCharacter

/-- Finish a coefficient that has no room for the next character. -/
def roundOff (negative : Bool) (coefficient scale : Nat) (next : Char) :
    Except DecimalFault Decimal :=
  if isDigit next || next = '_' then
    if 5 ≤ digitValue next && isDigit next then
      if coefficient + 1 < twoPow 96 then ofParts negative (coefficient + 1) scale
      else if scale = 0 then .error .roundsTooFar
      else ofParts negative ((coefficient + 1 + 4) / 10) (scale - 1)
    else ofParts negative coefficient scale
  else .error (badCharacter next)

/-- Read digits, point and underscores.  `point` tells whether the point has been
seen, `started` whether a digit has. -/
def readDigits (exact negative : Bool) :
    (point started : Bool) → (coefficient scale : Nat) → List Char → Except DecimalFault Decimal
  | _, started, coefficient, scale, [] =>
    if started then ofParts negative coefficient scale else .error .noDigits
  | point, started, coefficient, scale, c :: rest =>
    if point && scale ≥ 28 then
      if exact then .error .tooPrecise else roundOff negative coefficient scale c
    else if isDigit c then
      let next := coefficient * 10 + digitValue c
      if next < twoPow 96 then
        readDigits exact negative point true next (if point then scale + 1 else scale) rest
      else if !point then .error .tooManyDigits
      else if exact then .error .tooPrecise
      else roundOff negative coefficient scale c
    else if c = '.' && !point then readDigits exact negative true started coefficient scale rest
    else if c = '_' && started then readDigits exact negative point started coefficient scale rest
    else .error (badCharacter c)

/-- Read a decimal, either rounding what has no room or refusing it. -/
def read (exact : Bool) : List Char → Except DecimalFault Decimal
  | [] => .error .empty
  | '-' :: rest => readDigits exact true false false 0 0 rest
  | '+' :: rest => readDigits exact false false false 0 0 rest
  | cs => readDigits exact false false false 0 0 cs

/-- Read a decimal, rounding digits that have no room. -/
def parse (s : String) : Except DecimalFault Decimal := read false s.toList

/-! ## Scientific notation -/

/-- Ten to a small power as a decimal. -/
def powerOfTen (n : Nat) (h : n ≤ 28) : Decimal := ofNat (tenPow n) (tenPow_lt h)

/-- The same digits with another scale. -/
def withScale? (d : Decimal) (scale : Nat) : Option Decimal :=
  if h : scale ≤ 28 then some { d with scale := scale, scale_le := h } else none

/-- Read digits with an exponent, such as `1.5e-7`.  A positive exponent beyond
the places of the digits is at most 28. -/
def readScientific (cs : List Char) : Option Decimal := do
  let base := cs.takeWhile fun c => c ≠ 'e' && c ≠ 'E'
  let exponent ← (cs.dropWhile fun c => c ≠ 'e' && c ≠ 'E').tail?
  let d ← (read false base).toOption
  match exponent with
  | '-' :: digits =>
    let e ← Text.readBelow (twoPow 32) digits
    d.withScale? (d.scale + e)
  | digits =>
    let e ← Text.readBelow (twoPow 32) digits
    if e ≤ d.scale then d.withScale? (d.scale - e)
    else if h : e ≤ 28 then d.mul (powerOfTen e h)
    else none

end Decimal

end DynamicSql
