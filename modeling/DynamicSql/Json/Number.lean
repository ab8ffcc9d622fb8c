import DynamicSql.Json.Basic

/-!
# Reading JSON numbers

A number without point and exponent that fits 64 bits is an integer; `-0` is not.
Every other number is a floating-point number made from the leading digits that
fit 64 bits and a power of ten, by one multiplication or division of two
floating-point numbers.  A number beyond the floating-point range is refused.
-/

namespace DynamicSql.Json

open Text (isDigit digitValue)

/-- The digits of a number as far as they fit 64 bits, and the power of ten that
goes with them. -/
structure Significand where
  digits : Nat
  exponent : Int

/-- Take digits before the point: one that has no room, and all after it, only
raise the exponent. -/
def takeWhole (digits : Nat) : List Char → Significand
  | [] => ⟨digits, 0⟩
  | c :: rest =>
    if digits * 10 + digitValue c < twoPow 64 then takeWhole (digits * 10 + digitValue c) rest
    else ⟨digits, (c :: rest).length⟩

/-- Take digits after the point: one that has no room, and all after it, are
dropped. -/
def takePlaces (s : Significand) : List Char → Significand
  | [] => s
  | c :: rest =>
    if s.digits * 10 + digitValue c < twoPow 64 then
      takePlaces ⟨s.digits * 10 + digitValue c, s.exponent - 1⟩ rest
    else s

/-- The floating-point number nearest to a power of ten. -/
def powerOfTen (n : Nat) : Option Binary64 := Binary64.nearest false (tenPow n) 1

/-- Scale by a power of ten, in steps of at most 308. -/
def scaleByTen : (fuel : Nat) → Binary64 → Int → Option Binary64
  | 0, _, _ => none
  | fuel + 1, x, exponent =>
    if exponent.natAbs ≤ 308 then do
      let power ← powerOfTen exponent.natAbs
      if 0 ≤ exponent then x.mul power else x.div power
    else if x.isZero then some x
    else if 0 ≤ exponent then none
    else do
      let power ← powerOfTen 308
      scaleByTen fuel (← x.div power) (exponent + 308)

/-- The floating-point number of a significand with an exponent. -/
def floatOf (negative : Bool) (s : Significand) : Option Binary64 := do
  let x ← scaleByTen 4 (← Binary64.ofNat s.digits) s.exponent
  some (if negative then x.neg else x)

/-- Add an exponent with its sign; beyond 32 bits a zero stays zero, a negative
exponent leads to zero and a positive one out of range. -/
def withExponent (negative : Bool) (s : Significand) (minus : Bool) (digits : List Char) :
    Option Binary64 :=
  let e := Text.digitsValue digits
  if e < twoPow 31 then
    floatOf negative ⟨s.digits, if minus then s.exponent - e else s.exponent + e⟩
  else if s.digits ≠ 0 ∧ !minus then none
  else some (Binary64.zero negative)

/-- Whether a significand without point and exponent is an integer. -/
def integerOf? (negative : Bool) (s : Significand) : Option Int :=
  if s.exponent ≠ 0 then none
  else if !negative then some s.digits
  else if 0 < s.digits ∧ s.digits ≤ twoPow 63 then some (-(s.digits : Int))
  else none

/-- The sign of an exponent and what follows it. -/
def exponentSign : List Char → Bool × List Char
  | '-' :: rest => (true, rest)
  | '+' :: rest => (false, rest)
  | rest => (false, rest)

/-- The part of a number after its point, if any: an optional exponent. -/
def readExponent (negative : Bool) (s : Significand) (cs : List Char) :
    Option (JsonNumber × List Char) :=
  match cs with
  | c :: rest =>
    if c = 'e' || c = 'E' then
      let (minus, rest) := exponentSign rest
      let digits := rest.takeWhile isDigit
      if digits.isEmpty then none
      else (withExponent negative s minus digits).map
        fun x => (.float x, rest.dropWhile isDigit)
    else (floatOf negative s).map fun x => (.float x, cs)
  | [] => (floatOf negative s).map fun x => (.float x, [])

/-- Read a number after its minus sign. -/
def readUnsigned (negative : Bool) (cs : List Char) : Option (JsonNumber × List Char) :=
  let whole := cs.takeWhile isDigit
  let rest := cs.dropWhile isDigit
  if whole.isEmpty || (whole.head? == some '0' && whole.length != 1) then none
  else
    let s := takeWhole 0 whole
    match rest with
    | '.' :: after =>
      let places := after.takeWhile isDigit
      if places.isEmpty then none
      else readExponent negative (takePlaces s places) (after.dropWhile isDigit)
    | _ =>
      if rest.head? == some 'e' || rest.head? == some 'E' then readExponent negative s rest
      else match integerOf? negative s with
        | some i => some (.integer i, rest)
        | none => (floatOf negative s).map fun x => (.float x, rest)

/-- Read a number. -/
def readNumber : List Char → Option (JsonNumber × List Char)
  | '-' :: rest => readUnsigned true rest
  | cs => readUnsigned false cs

/-- Skip a number without looking at its size. -/
def skipNumber (cs : List Char) : Option (List Char) :=
  let cs := match cs with
    | '-' :: rest => rest
    | _ => cs
  let whole := cs.takeWhile isDigit
  let rest := cs.dropWhile isDigit
  let skipExponent (rest : List Char) : Option (List Char) :=
    if rest.head? == some 'e' || rest.head? == some 'E' then
      let after := (exponentSign rest.tail).2
      if (after.takeWhile isDigit).isEmpty then none else some (after.dropWhile isDigit)
    else some rest
  if whole.isEmpty || (whole.head? == some '0' && whole.length != 1) then none
  else match rest with
    | '.' :: after =>
      if (after.takeWhile isDigit).isEmpty then none else skipExponent (after.dropWhile isDigit)
    | _ => skipExponent rest

end DynamicSql.Json
