/-!
# Decimal numbers

A decimal is a whole number of some power of ten.

- `Decimal`: digits and exponent.
- `Decimal.ofDigits`: the number that a run of digits writes.
- `Decimal.toFloat`: the nearest double.
-/

namespace Swimlane

/-- The number `digits * 10 ^ exponent`. -/
structure Decimal where
  digits : Nat
  exponent : Int
  deriving DecidableEq, Repr

namespace Decimal

/-- The value of a decimal digit. -/
def digitValue (c : Char) : Nat := c.toNat - '0'.toNat

/-- The number that a run of decimal digits writes. -/
def ofDigits (s : List Char) : Nat := s.foldl (fun n c => 10 * n + digitValue c) 0

/-- How many decimal digits a number is written with. -/
def digitCount (n : Nat) : Nat := (Nat.toDigits 10 n).length

/-- The number without the zeros at the end of its digits; `fuel` bounds how many are dropped. -/
def dropZeros : Nat → Decimal → Decimal
  | 0, d => d
  | fuel + 1, d =>
    if d.digits ≠ 0 ∧ d.digits % 10 = 0 then dropZeros fuel ⟨d.digits / 10, d.exponent + 1⟩ else d

/-- The same number with a last digit other than zero. -/
def normalize (d : Decimal) : Decimal := dropZeros (digitCount d.digits) d

/-- The nearest double. Magnitudes beyond every double are infinite, and those below the least
positive one are zero. -/
def toFloat (d : Decimal) : Float :=
  let size := d.exponent + digitCount d.digits
  if d.digits = 0 then 0.0
  else if size > 400 then 1.0 / 0.0
  else if size < -400 then 0.0
  else if 0 ≤ d.exponent then Float.ofScientific d.digits false d.exponent.toNat
  else Float.ofScientific d.digits true (-d.exponent).toNat

end Decimal

/-- The double nearest to a whole number; infinite if its magnitude is beyond every double. -/
def floatOfInt (n : Int) : Float :=
  let x := Decimal.toFloat ⟨n.natAbs, 0⟩
  if n < 0 then -x else x

end Swimlane
