import Swimlane.Decimal.Shortest

/-!
# Ways of writing a double

- `Decimal.Style`: which magnitudes are written without an exponent, how wide an exponent is, and
  what stands for the doubles that are not numbers or not finite.
- `Decimal.Style.write`: a double in a given style.
-/

namespace Swimlane.Decimal

/-- How doubles are written. -/
structure Style where
  /-- The least power of ten of the first digit that is written without an exponent. -/
  plainFrom : Int
  /-- The least power of ten of the first digit, above `plainFrom`, that needs an exponent. -/
  plainBelow : Int
  /-- The least number of digits of an exponent. -/
  exponentWidth : Nat
  /-- What stands for a result that is not a number. -/
  notANumber : String
  infinity : String
  negativeInfinity : String

namespace Style

/-- The digits of a number, with leading zeros up to the width. -/
def padded (width n : Nat) : List Char :=
  let ds := Nat.toDigits 10 n
  List.replicate (width - ds.length) '0' ++ ds

/-- Digits with a point before the last `places` of them, at least one digit on each side. -/
def plain (ds : List Char) (exponent : Int) : List Char :=
  if 0 ≤ exponent then ds ++ List.replicate exponent.toNat '0' ++ ['.', '0']
  else
    let places := (-exponent).toNat
    let all := List.replicate (places + 1 - ds.length) '0' ++ ds
    all.take (all.length - places) ++ '.' :: all.drop (all.length - places)

/-- Digits with a point after the first, and the power of ten of the first digit. -/
def scientific (style : Style) (ds : List Char) (power : Int) : List Char :=
  let tail := match ds with
    | [] => []
    | [d] => [d]
    | d :: rest => d :: '.' :: rest
  tail ++ 'e' :: (if power < 0 then '-' else '+') :: padded style.exponentWidth power.natAbs

/-- A finite magnitude. -/
def writeMagnitude (style : Style) (d : Decimal) : List Char :=
  let ds := Nat.toDigits 10 d.digits
  let power := d.exponent + ds.length - 1
  if d.digits = 0 then ['0', '.', '0']
  else if style.plainFrom ≤ power && power < style.plainBelow then plain ds d.exponent
  else scientific style ds power

/-- A double in the given style. -/
def write (style : Style) (x : Float) : String :=
  if x.isNaN then style.notANumber
  else if x.isInf then (if x < 0 then style.negativeInfinity else style.infinity)
  else
    let text := writeMagnitude style (Decimal.shortest x)
    String.ofList (if x.toBits.toNat / Nat.pow 2 63 = 1 then '-' :: text else text)

end Style

end Swimlane.Decimal
