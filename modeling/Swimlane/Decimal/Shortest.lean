import Swimlane.Decimal.Basic

/-!
# The shortest decimal of a double

A double is written with the fewest digits that read back to it; of two candidates of that length
the nearer one is taken, and of two equally near ones the even one.

- `Binary`: a positive double as a mantissa and a power of two, with the gap below it.
- `Binary.roundsTo`: whether a decimal lies in the interval of numbers that round to the double.
- `Binary.shortest`: the decimal that is written.
-/

namespace Swimlane

/-- The number `mantissa * 2 ^ exponent`; `narrowBelow` holds if the next double below is only
half as far away as the next one above. -/
structure Binary where
  mantissa : Nat
  exponent : Int
  narrowBelow : Bool

namespace Binary

/-- The magnitude of a finite double, read off its bits. -/
def ofBits (bits : Nat) : Binary :=
  let fraction : Nat := bits % Nat.pow 2 52
  let power : Nat := bits / Nat.pow 2 52 % Nat.pow 2 11
  if power = 0 then ⟨fraction, -1074, false⟩
  else ⟨fraction + Nat.pow 2 52, (power : Int) - 1075, fraction = 0 && 1 < power⟩

/-- Numerator and denominator of `n * 2 ^ e`. -/
def ratio (n : Nat) (e : Int) : Nat × Nat :=
  if 0 ≤ e then (n * Nat.pow 2 e.toNat, 1) else (n, Nat.pow 2 (-e).toNat)

/-- Whether `n * 10 ^ k` is at most `m * 2 ^ e`. -/
def decimalLe (n : Nat) (k : Int) (m : Nat) (e : Int) : Bool :=
  let (num, den) := ratio m e
  if 0 ≤ k then n * Nat.pow 10 k.toNat * den ≤ num else n * den ≤ num * Nat.pow 10 (-k).toNat

/-- Whether `m * 2 ^ e` is at most `n * 10 ^ k`. -/
def leDecimal (m : Nat) (e : Int) (n : Nat) (k : Int) : Bool :=
  let (num, den) := ratio m e
  if 0 ≤ k then num ≤ n * Nat.pow 10 k.toNat * den else num * Nat.pow 10 (-k).toNat ≤ n * den

/-- Whether `n * 10 ^ k` lies in the interval of numbers that round to the double. The interval
ends halfway to the two neighbours, and its ends belong to it if the mantissa is even. -/
def roundsTo (b : Binary) (n : Nat) (k : Int) : Bool :=
  let e := b.exponent - 2
  let low := 4 * b.mantissa - (if b.narrowBelow then 1 else 2)
  let high := 4 * b.mantissa + 2
  if b.mantissa % 2 = 0 then leDecimal low e n k && decimalLe n k high e
  else !decimalLe n k low e && !leDecimal high e n k

/-- The power of ten of the first digit. -/
def magnitude (b : Binary) : Int :=
  let (num, den) := ratio b.mantissa b.exponent
  if den ≤ num then (Decimal.digitCount (num / den) : Int) - 1
  else
    let d := Decimal.digitCount (den / num)
    if den = num * Nat.pow 10 (d - 1) then 1 - (d : Int) else -(d : Int)

/-- The last multiple of `10 ^ k` that is not above the double, as a count of them. -/
def floorAt (b : Binary) (k : Int) : Nat :=
  let (num, den) := ratio b.mantissa b.exponent
  if 0 ≤ k then num / (den * Nat.pow 10 k.toNat) else num * Nat.pow 10 (-k).toNat / den

/-- Of the two neighbours `n` and `n + 1` on the grid of `10 ^ k` the nearer, or the even one. -/
def nearer (b : Binary) (n : Nat) (k : Int) : Nat :=
  let middle := 2 * n + 1
  let below := leDecimal b.mantissa (b.exponent + 1) middle k
  let above := decimalLe middle k b.mantissa (b.exponent + 1)
  if below && above then (if n % 2 = 0 then n else n + 1) else if below then n else n + 1

/-- Tries grids with more and more digits; the first with a number that rounds to the double
wins. -/
def search (b : Binary) : Nat → Int → Decimal
  | 0, k => ⟨b.floorAt k, k⟩
  | more + 1, k =>
    let n := b.floorAt k
    let low := b.roundsTo n k
    let high := b.roundsTo (n + 1) k
    if low && high then ⟨b.nearer n k, k⟩
    else if low then ⟨n, k⟩
    else if high then ⟨n + 1, k⟩
    else b.search more (k - 1)

/-- The shortest decimal that reads back to the double; seventeen digits always do. -/
def shortest (b : Binary) : Decimal :=
  if b.mantissa = 0 then ⟨0, 0⟩ else (b.search 17 b.magnitude).normalize

end Binary

/-- The shortest decimal of the magnitude of a finite double. -/
def Decimal.shortest (x : Float) : Decimal := (Binary.ofBits x.toBits.toNat).shortest

end Swimlane
