/-!
# Texts in units of two and four bytes

- `Wide.Order`: which byte of a unit comes first.
- `Wide.units`: bytes as units of several bytes.
- `Wide.pairs`: the text of units of two bytes, in which two surrogates make a character.
- `Wide.quads`: the text of units of four bytes.
-/

namespace Swimlane.Text.Wide

/-- Which byte of a unit comes first. -/
inductive Order where
  | highFirst
  | lowFirst
  deriving DecidableEq, Repr

/-- The number that the bytes of a unit write. -/
def unit (order : Order) (bytes : List UInt8) : Nat :=
  let bytes := match order with
    | .highFirst => bytes
    | .lowFirst => bytes.reverse
  bytes.foldl (fun n b => 256 * n + b.toNat) 0

/-- Bytes as units; none if a part of a unit is left. The fuel is not less than the number of
bytes. -/
def unitsWith (order : Order) (size : Nat) : Nat → List UInt8 → Option (List Nat)
  | _, [] => some []
  | 0, _ :: _ => none
  | fuel + 1, bytes =>
    let first := bytes.take size
    if first.length < size then none
    else (unitsWith order size fuel (bytes.drop size)).map (unit order first :: ·)

/-- Bytes as units of a number of bytes. -/
def units (order : Order) (size : Nat) (bytes : List UInt8) : Option (List Nat) :=
  unitsWith order size bytes.length bytes

/-- Whether a unit is the first of two surrogates. -/
def isHigh (n : Nat) : Bool := 0xD800 ≤ n && n < 0xDC00

/-- Whether a unit is the second of two surrogates. -/
def isLow (n : Nat) : Bool := 0xDC00 ≤ n && n < 0xE000

/-- The character of a number; a surrogate alone has the place of a character that is not known. -/
def charOf (n : Nat) : Char := if isHigh n || isLow n then '\uFFFD' else Char.ofNat n

/-- The text of units of two bytes. -/
def joined : List Nat → List Char
  | a :: b :: rest =>
    if isHigh a && isLow b then
      Char.ofNat (0x10000 + (a - 0xD800) * 0x400 + (b - 0xDC00)) :: joined rest
    else charOf a :: joined (b :: rest)
  | [a] => [charOf a]
  | [] => []

/-- The text of bytes in units of two. -/
def pairs? (order : Order) (bytes : List UInt8) : Option (List Char) :=
  (units order 2 bytes).map joined

/-- The text of bytes in units of four, none of which lies beyond the last code point. -/
def quads? (order : Order) (bytes : List UInt8) : Option (List Char) :=
  (units order 4 bytes).bind fun us =>
    if us.all (· < 0x110000) then some (us.map charOf) else none

end Swimlane.Text.Wide
