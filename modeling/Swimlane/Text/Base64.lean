/-!
# Base 64

Bytes written with sixty-four characters, four of which stand for three bytes.

- `Base64.value?`: the six bits that a character stands for.
- `Base64.decode?`: the bytes of a text. Characters that stand for nothing are passed over, and what
  follows complete padding does not count.
-/

namespace Swimlane.Base64

/-- The six bits that a character stands for. -/
def value? (c : Char) : Option Nat :=
  if 'A' ≤ c ∧ c ≤ 'Z' then some (c.toNat - 'A'.toNat)
  else if 'a' ≤ c ∧ c ≤ 'z' then some (c.toNat - 'a'.toNat + 26)
  else if c.isDigit then some (c.toNat - '0'.toNat + 52)
  else if c = '+' then some 62
  else if c = '/' then some 63
  else none

/-- What has been read: the number of characters of the current four, the bits of them that are
left, how many padding marks followed, and the bytes, the last first. -/
structure State where
  position : Nat
  bits : Nat
  pads : Nat
  bytes : List UInt8

/-- Reads six bits. -/
def State.push (s : State) (v : Nat) : State :=
  match s.position with
  | 0 => ⟨1, v, 0, s.bytes⟩
  | 1 => ⟨2, v % 16, 0, (s.bits * 4 + v / 16).toUInt8 :: s.bytes⟩
  | 2 => ⟨3, v % 4, 0, (s.bits * 16 + v / 4).toUInt8 :: s.bytes⟩
  | _ => ⟨0, 0, 0, (s.bits * 64 + v).toUInt8 :: s.bytes⟩

/-- The bytes of a text after what has been read. -/
def decodeFrom? (s : State) : List Char → Option (List UInt8)
  | [] => if s.position = 0 then some s.bytes.reverse else none
  | c :: rest =>
    if c = '=' then
      if s.position < 2 then decodeFrom? s rest
      else if 4 ≤ s.position + s.pads + 1 then some s.bytes.reverse
      else decodeFrom? { s with pads := s.pads + 1 } rest
    else
      match value? c with
      | some v => decodeFrom? (s.push v) rest
      | none => decodeFrom? s rest

/-- The bytes of a text; none if it ends amid four characters. -/
def decode? (s : List Char) : Option (List UInt8) := decodeFrom? ⟨0, 0, 0, []⟩ s

end Swimlane.Base64
