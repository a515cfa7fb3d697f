import Swimlane.Text.Utf8
import Swimlane.Text.Wide

/-!
# Bodies of requests

The text in a body is written in units of one, two or four bytes. Which it is shows at its first
bytes: a mark may stand there, and the first characters of JSON are never zero.

- `Service.Encoding`: how a text is written.
- `Service.Encoding.ofBytes`: the encoding that the first bytes show, with what follows a mark.
- `Service.bodyText?`: the text in a body; there is none if a part of it is no character.
-/

namespace Swimlane.Service

open Text

/-- How a text is written. -/
inductive Encoding where
  | bytes
  | pairs (order : Wide.Order)
  | quads (order : Wide.Order)
  deriving DecidableEq, Repr

namespace Encoding

/-- The encoding that a mark shows, with what follows the mark. -/
def marked? : List UInt8 → Option (Encoding × List UInt8)
  | 0x00 :: 0x00 :: 0xFE :: 0xFF :: rest => some (.quads .highFirst, rest)
  | 0xFF :: 0xFE :: 0x00 :: 0x00 :: rest => some (.quads .lowFirst, rest)
  | 0xFE :: 0xFF :: rest => some (.pairs .highFirst, rest)
  | 0xFF :: 0xFE :: rest => some (.pairs .lowFirst, rest)
  | 0xEF :: 0xBB :: 0xBF :: rest => some (.bytes, rest)
  | _ => none

/-- The encoding that the places of zeros show. -/
def unmarked : List UInt8 → Encoding
  | a :: b :: c :: d :: _ =>
    if a = 0 then (if b = 0 then .quads .highFirst else .pairs .highFirst)
    else if b = 0 then (if c = 0 && d = 0 then .quads .lowFirst else .pairs .lowFirst)
    else .bytes
  | [a, b] =>
    if a = 0 then .pairs .highFirst
    else if b = 0 then .pairs .lowFirst
    else .bytes
  | _ => .bytes

/-- The encoding that the first bytes show, with the bytes of the text. -/
def ofBytes (bytes : List UInt8) : Encoding × List UInt8 :=
  (marked? bytes).getD (unmarked bytes, bytes)

/-- The text of bytes in an encoding. -/
def decode? : Encoding → List UInt8 → Option (List Char)
  | .bytes, bs => (Utf8.decode bs).toOption.map String.toList
  | .pairs order, bs => Wide.pairs? order bs
  | .quads order, bs => Wide.quads? order bs

end Encoding

/-- The text in a body. -/
def bodyText? (body : List UInt8) : Option (List Char) :=
  let (encoding, bytes) := Encoding.ofBytes body
  encoding.decode? bytes

end Swimlane.Service
