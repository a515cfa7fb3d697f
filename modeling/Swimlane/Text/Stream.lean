import Swimlane.Text.Utf8

/-!
# Texts that are read in pieces

A text file is read in portions of characters. For each of them pieces of bytes are decoded until
there are enough characters, so that bytes that are no text are met only when the portion that they
belong to is asked for, and their place is told from the beginning of the piece.

- `Stream.read`: the characters of all good portions, and the fault behind them, if there is one.
-/

namespace Swimlane.Text.Stream

/-- The number of characters of a portion. -/
def portion : Nat := 4096

/-- The number of portions that are asked for at once in the beginning. -/
def firstPortions : Nat := 2

/-- The least number of bytes of a piece. -/
def piece : Nat := 8192

/-- A file that is being read: the bytes left, those that begin a character whose rest was not
there yet, whether a carriage return waits for a line feed, the size of the last piece in bytes and
in characters, and the characters that were decoded but not asked for. -/
structure State where
  left : List UInt8
  pending : List UInt8
  held : Bool
  lastBytes : Nat
  lastChars : Nat
  waiting : List Char

/-- The characters of bytes, and the bytes at the end that begin a character. -/
def decodePiece (bytes : List UInt8) (last : Bool) :
    Except Utf8.DecodeFault (List Char × List UInt8) :=
  match Utf8.decode bytes with
  | .ok s => .ok (s.toList, [])
  | .error f =>
    if f.cause = .cutShort && !last then
      match Utf8.decode (bytes.take f.position) with
      | .ok s => .ok (s.toList, bytes.drop f.position)
      | .error f => .error f
    else .error f

/-- The line breaks of a text as line feeds. -/
def unifyReturns : List Char → List Char
  | [] => []
  | '\r' :: '\n' :: rest => '\n' :: unifyReturns rest
  | '\r' :: rest => '\n' :: unifyReturns rest
  | c :: rest => c :: unifyReturns rest

/-- Decodes the next piece, of which some characters are wanted. -/
def State.pull (s : State) (wanted : Nat) : Except Utf8.DecodeFault State := do
  let guess := if s.lastChars = 0 then 0 else s.lastBytes * wanted / s.lastChars
  let size := max piece guess
  let bytes := s.left.take size
  let left := s.left.drop size
  let (chars, pending) ← decodePiece (s.pending ++ bytes) bytes.isEmpty
  let chars := if s.held then '\r' :: chars else chars
  let held := !bytes.isEmpty && chars.getLast? = some '\r'
  let found := unifyReturns (if held then chars.dropLast else chars)
  .ok ⟨left, pending, held, bytes.length, found.length, s.waiting ++ found⟩

/-- Decodes pieces until there are enough characters or no bytes are left; the fuel exceeds the
number of pieces. -/
def State.fill (count : Nat) : Nat → State → Except Utf8.DecodeFault State
  | 0, s => .ok s
  | fuel + 1, s =>
    if count ≤ s.waiting.length then .ok s
    else do
      let next ← s.pull (count - s.waiting.length)
      if s.left.isEmpty then .ok next else fill count fuel next

/-- The portions of a file one after another, and the fault behind them. -/
def portions : Nat → State → List (List Char) × Option Utf8.DecodeFault
  | 0, _ => ([], none)
  | fuel + 1, s =>
    match s.fill portion (s.left.length + 2) with
    | .error f => ([], some f)
    | .ok s =>
      let front := s.waiting.take portion
      if front.isEmpty then ([], none)
      else
        let (more, fault) := portions fuel { s with waiting := s.waiting.drop portion }
        (front :: more, fault)

/-- The characters of all good portions, and the fault behind them, if there is one. The first
portions are good only together. -/
def read (bytes : List UInt8) : List Char × Option Utf8.DecodeFault :=
  let (parts, fault) := portions (bytes.length + 1) ⟨bytes, [], false, 0, 0, []⟩
  if fault.isSome && parts.length < firstPortions then ([], fault) else (parts.flatten, fault)

end Swimlane.Text.Stream
