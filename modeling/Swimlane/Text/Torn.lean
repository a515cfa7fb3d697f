import Swimlane.Text.Blank
import Swimlane.Text.Digits

/-!
# Torn texts

An escape may name a surrogate, which is half of a character and none by itself. A text in which
halves stand alone is torn: it can be kept and compared, but it has no characters to be counted and
cannot be written as bytes.

- `Half`, `Piece`: half of a character, and what texts consist of.
- `Torn`: a text in which halves stand alone.
- `Raw`: a text from outside, whole or torn, and `Raw.ofPieces` for the text of pieces.
- `Halves`, `firstHalves?`: the halves that stand together first among pieces.
-/

namespace Swimlane.Text

/-- Half of a character, numbered from the first one. -/
abbrev Half := Fin 0x800

/-- The code point of a half. -/
def Half.code (h : Half) : Nat := 0xD800 + h

/-- A character, or half of one that stands alone. -/
inductive Piece where
  | whole (c : Char)
  | half (h : Half)
  deriving DecidableEq, Repr

namespace Piece

/-- The piece with a code point. -/
def ofCode (n : Nat) : Piece :=
  if h : 0xD800 ≤ n ∧ n < 0xE000 then .half ⟨n - 0xD800, by omega⟩ else .whole (Char.ofNat n)

/-- Whether a piece is half of a character. -/
def isHalf : Piece → Bool
  | whole _ => false
  | half _ => true

/-- The character that a piece is. -/
def char? : Piece → Option Char
  | whole c => some c
  | half _ => none

end Piece

/-- A text in which halves of characters stand alone. -/
structure Torn where
  pieces : List Piece
  isTorn : pieces.any Piece.isHalf = true
  deriving DecidableEq, Repr

/-- A text from outside. -/
inductive Raw where
  | whole (text : String)
  | torn (text : Torn)
  deriving DecidableEq, Repr

namespace Raw

/-- The text of pieces. -/
def ofPieces (pieces : List Piece) : Raw :=
  if h : pieces.any Piece.isHalf = true then .torn ⟨pieces, h⟩
  else .whole (String.ofList (pieces.filterMap Piece.char?))

/-- The pieces of a text. -/
def pieces : Raw → List Piece
  | whole text => text.toList.map .whole
  | torn text => text.pieces

/-- Whether halves stand in a text. -/
def isTorn : Raw → Bool
  | whole _ => false
  | torn _ => true

/-- The text, if it is whole. -/
def whole? : Raw → Option String
  | whole text => some text
  | torn _ => none

/-- Whether there is nothing in a text. -/
def isEmpty (text : Raw) : Bool := text.pieces.isEmpty

/-- Whether a piece is a blank. -/
def isBlankPiece (p : Piece) : Bool := p.char?.any isBlank

/-- A text without the blanks around it. -/
def trimmed (text : Raw) : Raw :=
  let front := text.pieces.dropWhile isBlankPiece
  ofPieces (front.reverse.dropWhile isBlankPiece).reverse

end Raw

/-- Halves that stand together: the place of the first, its code point, and how many they are. -/
structure Halves where
  place : Nat
  first : Nat
  count : Nat
  deriving DecidableEq, Repr

/-- The halves that stand together first among pieces. -/
def firstHalves? (pieces : List Piece) : Option Halves :=
  let place := (pieces.takeWhile (!·.isHalf)).length
  match pieces.drop place with
  | .half h :: rest => some ⟨place, h.code, 1 + (rest.takeWhile Piece.isHalf).length⟩
  | _ => none

/-- What is told about halves that keep a text from being written as bytes. -/
def Halves.message (h : Halves) : String :=
  let what :=
    if h.count = 1 then
      "character '\\u" ++ String.ofList (hexDigits 4 h.first) ++ "' in position " ++
        toString h.place
    else "characters in position " ++ toString h.place ++ "-" ++ toString (h.place + h.count - 1)
  "'utf-8' codec can't encode " ++ what ++ ": surrogates not allowed"

end Swimlane.Text
