import Swimlane.Decimal.Style
import Swimlane.Json.Writer
import Swimlane.Text.Torn

/-!
# JSON values from outside

What a JSON text says. Other than in a value that is sent, texts may be torn.

- `Json.Raw`: a JSON value from outside.
- `Json.Raw.field?`: the member of an object with a given key.
- `Json.Raw.isFinite`: whether all doubles in a value are finite.
- `Json.Raw.pieces`: the text of a value on one line, which is torn if a text in it is.
-/

namespace Swimlane.Json

/-- A JSON value from outside. -/
inductive Raw where
  | null
  | bool (b : Bool)
  | int (n : Int)
  | float (x : Float)
  | text (t : Text.Raw)
  | arr (items : List Raw)
  | obj (members : List (Text.Raw × Raw))
  deriving Inhabited

namespace Raw

/-- The member with a given key. -/
def field? (members : List (Text.Raw × Raw)) (key : String) : Option Raw :=
  members.lookup (.whole key)

mutual
/-- Whether all doubles in a value are finite. -/
def isFinite : Raw → Bool
  | .float x => x.isFinite
  | .arr items => areFinite items
  | .obj members => haveFinite members
  | _ => true

/-- Whether all doubles in items are finite. -/
def areFinite : List Raw → Bool
  | [] => true
  | v :: rest => v.isFinite && areFinite rest

/-- Whether all doubles in members are finite. -/
def haveFinite : List (Text.Raw × Raw) → Bool
  | [] => true
  | (_, v) :: rest => v.isFinite && haveFinite rest
end

/-- Characters as pieces. -/
def plain (s : String) : List Text.Piece := s.toList.map .whole

/-- One piece of a string. -/
def escapePiece (escapeNonAscii : Bool) : Text.Piece → List Text.Piece
  | .whole c => (escapeChar escapeNonAscii c).map .whole
  | .half h => if escapeNonAscii then (unitEscape h.code).map .whole else [.half h]

/-- A string between its quotes. -/
def textPieces (escapeNonAscii : Bool) (t : Text.Raw) : List Text.Piece :=
  .whole '"' :: t.pieces.flatMap (escapePiece escapeNonAscii) ++ [.whole '"']

/-- Items or members between their brackets. -/
def enclosed (opening closing : Char) (parts : List (List Text.Piece)) : List Text.Piece :=
  .whole opening :: [Text.Piece.whole ','].intercalate parts ++ [.whole closing]

mutual
/-- The text of a value on one line. -/
def pieces (f : Format) : Raw → List Text.Piece
  | .null => plain "null"
  | .bool b => plain (if b then "true" else "false")
  | .int n => plain (toString n)
  | .float x => plain (f.number.write x)
  | .text t => textPieces f.escapeNonAscii t
  | .arr items => enclosed '[' ']' (itemPieces f items)
  | .obj members => enclosed '\x7b' '\x7d' (memberPieces f members)

/-- The texts of the items of a list. -/
def itemPieces (f : Format) : List Raw → List (List Text.Piece)
  | [] => []
  | v :: rest => pieces f v :: itemPieces f rest

/-- The texts of the members of an object. -/
def memberPieces (f : Format) : List (Text.Raw × Raw) → List (List Text.Piece)
  | [] => []
  | (k, v) :: rest =>
    (textPieces f.escapeNonAscii k ++ .whole ':' :: pieces f v) :: memberPieces f rest
end

end Raw

end Swimlane.Json
