import Swimlane.Json.Basic
import Swimlane.Notation.Parser
import Swimlane.Text.Torn

/-!
# Reading torn texts

Half of a character is no blank, no mark and no part of a word, and has no other case. So a torn text
is read by what is written in its place: whole characters only, with a row of stand-ins for each
half. The row is longer than the text, which therefore has no such row of its own: what is read from
a part of the text holds it if and only if there is a half in this part.

- `Torn.mark`, `Torn.write`, `Torn.written`: the row of stand-ins, and a torn text in whole
  characters.
- `Torn.tears`: whether what was read has a half in it; `Raw.tears` for a JSON value.
- `Torn.admits`: whether a record may be declared in a torn text.
- `Notation.recordsOf`, `Notation.read`: what a text from outside declares, and its document.
-/

namespace Swimlane

namespace Text

/-- The character of stand-ins, which is never assigned. -/
def standIn : Char := Char.ofNat 0x10FFFF

namespace Torn

/-- The stand-ins for one half. -/
def mark (t : Torn) : List Char := List.replicate (t.pieces.length + 1) standIn

/-- Pieces of a torn text in whole characters. -/
def write (t : Torn) (pieces : List Piece) : List Char :=
  pieces.flatMap fun
    | .whole c => [c]
    | .half _ => t.mark

/-- A torn text in whole characters. -/
def written (t : Torn) : String := String.ofList (t.write t.pieces)

/-- Whether there is a half in what was read from a torn text. -/
def tears (t : Torn) (s : String) : Bool := occursIn t.mark s.toList

end Torn

namespace Raw

/-- A text in whole characters. -/
def written : Raw → String
  | whole text => text
  | torn text => text.written

/-- Whether there is a half in a value that tells what was read from a text. -/
def tears : Raw → Json → Bool
  | whole _, _ => false
  | torn text, v => v.anyText text.tears

end Raw

end Text

namespace Notation

/-- The texts in a record that must not be empty. -/
def Record.names : Record → List String
  | pool p => [p.name]
  | lane l => [l.pool, l.name]
  | element e => [e.id]
  | connection c => [c.source, c.target]

end Notation

/-- Whether a record may be declared. The characters of the texts that must not be empty are counted,
so no half may stand there. -/
def Text.Torn.admits (t : Torn) (r : Notation.Record) : Bool := !r.names.any t.tears

namespace Notation

/-- What the lines of a text from outside declare. -/
def recordsOf : Text.Raw → List Record
  | .whole text => records text.toList
  | .torn text => (records text.written.toList).filter text.admits

/-- The document of a text from outside. -/
def read (text : Text.Raw) : Document := documentOf (recordsOf text)

end Notation

end Swimlane
