import Swimlane.Text.Printable
import Swimlane.Text.Torn

/-!
# Quoted texts

The form in which a text is shown inside a message: between quotes, with everything that is not
printable written as an escape.

- `quoteMark`: a text is put between single quotes, unless it holds single quotes and no double
  ones.
- `quoted`, `Raw.quoted`: the quoted form of a text, and of one that may be torn.
-/

namespace Swimlane.Text

/-- The escape of a code point, with two, four or eight hexadecimal digits. -/
def hexEscape (n : Nat) : List Char :=
  if n < 0x100 then '\\' :: 'x' :: hexDigits 2 n
  else if n < 0x10000 then '\\' :: 'u' :: hexDigits 4 n
  else '\\' :: 'U' :: hexDigits 8 n

/-- A single quote, unless the text holds single quotes and no double ones. -/
def quoteMark (s : List Char) : Char :=
  if s.contains '\'' && !s.contains '"' then '"' else '\''

/-- One character of a text between the given quotes. -/
def quotedChar (mark c : Char) : List Char :=
  if c = mark || c = '\\' then ['\\', c]
  else if c = '\n' then ['\\', 'n']
  else if c = '\r' then ['\\', 'r']
  else if c = '\t' then ['\\', 't']
  else if isPrintable c then [c]
  else hexEscape c.toNat

/-- The text between quotes, with escapes. -/
def quoted (s : String) : String :=
  let cs := s.toList
  let mark := quoteMark cs
  String.ofList (mark :: cs.flatMap (quotedChar mark) ++ [mark])

/-- One piece of a text between the given quotes. Halves of characters are not printable. -/
def Piece.quoted (mark : Char) : Piece → List Char
  | .whole c => quotedChar mark c
  | .half h => hexEscape h.code

/-- The text between quotes, with escapes. -/
def Raw.quoted : Raw → String
  | .whole s => Text.quoted s
  | .torn text =>
    let mark := quoteMark (text.pieces.filterMap Piece.char?)
    String.ofList (mark :: text.pieces.flatMap (·.quoted mark) ++ [mark])

end Swimlane.Text
