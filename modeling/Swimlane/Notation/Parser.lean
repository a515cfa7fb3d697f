import Swimlane.Notation.Line
import Swimlane.Text.Lines

/-!
# From text to document

- `contentLines`: the numbered lines of a text that are neither blank nor comments.
- `records`: what they declare, in order.
- `documentOf`: the records sorted into the four lists of a document.
- `parse`, `droppedLines`: the document of a text, and the numbers of the lines without meaning.
-/

namespace Swimlane.Notation

open Swimlane.Text

/-- The mark of a comment line. -/
def commentMark : Char := '#'

/-- Whether a trimmed line is blank or a comment. -/
def isSilent (line : List Char) : Bool := line.isEmpty || line.head? = some commentMark

/-- The trimmed lines with their numbers, counted from `first`, without blank lines and
comments. -/
def numberedContent (first : Nat) : List (List Char) → List (Nat × List Char)
  | [] => []
  | line :: rest =>
    if isSilent (trim line) then numberedContent (first + 1) rest
    else (first, trim line) :: numberedContent (first + 1) rest

/-- The trimmed lines of a text that are neither blank nor comments, with their numbers. -/
def contentLines (text : List Char) : List (Nat × List Char) := numberedContent 1 (lines text)

/-- What the lines of a text declare. -/
def records (text : List Char) : List Record :=
  (contentLines text).filterMap fun line => Record.ofLine? line.2

/-- The numbers of the lines that are neither blank nor comments and declare nothing. -/
def droppedLines (text : String) : List Nat :=
  ((contentLines text.toList).filter fun line => (Record.ofLine? line.2).isNone).map (·.1)

/-- The records sorted into the four lists of a document, each in the given order. -/
def documentOf (rs : List Record) : Document where
  pools := rs.filterMap fun | .pool p => some p | _ => none
  lanes := rs.filterMap fun | .lane l => some l | _ => none
  elements := rs.filterMap fun | .element e => some e | _ => none
  connections := rs.filterMap fun | .connection c => some c | _ => none

/-- The document of a text. -/
def parse (text : String) : Document := documentOf (records text.toList)

end Swimlane.Notation
