import Swimlane.Console.Markup
import Swimlane.Console.Wrap
import Swimlane.Report.Widths

/-!
# Boxed tables

A table of texts with a title, drawn with lines between its columns. The texts hold markup. A text
that is wider than its column stands on several lines.

- `Report.Boxed`: the table.
- `Report.Drawing`: a table whose texts are what is shown of them.
- `Report.Drawing.widths`: each column is as wide as its widest text, if there is room.
- `Report.Boxed.drawn`: the drawing of a table as a text.
-/

namespace Swimlane.Report

open Console

/-- A column: its heading, and whether its texts stand at the right. -/
structure Column where
  heading : String
  atRight : Bool
  deriving DecidableEq, Repr

/-- A table of texts, each of which may hold markup. -/
structure Boxed where
  title : String
  columns : List Column
  rows : List (List String)
  deriving DecidableEq, Repr

/-- A table of the characters that are shown. -/
structure Drawing where
  title : List Char
  columns : List Column
  headings : List (List Char)
  rows : List (List (List Char))
  deriving DecidableEq, Repr

namespace Boxed

/-- The texts of a column with its heading. -/
def columnTexts (t : Boxed) (i : Nat) (c : Column) : List String :=
  c.heading :: t.rows.map fun row => row.getD i ""

/-- What is shown of the texts. Columns are read one after another. -/
def columnsRead (t : Boxed) : Except Markup.Fault (List (List (List Char))) :=
  t.columns.zipIdx.mapM fun (c, i) => (t.columnTexts i c).mapM Markup.read

/-- The table of the characters that are shown. -/
def drawing (t : Boxed) : Except Markup.Fault Drawing := do
  let columns ← t.columnsRead
  let title ← Markup.read t.title
  let rows := (List.range t.rows.length).map fun i => columns.map fun c => c.getD (i + 1) []
  return ⟨title, t.columns, columns.map (·.headD []), rows⟩

end Boxed

namespace Drawing

/-- The greatest width of a drawing. -/
def widthLimit : Nat := 200

/-- What the lines and the blanks beside the texts of columns take. -/
def frame (columns : Nat) : Nat := 3 * columns + 1

/-- The widths of the widest texts. -/
def naturalWidths (t : Drawing) : List Nat :=
  t.rows.foldl (fun widths row => (widths.zip row).map fun (w, s) => max w (cellCount s))
    (t.headings.map cellCount)

/-- The widths of the columns. Two blanks belong to each column. -/
def widths (t : Drawing) : List Nat :=
  let room := widthLimit - (t.columns.length + 1)
  (fitted room (t.naturalWidths.map fun w => min (w + 2) room)).map (· - 2)

/-- The width of the drawing. -/
def width (t : Drawing) : Nat := t.widths.foldl (· + ·) 0 + frame t.columns.length

/-- A number of equal characters. -/
def run (n : Nat) (c : Char) : List Char := List.replicate n c

/-- The lines of a text in a column. -/
def cell (width : Nat) (atRight : Bool) (s : List Char) : List (List Char) :=
  (wrapped .keep width s).map fun line =>
    if atRight then
      let line := Text.dropTrailingBlanks line
      run (width - cellCount line) ' ' ++ line
    else padded width line

/-- A text in the middle of a width; an odd blank stands behind it. -/
def centre (width : Nat) (s : List Char) : List Char :=
  let blanks := width - cellCount s
  run (blanks / 2) ' ' ++ s ++ run (blanks - blanks / 2) ' '

/-- A line between rows. -/
def rule (t : Drawing) (left dash between right : Char) : List Char :=
  left :: [between].intercalate (t.widths.map fun w => run (w + 2) dash) ++ [right]

/-- The lines of a row between its bars. A text with fewer lines than another has blank ones. -/
def lines (t : Drawing) (bar : Char) (row : List (List Char)) : List (List Char) :=
  let cells := ((t.columns.zip row).zip t.widths).map fun ((c, s), w) => (w, cell w c.atRight s)
  let height := (cells.map (·.2.length)).foldl max 1
  (List.range height).map fun i =>
    let parts := cells.map fun (w, lines) => lines.getD i (run w ' ')
    bar :: ' ' :: [' ', bar, ' '].intercalate parts ++ [' ', bar]

/-- The lines of the drawing. -/
def allLines (t : Drawing) : List (List Char) :=
  [centre t.width t.title, t.rule '┏' '━' '┳' '┓'] ++ t.lines '┃' t.headings ++
    [t.rule '┡' '━' '╇' '┩'] ++ t.rows.flatMap (t.lines '│') ++ [t.rule '└' '─' '┴' '┘']

/-- The drawing as a text. -/
def text (t : Drawing) : String := String.ofList (t.allLines.flatMap (· ++ ['\n']))

end Drawing

/-- The drawing of a table as a text. -/
def Boxed.drawn (t : Boxed) : Except Markup.Fault String := t.drawing.map Drawing.text

end Swimlane.Report
