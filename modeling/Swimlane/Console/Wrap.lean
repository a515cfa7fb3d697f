import Swimlane.Console.Cells
import Swimlane.Text.Blank
import Swimlane.Text.Split

/-!
# Lines of a width

- `Console.untabbed`: a line whose tabs are blanks up to the next stop.
- `Console.words`: the words of a line, each with the blanks behind it.
- `Console.broken`: a line broken before words. A word that is wider than a line is cut, or stays.
- `Console.cropped`: the front of a line that takes a number of cells.
- `Console.wrapped`: a text as lines, none of which is too wide.
-/

namespace Swimlane.Console

open Text

/-! ## Tabs -/

/-- The distance of the stops of tabs. -/
def tabStop : Nat := 8

/-- The line from a cell on whose tabs are blanks up to the next stop. -/
def untabbedFrom (cell : Nat) : List Char → List Char
  | [] => []
  | '\t' :: rest =>
    let next := (cell / tabStop + 1) * tabStop
    List.replicate (next - cell) ' ' ++ untabbedFrom next rest
  | c :: rest => c :: untabbedFrom (cell + cellsOf c) rest

/-- The line whose tabs are blanks up to the next stop. -/
def untabbed (s : List Char) : List Char := untabbedFrom 0 s

/-! ## Words -/

/-- Splits a word off, with the blanks around it. -/
def word (s : List Char) : List Char × List Char :=
  let front := s.takeWhile isBlank
  let rest := s.dropWhile isBlank
  let body := rest.takeWhile (!isBlank ·)
  let rest := rest.dropWhile (!isBlank ·)
  (front ++ body ++ rest.takeWhile isBlank, rest.dropWhile isBlank)

/-- The words of a line, each with the blanks behind it; the fuel exceeds the length. Blanks alone
are no word. -/
def wordsWith : Nat → List Char → List (List Char)
  | 0, _ => []
  | fuel + 1, s =>
    if s.all isBlank then []
    else
      let (w, rest) := word s
      w :: wordsWith fuel rest

/-- The words of a line. -/
def words (s : List Char) : List (List Char) := wordsWith (s.length + 1) s

/-! ## Breaking -/

/-- What becomes of a word that is wider than a line. -/
inductive Overlong where
  | cut
  | keep
  deriving DecidableEq, Repr

/-- The pieces of a word that is cut, from a piece on that stands backwards and takes some cells. -/
def piecesFrom (width cells : Nat) (read : List Char) : List Char → List (List Char)
  | [] => [read.reverse]
  | c :: rest =>
    if width < cells + cellsOf c then read.reverse :: piecesFrom width (cellsOf c) [c] rest
    else piecesFrom width (cells + cellsOf c) (c :: read) rest

/-- The pieces of a word that is cut. -/
def pieces (width : Nat) (s : List Char) : List (List Char) := piecesFrom width 0 [] s

/-- Puts words into lines behind the current one; the finished lines stand backwards. -/
def fill (overlong : Overlong) (width : Nat) (done : List (List Char)) (line : List Char) :
    List (List Char) → List (List Char)
  | [] => (line :: done).reverse
  | w :: rest =>
    let size := cellCount (dropTrailingBlanks w)
    if cellCount line + size ≤ width then fill overlong width done (line ++ w) rest
    else
      let done := if line.isEmpty then done else line :: done
      let parts := if size ≤ width || overlong = .keep then [w] else pieces width w
      fill overlong width (parts.dropLast.reverse ++ done) (parts.getLast?.getD []) rest

/-- A line broken before words. -/
def broken (overlong : Overlong) (width : Nat) (s : List Char) : List (List Char) :=
  if s.all isBlank then [s] else fill overlong width [] [] (words s)

/-- A line without the blanks at its end that lie beyond a number of characters. -/
def trimmedTo (width : Nat) (s : List Char) : List Char :=
  let blanks := s.length - (dropTrailingBlanks s).length
  s.take (s.length - min blanks (s.length - width))

/-! ## Cutting -/

/-- Searches for the front of a line that takes a number of cells, between two numbers of
characters. Half of a character with two cells is a blank. The fuel bounds the steps. -/
def searched (width : Nat) (s : List Char) : Nat → Nat → Nat → List Char
  | 0, low, _ => s.take low
  | fuel + 1, low, high =>
    let middle := (low + high) / 2
    let front := s.take (middle + 1)
    let cells := cellCount front
    let last := (s.drop middle).head?
    if cells = width + 1 && last.any (cellsOf · = 2) then front.dropLast ++ [' ']
    else if cells = width then front
    else if width < cells then searched width s fuel low middle
    else searched width s fuel middle high

/-- The front of a line that takes a number of cells. -/
def cropped (width : Nat) (s : List Char) : List Char :=
  if s.all (cellsOf · = 1) then s.take width
  else if width = 0 then []
  else searched width s (s.length + 1) 0 s.length

/-- A line that is cut if it is too wide. -/
def cutTo (overlong : Overlong) (width : Nat) (s : List Char) : List Char :=
  if cellCount s ≤ width then s
  else
    match overlong with
    | .cut => cropped width s
    | .keep => cropped (width - 1) s ++ ['…']

/-- A line broken into lines, none of which is too wide. -/
def wrappedLine (overlong : Overlong) (width : Nat) (s : List Char) : List (List Char) :=
  (broken overlong width (untabbed s)).map fun line =>
    cutTo overlong width (trimmedTo width line)

/-- A text as lines, none of which is too wide. -/
def wrapped (overlong : Overlong) (width : Nat) (s : List Char) : List (List Char) :=
  (splitAt '\n' s).flatMap (wrappedLine overlong width)

/-- A line filled up with blanks. -/
def padded (width : Nat) (s : List Char) : List Char :=
  s ++ List.replicate (width - cellCount s) ' '

end Swimlane.Console
