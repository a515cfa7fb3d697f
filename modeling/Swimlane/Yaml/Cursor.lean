/-!
# Places in a YAML text

- `Cursor`: a place with its line and column.
- `Cursor.skip`: the next place that is neither blank nor in a comment.
- `unifyBreaks`: the text with its line breaks made equal.
-/

namespace Swimlane.Yaml

/-- A place in a text: what follows, how many characters stand before it, its line and column. -/
structure Cursor where
  rest : List Char
  index : Nat
  line : Nat
  column : Nat

/-- All line breaks as line feeds, but for the separators of lines and paragraphs. -/
def unifyBreaks : List Char → List Char
  | [] => []
  | '\r' :: '\n' :: rest => '\n' :: unifyBreaks rest
  | '\r' :: rest => '\n' :: unifyBreaks rest
  | '\u0085' :: rest => '\n' :: unifyBreaks rest
  | c :: rest => c :: unifyBreaks rest

/-- The characters that end a line. -/
def isBreak (c : Char) : Bool := c = '\n' || c = '\u2028' || c = '\u2029'

/-- Blanks, tabs and line breaks. -/
def isBlank (c : Char) : Bool := c = ' ' || c = '\t' || isBreak c

/-- Whether a text ends here, or a blank or a line break follows. -/
def atBlank (s : List Char) : Bool := s.head?.all isBlank

/-- Whether a text ends here, or a space or a line break follows. -/
def atSpace (s : List Char) : Bool := s.head?.all fun c => c = ' ' || isBreak c

/-- Whether a text or a line ends here. -/
def atBreak (s : List Char) : Bool := s.head?.all isBreak

/-- The brackets and separators of lists and mappings on one line. -/
def isFlowMark (c : Char) : Bool := c = ',' || c = '[' || c = ']' || c = '\x7b' || c = '\x7d'

namespace Cursor

/-- The start of a text. -/
def start (text : List Char) : Cursor := ⟨text, 0, 0, 0⟩

/-- One character further. A byte order mark takes no column. -/
def forward (c : Cursor) : Cursor :=
  match c.rest with
  | [] => c
  | ch :: rest =>
    if isBreak ch then ⟨rest, c.index + 1, c.line + 1, 0⟩
    else ⟨rest, c.index + 1, c.line, if ch = '\uFEFF' then c.column else c.column + 1⟩

/-- A number of characters further. -/
def advance (c : Cursor) : Nat → Cursor
  | 0 => c
  | n + 1 => c.forward.advance n

/-- The characters from here on that satisfy a test, and the place behind them. -/
def span (c : Cursor) (test : Char → Bool) : List Char × Cursor :=
  let found := c.rest.takeWhile test
  (found, c.advance found.length)

/-- Behind the characters that satisfy a test. -/
def dropWhile (c : Cursor) (test : Char → Bool) : Cursor := (c.span test).2

/-- Behind the leading spaces. -/
def skipSpaces (c : Cursor) : Cursor := c.dropWhile (· = ' ')

/-- At the end of the line. -/
def skipLine (c : Cursor) : Cursor := c.dropWhile (!isBreak ·)

/-- Behind a comment that begins here. -/
def skipComment (c : Cursor) : Cursor := if c.rest.head? = some '#' then c.skipLine else c

/-- The line break that stands here, and the place behind it. -/
def lineBreak (c : Cursor) : List Char × Cursor :=
  match c.rest with
  | ch :: _ => if isBreak ch then ([ch], c.forward) else ([], c)
  | [] => ([], c)

/-- Behind spaces, comments and line breaks; the fuel exceeds the length. -/
def skipWith : Nat → Cursor → Cursor
  | 0, c => c
  | fuel + 1, c =>
    let c := c.skipSpaces.skipComment
    if c.rest.head?.any isBreak then skipWith fuel c.forward else c

/-- The next place that is neither blank nor in a comment. A byte order mark at the start of the
text is passed over. -/
def skip (c : Cursor) : Cursor :=
  let c := if c.index = 0 && c.rest.head? = some '\uFEFF' then c.forward else c
  skipWith (c.rest.length + 1) c

/-- Whether a mark between documents is written here, wherever on the line. -/
def spellsMarker (c : Cursor) : Bool :=
  ["---".toList, "...".toList].any fun m => m.isPrefixOf c.rest && atBlank (c.rest.drop 3)

/-- The rest of a line that may hold a comment only, with its break. -/
def endLine? (c : Cursor) : Option Cursor :=
  let c := c.skipSpaces.skipComment
  if atBreak c.rest then some c.lineBreak.2 else none

end Cursor

end Swimlane.Yaml
