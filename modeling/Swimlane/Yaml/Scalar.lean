import Swimlane.Text.Digits
import Swimlane.Text.Torn
import Swimlane.Yaml.Cursor
import Swimlane.Yaml.Fault

/-!
# Texts of scalars

The three ways of writing a scalar: plain, between quotation marks, and as a block of lines.

- `Scalar`: the text of a scalar.
- `Cursor.plain`, `Cursor.quoted`, `Cursor.block`: the scalar that begins at a place, and the place
  behind it.
-/

namespace Swimlane.Yaml

/-- The text of a scalar, and whether it is plain. Only escapes can make it torn. -/
structure Scalar where
  text : Text.Raw
  plain : Bool
  deriving DecidableEq, Repr

/-- What several line breaks in a row become: the first is dropped, and a single one is a space.
Separators of lines and paragraphs stay. -/
def folded (first : List Char) (more : List Char) : List Char :=
  if first ≠ ['\n'] then first ++ more else if more.isEmpty then [' '] else more

/-- The value of a hexadecimal digit run, if all are digits and there are enough of them. -/
def hexCode? (width : Nat) (s : List Char) : Option Nat :=
  let ds := (s.take width).filterMap (Text.digitValue? 16)
  if ds.length = width then some (ds.foldl (fun n d => 16 * n + d) 0) else none

namespace Cursor

/-! ## Plain scalars -/

/-- Whether a colon before this text ends a key. -/
def endsKey (flow : Bool) (s : List Char) : Bool := atBlank s || flow && s.head?.any isFlowMark

/-- The part of a plain scalar up to the next blank, key end or mark. -/
def chunk (flow : Bool) : List Char → List Char
  | [] => []
  | ch :: rest =>
    if isBlank ch || ch = ':' && endsKey flow rest || flow && (isFlowMark ch || ch = '?') then []
    else ch :: chunk flow rest

/-- The line breaks from here on, with the spaces between them passed over. None if a mark between
documents follows one; the place is told in either case. -/
def plainBreaks : Nat → List Char → Cursor → Option (List Char) × Cursor
  | 0, found, c => (some found.reverse, c)
  | fuel + 1, found, c =>
    match c.rest with
    | ' ' :: _ => plainBreaks fuel found c.forward
    | ch :: _ =>
      if !isBreak ch then (some found.reverse, c)
      else
        let c := c.forward
        if c.spellsMarker then (none, c) else plainBreaks fuel (ch :: found) c
    | [] => (some found.reverse, c)

/-- What stands between two parts of a plain scalar: spaces, or line breaks with spaces around
them. The result is empty where the scalar ends; the flag tells whether a line ended. -/
def plainGap (c : Cursor) : List Char × Bool × Cursor :=
  let (spaces, c) := c.span (· = ' ')
  match c.lineBreak with
  | ([], _) => (spaces, false, c)
  | (first, next) =>
    if next.spellsMarker then ([], true, next)
    else
      match plainBreaks (next.rest.length + 1) [] next with
      | (none, c) => ([], true, c)
      | (some more, c) => (folded first more, true, c)

/-- A plain scalar from here on, after the text already read, which stands backwards, and what
stands before the next part. The flag tells whether the last thing passed was the end of a
line. -/
def plainFrom (flow : Bool) (least : Nat) :
    Nat → List Char → List Char → Bool → Cursor → List Char × Bool × Cursor
  | 0, read, _, ended, c => (read.reverse, ended, c)
  | fuel + 1, read, gap, ended, c =>
    let part := chunk flow c.rest
    if c.rest.head? = some '#' || part.isEmpty then (read.reverse, ended, c)
    else
      let read := part.reverse ++ (gap.reverse ++ read)
      let (gap, ended, c) := (c.advance part.length).plainGap
      if gap.isEmpty || !flow && c.column < least then (read.reverse, ended, c)
      else plainFrom flow least fuel read gap ended c

/-- The plain scalar that begins here, whose further lines lie at column `least` or later unless it
stands between brackets. The flag tells whether the place behind it is on a new line. -/
def plain (flow : Bool) (least : Nat) (c : Cursor) : Scalar × Bool × Cursor :=
  let (text, ended, c) := plainFrom flow least (c.rest.length + 1) [] [] false c
  (⟨.whole (String.ofList text), true⟩, ended, c)

/-! ## Quoted scalars -/

/-- The characters that escapes of one letter stand for. -/
def escapes : List (Char × Char) :=
  [('0', '\x00'), ('a', '\x07'), ('b', '\x08'), ('t', '\t'), ('\t', '\t'), ('n', '\n'),
   ('v', '\x0b'), ('f', '\x0c'), ('r', '\r'), ('e', '\x1b'), (' ', ' '), ('"', '"'),
   ('\\', '\\'), ('/', '/'), ('N', '\u0085'), ('_', '\u00A0'), ('L', '\u2028'),
   ('P', '\u2029')]

/-- The number of hexadecimal digits of a numbered escape. -/
def escapeLength? (ch : Char) : Option Nat :=
  if ch = 'x' then some 2 else if ch = 'u' then some 4 else if ch = 'U' then some 8 else none

/-- Line breaks inside quotation marks, with the blanks around them passed over; a mark between
documents is refused. -/
def quotedBreaks : Nat → List Char → Cursor → Except Fault (List Char × Cursor)
  | 0, _, _ => .error .malformed
  | fuel + 1, found, c =>
    if c.spellsMarker then .error .malformed
    else
      let c := c.dropWhile fun ch => ch = ' ' || ch = '\t'
      match c.lineBreak with
      | ([], c) => .ok (found.reverse, c)
      | (br, c) => quotedBreaks fuel (br ++ found) c

/-- The escape behind a backslash: what it stands for, and the place behind it. -/
def escape (c : Cursor) : Except Fault (List Text.Piece × Cursor) :=
  match c.rest with
  | [] => .error .unfinished
  | e :: rest =>
    match escapes.lookup e with
    | some ch => .ok ([.whole ch], c.forward)
    | none =>
      match escapeLength? e with
      | some width => do
        let some n := hexCode? width rest | .error .malformed
        if 0x10FFFF < n then .error (.noCharacter n)
        .ok ([.ofCode n], c.advance (width + 1))
      | none => do
        if !isBreak e then .error .malformed
        let (more, c) ← quotedBreaks (c.rest.length + 1) [] c.forward
        .ok (more.map .whole, c)

/-- The blanks and line breaks that stand here inside quotation marks, as they are read. -/
def quotedGap (c : Cursor) : Except Fault (List Char × Cursor) := do
  let (blanks, c) := c.span fun ch => ch = ' ' || ch = '\t'
  match c.lineBreak with
  | ([], c) => .ok (blanks, c)
  | (first, c) =>
    let (more, c) ← quotedBreaks (c.rest.length + 1) [] c
    .ok (folded first more, c)

/-- A quoted scalar behind its opening mark, after the text already read, which stands
backwards. -/
def quotedFrom (mark : Char) : Nat → List Text.Piece → Cursor → Except Fault (Scalar × Cursor)
  | 0, _, _ => .error .malformed
  | fuel + 1, read, c =>
    match c.rest with
    | [] => .error .unfinished
    | ch :: rest =>
      if ch = mark then
        if mark = '\'' && rest.head? = some '\'' then
          quotedFrom mark fuel (.whole '\'' :: read) (c.advance 2)
        else .ok (⟨.ofPieces read.reverse, false⟩, c.forward)
      else if ch = '\\' && mark = '"' then do
        let (text, c) ← c.forward.escape
        quotedFrom mark fuel (text.reverse ++ read) c
      else if isBlank ch then do
        let (text, c) ← c.quotedGap
        quotedFrom mark fuel (text.reverse.map .whole ++ read) c
      else quotedFrom mark fuel (.whole ch :: read) c.forward

/-- The quoted scalar that begins here with its opening mark. -/
def quoted (mark : Char) (c : Cursor) : Except Fault (Scalar × Cursor) :=
  quotedFrom mark (c.rest.length + 1) [] c.forward

/-! ## Block scalars -/

/-- What happens to the line breaks at the end of a block scalar. -/
inductive Chomping where
  | strip
  | clip
  | keep
  deriving DecidableEq, Repr

/-- What a sign behind the mark of a block scalar means. -/
def chomping? (ch : Char) : Option Chomping :=
  if ch = '+' then some .keep else if ch = '-' then some .strip else none

/-- How far a block scalar is indented, as a digit tells. -/
def depth? (ch : Char) : Option Nat := if ch.isDigit then some (ch.toNat - '0'.toNat) else none

/-- The indicators of a block scalar, a sign and a digit in either order: how it ends, how deep it
is indented, and how many they are. -/
def indicators (s : List Char) : Chomping × Option Nat × Nat :=
  match s.head?.bind chomping?, s.head?.bind depth? with
  | some chomping, _ =>
    match (s.drop 1).head?.bind depth? with
    | some n => (chomping, some n, 2)
    | none => (chomping, none, 1)
  | none, some n =>
    match (s.drop 1).head?.bind chomping? with
    | some chomping => (chomping, some n, 2)
    | none => (.clip, some n, 1)
  | none, none => (.clip, none, 0)

/-- Behind the spaces before a given column. -/
def indentTo (column : Nat) (c : Cursor) : Cursor :=
  c.advance (min (column - c.column) (c.rest.takeWhile (· = ' ')).length)

/-- The breaks of empty lines before a given column, and the place behind them. -/
def blockBreaks (column : Nat) : Nat → List Char → Cursor → List Char × Cursor
  | 0, found, c => (found.reverse, c)
  | fuel + 1, found, c =>
    match (c.indentTo column).lineBreak with
    | ([], c) => (found.reverse, c)
    | (br, c) => blockBreaks column fuel (br ++ found) c

/-- The breaks of the leading blank lines, the greatest indentation met, and the place behind
them. -/
def blockIndent : Nat → List Char → Nat → Cursor → List Char × Nat × Cursor
  | 0, found, deepest, c => (found.reverse, deepest, c)
  | fuel + 1, found, deepest, c =>
    let c := c.skipSpaces
    let deepest := max deepest c.column
    match c.lineBreak with
    | ([], c) => (found.reverse, deepest, c)
    | (br, c) => blockIndent fuel (br ++ found) deepest c

/-- Whether a line of a block scalar stands here. -/
def atLine (column : Nat) (c : Cursor) : Bool := c.column = column && !c.rest.isEmpty

/-- Whether a text begins with a blank. -/
def isIndented (s : List Char) : Bool := s.head?.any fun ch => ch = ' ' || ch = '\t'

/-- The lines of a block scalar from here on, after the text already read, which stands backwards,
and the breaks of the empty lines before it. The result holds the text without its last line
break, this break, the breaks of the empty lines behind it, and the place. -/
def blockLines (folding : Bool) (column : Nat) :
    Nat → List Char → List Char → Cursor → List Char × List Char × List Char × Cursor
  | 0, read, empty, c => (read.reverse, [], empty, c)
  | fuel + 1, read, empty, c =>
    let (line, afterLine) := c.span (!isBreak ·)
    let read := line.reverse ++ (empty.reverse ++ read)
    let (last, c) := afterLine.lineBreak
    let (more, next) := blockBreaks column (c.rest.length + 1) [] c
    if next.atLine column then
      let joint : List Char :=
        if folding && last = ['\n'] && !isIndented line && !isIndented next.rest then
          (if more.isEmpty then [' '] else [])
        else last
      blockLines folding column fuel (joint ++ read) more next
    else (read.reverse, last, more, next)

/-- The block scalar that begins here with its mark; its lines lie at column `least` or later. -/
def block (least : Nat) (c : Cursor) : Except Fault (Scalar × Cursor) := do
  let folding := c.rest.head? = some '>'
  let c := c.forward
  let (chomping, depth, width) := indicators c.rest
  let c := c.advance width
  if depth = some 0 || !atSpace c.rest then .error .malformed
  let some c := c.endLine? | .error .malformed
  let fuel := c.rest.length + 1
  let (empty, column, c) := match depth with
    | none =>
      let (empty, deepest, c) := blockIndent fuel [] 0 c
      (empty, max least deepest, c)
    | some d =>
      let column := least + d - 1
      let (empty, c) := blockBreaks column fuel [] c
      (empty, column, c)
  let (text, last, trailing, c) :=
    if c.atLine column then blockLines folding column fuel [] empty c else ([], [], empty, c)
  let ending := match chomping with
    | .strip => []
    | .clip => last
    | .keep => last ++ trailing
  .ok (⟨.whole (String.ofList (text ++ ending)), false⟩, c)

end Cursor

end Swimlane.Yaml
