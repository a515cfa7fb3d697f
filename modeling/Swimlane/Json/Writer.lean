import Swimlane.Decimal.Style
import Swimlane.Json.Basic

/-!
# Writing JSON

- `Json.Format`: how a value is written: which characters are escaped, whether lines are indented,
  and the style of the doubles.
- `Json.write`: the text of a value.
- `Json.ascii`, `Json.named`, `Json.compact`, `Json.indented`: the formats in use.
-/

namespace Swimlane.Json

/-- How JSON is written. -/
structure Format where
  /-- Whether characters beyond ASCII are written as escapes. -/
  escapeNonAscii : Bool
  /-- Whether every item and member stands on its own line, two blanks deeper. -/
  indented : Bool
  number : Decimal.Style

/-- A code unit as an escape of four digits. -/
def unitEscape (n : Nat) : List Char :=
  '\\' :: 'u' :: [n / 4096 % 16, n / 256 % 16, n / 16 % 16, n % 16].map Nat.digitChar

/-- One character of a string. -/
def escapeChar (escapeNonAscii : Bool) (c : Char) : List Char :=
  let n := c.toNat
  if c = '"' then ['\\', '"']
  else if c = '\\' then ['\\', '\\']
  else if c = '\x08' then ['\\', 'b']
  else if c = '\t' then ['\\', 't']
  else if c = '\n' then ['\\', 'n']
  else if c = '\x0c' then ['\\', 'f']
  else if c = '\r' then ['\\', 'r']
  else if n < 0x20 then unitEscape n
  else if !escapeNonAscii || n < 0x80 then [c]
  else if n < 0x10000 then unitEscape n
  else unitEscape (0xD800 + (n - 0x10000) / 0x400) ++ unitEscape (0xDC00 + (n - 0x10000) % 0x400)

/-- A string between its quotes. -/
def writeString (f : Format) (s : String) : String :=
  String.ofList ('"' :: s.toList.flatMap (escapeChar f.escapeNonAscii) ++ ['"'])

/-- The break before an item or a closing bracket at the given depth. -/
def lineBreak (f : Format) (depth : Nat) : String :=
  if f.indented then String.ofList ('\n' :: List.replicate (2 * depth) ' ') else ""

/-- What stands between a key and its value. -/
def keySeparator (f : Format) : String := if f.indented then ": " else ":"

/-- Items or members between their brackets; an empty list has no line of its own. -/
def bracketed (f : Format) (depth : Nat) (opening closing : String) (parts : List String) :
    String :=
  if parts.isEmpty then opening ++ closing
  else
    let inner := lineBreak f (depth + 1)
    opening ++ inner ++ String.intercalate ("," ++ inner) parts ++ lineBreak f depth ++ closing

mutual
/-- The text of a value at the given depth. -/
def writeAt (f : Format) (depth : Nat) : Json → String
  | .null => "null"
  | .bool b => if b then "true" else "false"
  | .int n => toString n
  | .float x => f.number.write x
  | .str s => writeString f s
  | .arr items => bracketed f depth "[" "]" (writeItems f (depth + 1) items)
  | .obj members => bracketed f depth "\x7b" "\x7d" (writeMembers f (depth + 1) members)

/-- The texts of the items of a list. -/
def writeItems (f : Format) (depth : Nat) : List Json → List String
  | [] => []
  | v :: rest => writeAt f depth v :: writeItems f depth rest

/-- The texts of the members of an object. -/
def writeMembers (f : Format) (depth : Nat) : List (String × Json) → List String
  | [] => []
  | (k, v) :: rest =>
    (writeString f k ++ keySeparator f ++ writeAt f depth v) :: writeMembers f depth rest
end

/-- The text of a value. -/
def write (f : Format) (v : Json) : String := writeAt f 0 v

/-- Doubles from `1e-5` to below `1e16` stand without an exponent, an exponent has no leading zero,
and null stands for doubles that are not finite. -/
def plainNumbers : Decimal.Style :=
  ⟨-5, 16, 1, "null", "null", "null"⟩

/-- Doubles from `1e-4` to below `1e16` stand without an exponent, an exponent has at least two
digits, and names stand for doubles that are not finite. -/
def namedNumbers : Decimal.Style :=
  ⟨-4, 16, 2, "\"nan\"", "\"inf\"", "\"-inf\""⟩

/-- One line, all characters as they are. -/
def compact : Format := ⟨false, false, plainNumbers⟩

/-- One item or member to a line. -/
def indented : Format := ⟨false, true, plainNumbers⟩

/-- One line, all characters as they are, with names for doubles that are not finite. -/
def named : Format := ⟨false, false, namedNumbers⟩

/-- One line of ASCII. -/
def ascii : Format := ⟨true, false, namedNumbers⟩

end Swimlane.Json
