import Swimlane.Text.Stream
import Swimlane.Yaml.Meaning

/-!
# Reading YAML

- `Yaml.read`: the value of the document in a text, or why it has none.
- `Yaml.readFile`: the same for the bytes of a file.
-/

namespace Swimlane.Yaml

/-- Whether a character may stand in a text at all. -/
def isAllowed (c : Char) : Bool :=
  let n := c.toNat
  n = 9 || n = 10 || n = 13 || (0x20 ≤ n && n ≤ 0x7E) || n = 0x85 || (0xA0 ≤ n && n ≤ 0xD7FF) ||
    (0xE000 ≤ n && n ≤ 0xFFFD) || 0x10000 ≤ n

/-- The value of a text, which may break off with a fault; that of an empty text is null. -/
def readPart (text : List Char) (broken : Option Fault) : Except Fault Value := do
  if !text.all isAllowed then .error .malformed
  let (tokens, fault) := Token.ofText (unifyBreaks text) broken
  match ← Graph.ofTokens tokens fault with
  | (_, none) => .ok .null
  | (g, some root) => g.value root

/-- The value of a text. -/
def read (text : String) : Except Fault Value := readPart text.toList none

/-- The value of a file. -/
def readFile (bytes : List UInt8) : Except Fault Value :=
  match Text.Stream.read bytes with
  | (text, none) => readPart text none
  | (text, some fault) => readPart text (some (.undecodable fault))

end Swimlane.Yaml
