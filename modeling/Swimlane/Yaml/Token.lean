import Swimlane.Yaml.Scalar

/-!
# Tokens of YAML

- `Token`: what a text consists of: marks, scalars, and the properties in front of a node.
- `Cursor.anchorName?`, `Cursor.tag?`, `Cursor.directive`: the tokens with a text of their own that
  are no scalars.
-/

namespace Swimlane.Yaml

/-- A tag as it is written: a handle, if it is abbreviated, and the rest. -/
structure TagText where
  handle : Option String
  suffix : String
  deriving DecidableEq, Repr

/-- What a line that begins with a percent sign says. -/
inductive Directive where
  | version (major : Nat)
  | handle (name meaning : String)
  | other
  deriving DecidableEq, Repr

/-- A token. -/
inductive Token where
  | directive (d : Directive)
  | documentStart
  | documentEnd
  | textEnd
  | blockList
  | blockMapping
  | blockEnd
  | listOpen
  | listClose
  | mappingOpen
  | mappingClose
  | comma
  | dash
  | key
  | value
  | reference (name : String)
  | anchor (name : String)
  | tag (t : TagText)
  | scalar (s : Scalar)
  deriving DecidableEq, Repr

/-- The characters of names. -/
def isNameChar (c : Char) : Bool := c.isAlphanum || c = '-' || c = '_'

/-- Whether the name of an anchor may end before this text. -/
def endsName (s : List Char) : Bool :=
  atBlank s || s.head?.any fun ch => "?:,]\x7d%@\x60".toList.contains ch

/-- The characters of tags. -/
def isTagChar (c : Char) : Bool :=
  c.isAlphanum || "-;/?:@&=+$,_.!~*'()[]%".toList.contains c

namespace Cursor

/-- The name of an anchor behind its mark. -/
def anchorName? (c : Cursor) : Option (String × Cursor) :=
  let (name, c) := c.forward.span isNameChar
  if name.isEmpty || !endsName c.rest then none else some (String.ofList name, c)

/-- The bytes that escapes in a row stand for, and the place behind them. -/
def escapedBytes? : Nat → List UInt8 → Cursor → Option (List UInt8 × Cursor)
  | 0, found, c => some (found.reverse, c)
  | fuel + 1, found, c =>
    match c.rest with
    | '%' :: rest => do
      let n ← hexCode? 2 rest
      escapedBytes? fuel (n.toUInt8 :: found) (c.advance 3)
    | _ => some (found.reverse, c)

/-- The characters of a tag from here on, after those already read, which stand backwards. -/
def tagChars? : Nat → List Char → Cursor → Option (List Char × Cursor)
  | 0, read, c => some (read.reverse, c)
  | fuel + 1, read, c =>
    match c.rest with
    | '%' :: _ => do
      let (bytes, c) ← escapedBytes? (c.rest.length + 1) [] c
      let text ← (Text.Utf8.decode bytes).toOption
      tagChars? fuel (text.toList.reverse ++ read) c
    | ch :: _ =>
      if isTagChar ch then tagChars? fuel (ch :: read) c.forward else some (read.reverse, c)
    | [] => some (read.reverse, c)

/-- The characters of a tag from here on, of which there has to be one. -/
def tagRest? (c : Cursor) : Option (String × Cursor) :=
  if c.rest.head?.any isTagChar then
    (tagChars? (c.rest.length + 1) [] c).map fun (s, c) => (String.ofList s, c)
  else none

/-- The handle that begins here: a name between exclamation marks, or a single mark before a
space. -/
def tagHandle? (c : Cursor) : Option (String × Cursor) :=
  match c.rest with
  | '!' :: ' ' :: _ => some ("!", c.forward)
  | '!' :: _ =>
    let (name, c) := c.forward.span isNameChar
    if c.rest.head? = some '!' then some (String.ofList ('!' :: name ++ ['!']), c.forward) else none
  | _ => none

/-- The tag that begins here. -/
def tag? (c : Cursor) : Option (TagText × Cursor) := do
  let (t, c) ← match c.rest.drop 1 with
    | '<' :: _ => do
      let (suffix, c) ← (c.advance 2).tagRest?
      if c.rest.head? ≠ some '>' then none
      some ((⟨none, suffix⟩ : TagText), c.forward)
    | rest =>
      if atBlank rest then some (⟨none, "!"⟩, c.forward)
      else if (rest.takeWhile fun ch => !(ch = ' ' || isBreak ch)).contains '!' then do
        let (handle, c) ← c.tagHandle?
        let (suffix, c) ← c.tagRest?
        some (⟨some handle, suffix⟩, c)
      else do
        let (suffix, c) ← c.forward.tagRest?
        some (⟨some "!", suffix⟩, c)
  if atSpace c.rest then some (t, c) else none

/-- A number of digits. -/
def directiveNumber (c : Cursor) : Except Fault (Nat × Cursor) :=
  let (ds, c) := c.span Char.isDigit
  if ds.isEmpty then .error .malformed
  else
    match Numeral.whole 10 ds with
    | .ok n => .ok (n.toNat, c)
    | .error f => .error (.numeral f)

/-- The version of the language that a directive asks for. -/
def versionDirective (c : Cursor) : Except Fault (Directive × Cursor) := do
  let (major, c) ← c.skipSpaces.directiveNumber
  if c.rest.head? ≠ some '.' then .error .malformed
  let (_, c) ← c.forward.directiveNumber
  if atSpace c.rest then .ok (.version major, c) else .error .malformed

/-- The meaning that a directive gives to a handle. -/
def handleDirective? (c : Cursor) : Option (Directive × Cursor) := do
  let (name, c) ← c.skipSpaces.tagHandle?
  if c.rest.head? ≠ some ' ' then none
  let (meaning, c) ← c.skipSpaces.tagRest?
  if atSpace c.rest then some (.handle name meaning, c) else none

/-- What is malformed where there is nothing. -/
def orMalformed {α : Type} : Option α → Except Fault α
  | some a => .ok a
  | none => .error .malformed

/-- The directive that begins here, with the place on the next line. -/
def directive (c : Cursor) : Except Fault (Directive × Cursor) := do
  let (name, c) := c.forward.span isNameChar
  if name.isEmpty || !atSpace c.rest then .error .malformed
  let (d, c) ←
    if name = "YAML".toList then c.versionDirective
    else if name = "TAG".toList then orMalformed c.handleDirective?
    else .ok (.other, c.skipLine)
  let c ← orMalformed c.endLine?
  .ok (d, c)

end Cursor

end Swimlane.Yaml
