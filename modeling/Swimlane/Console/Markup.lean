import Swimlane.Console.Pictures
import Swimlane.Console.Style
import Swimlane.Text.Quoted

/-!
# Markup of messages

A message may hold tags. A tag `[style]` opens a style, `[/style]` closes the last style of this
name and `[/]` the last of all. Backslashes in front of a bracket keep it from being a tag. Between
the tags, a name between colons stands for a picture. Styles themselves are not shown here.

- `Markup.Piece`, `Markup.pieces`: a message as texts and tags.
- `Markup.withPictures`: a text with its pictures.
- `Markup.read`: what a message shows, or the `Markup.Fault` in it.
-/

namespace Swimlane.Console.Markup

/-- What is wrong with a message: a tag that closes nothing, and its place. -/
inductive Fault where
  | otherStyle (tag : String) (position : Nat)
  | nothingOpen (position : Nat)
  deriving DecidableEq, Repr

/-- The wording of a fault. -/
def Fault.message : Fault → String
  | otherStyle tag position =>
    "closing tag '" ++ tag ++ "' at position " ++ toString position ++
      " doesn't match any open tag"
  | nothingOpen position =>
    "closing tag '[/]' at position " ++ toString position ++ " has nothing to close"

/-- A part of a message: a text, or a tag at a place with what stands between its brackets. -/
inductive Piece where
  | text (s : List Char)
  | tag (position : Nat) (inner : List Char)
  deriving DecidableEq, Repr

/-- Whether a character may begin a tag. -/
def beginsTag (c : Char) : Bool := c.isLower || c = '#' || c = '/' || c = '@'

/-- The tag at the front of a text, by what stands between its brackets. -/
def tag? : List Char → Option (List Char)
  | '[' :: c :: rest =>
    let inner := rest.takeWhile fun c => c ≠ '[' && c ≠ ']'
    if beginsTag c && (rest.drop inner.length).head? = some ']' then some (c :: inner) else none
  | _ => none

/-- The message from a place on as texts and tags; the fuel exceeds its length. The text that was
read last stands backwards. -/
def piecesFrom : Nat → Nat → List Char → List Char → List Piece
  | 0, _, read, _ => [.text read.reverse]
  | _ + 1, _, read, [] => [.text read.reverse]
  | fuel + 1, position, read, c :: rest =>
    let s := c :: rest
    let marks := s.takeWhile (· = '\\')
    let after := s.drop marks.length
    match tag? after with
    | none =>
      if marks.isEmpty then piecesFrom fuel (position + 1) (c :: read) rest
      else piecesFrom fuel (position + marks.length) (marks ++ read) after
    | some inner =>
      let behind := after.drop (inner.length + 2)
      let next := position + marks.length + inner.length + 2
      let kept := marks.take (marks.length / 2)
      let here := if kept.isEmpty then [] else [Piece.text kept]
      let shown :=
        if marks.length % 2 = 1 then Piece.text ('[' :: inner ++ [']'])
        else .tag (position + marks.length) inner
      .text read.reverse :: here ++ shown :: piecesFrom fuel next [] behind

/-- A message as texts and tags. -/
def pieces (s : List Char) : List Piece := piecesFrom (s.length + 1) 0 [] s

/-! ## Pictures -/

/-- The endings of names that ask for a picture as a sign or as a picture. -/
def variants : List (List Char × Char) :=
  [("-emoji".toList, '\uFE0F'), ("-text".toList, '\uFE0E')]

/-- The name behind a colon, the variant that it asks for, and the text behind the next colon. -/
def pictureName? : List Char → Option (List Char × Option Char × List Char)
  | [] => none
  | s@(c :: rest) =>
    match variants.find? fun v => (v.1 ++ [':']).isPrefixOf s with
    | some v => some ([], some v.2, s.drop (v.1.length + 1))
    | none =>
      if c = ':' then some ([], none, rest)
      else if Text.isBlank c then none
      else (pictureName? rest).map fun (name, variant, rest) => (c :: name, variant, rest)

/-- A text with its pictures; the fuel exceeds its length. Names without a picture stay. -/
def picturesFrom : Nat → List Char → List Char
  | 0, s => s
  | _ + 1, [] => []
  | fuel + 1, ':' :: rest =>
    match pictureName? rest with
    | none => ':' :: picturesFrom fuel rest
    | some (name, variant, behind) =>
      match picture? (Text.lower name) with
      | some picture => picture ++ variant.toList ++ picturesFrom fuel behind
      | none =>
        let whole := rest.take (rest.length - behind.length)
        ':' :: whole ++ picturesFrom fuel behind
  | fuel + 1, c :: rest => c :: picturesFrom fuel rest

/-- A text with its pictures. -/
def withPictures (s : List Char) : List Char := picturesFrom (s.length + 1) s

/-! ## Reading -/

/-- A text whose brackets have no backslash in front of them. -/
def bare : List Char → List Char
  | '\\' :: '[' :: rest => '[' :: bare rest
  | c :: rest => c :: bare rest
  | [] => []

/-- Whether a character is a signal, which is not shown. -/
def isSignal (c : Char) : Bool :=
  let n := c.toNat
  n = 7 || n = 8 || n = 11 || n = 12 || n = 13

/-- What a text without tags shows. -/
def shown (s : List Char) : List Char := (withPictures s).filter (!isSignal ·)

/-- A tag in its written form. -/
def written (inner : List Char) : String := String.ofList ('[' :: inner ++ [']'])

/-- The styles that are open after a tag, the last one first. -/
def turn (opened : List String) (position : Nat) (inner : List Char) :
    Except Fault (List String) :=
  let name := inner.takeWhile (· ≠ '=')
  match name with
  | '/' :: closed =>
    if (Text.trim closed).isEmpty then
      match opened with
      | [] => .error (.nothingOpen position)
      | _ :: rest => .ok rest
    else
      let style := Style.usualName (Text.trim closed)
      if opened.contains style then .ok (opened.erase style)
      else .error (.otherStyle (written inner) position)
  | _ => .ok (Style.usualName name :: opened)

/-- What pieces show inside open styles. -/
def readPieces (opened : List String) : List Piece → Except Fault (List Char)
  | [] => .ok []
  | .text s :: rest => (readPieces opened rest).map (shown (bare s) ++ ·)
  | .tag position inner :: rest => do readPieces (← turn opened position inner) rest

/-- What a message shows. -/
def read (s : String) : Except Fault (List Char) := readPieces [] (pieces s.toList)

end Swimlane.Console.Markup
