import Swimlane.Text.Split

/-!
# Paths

A path is a list of names, from the working directory or from the top. The name `..` leads to the
directory above.

- `Files.Path`: a path.
- `Files.Path.ofString`, `Files.Path.text`: its written form, in which empty names and names of a
  single dot do not count.
- `Files.Path.child`, `Files.Path.parent`: the written path with a name more or less.
- `Files.Path.follow`: the directory that a name leads to from another one.
-/

namespace Swimlane.Files

/-- Where a path begins. The top may be written with two slashes. -/
inductive Origin where
  | here
  | top
  | doubleTop
  deriving DecidableEq, Repr

/-- What is written for an origin. -/
def Origin.text : Origin → String
  | here => ""
  | top => "/"
  | doubleTop => "//"

/-- A path. -/
structure Path where
  origin : Origin
  names : List String
  deriving DecidableEq, Repr

namespace Path

/-- The origin of a written path; more than two slashes are one. -/
def originOf (s : List Char) : Origin :=
  match (s.takeWhile (· = '/')).length with
  | 0 => .here
  | 2 => .doubleTop
  | _ => .top

/-- The path that a text writes. -/
def ofString (s : String) : Path :=
  let names := (Text.splitAt '/' s.toList).map String.ofList
  ⟨originOf s.toList, names.filter fun n => n ≠ "" && n ≠ "."⟩

/-- The working directory. -/
def here : Path := ⟨.here, []⟩

/-- A path from the working directory. -/
def relative (names : List String) : Path := ⟨.here, names⟩

/-- The written form. -/
def text (p : Path) : String :=
  if p = here then "." else p.origin.text ++ String.intercalate "/" p.names

/-- The path of an entry of a directory. -/
def child (p : Path) (name : String) : Path := { p with names := p.names ++ [name] }

/-- The path without its last name. -/
def parent (p : Path) : Path := { p with names := p.names.dropLast }

/-- The last name, which is empty for a path without one. -/
def name (p : Path) : String := p.names.getLast?.getD ""

/-- Whether a path leads below a directory. -/
def isBelow (p directory : Path) : Bool :=
  p.origin = directory.origin && directory.names.isPrefixOf p.names &&
    directory.names.length < p.names.length

/-- The name that leads to the directory above. -/
def up : String := ".."

/-- Whether a path leads straight upwards from the working directory, or nowhere. -/
def isAscent (p : Path) : Bool := p.names.all (· = up)

/-- The path that a name leads to from a directory whose own path goes up at its front only. Above
the top there is nothing. -/
def follow (p : Path) (name : String) : Path :=
  if name ≠ up then p.child name
  else if !p.isAscent then p.parent
  else if p.origin = .here then p.child up
  else p

end Path

end Swimlane.Files
