import Swimlane.Files.Path
import Swimlane.Table
import Swimlane.Text.Quoted

/-!
# Files and directories

- `Files.Tree`: files with their bytes, and directories, which are also there if a file lies below
  them.
- `Files.Tree.locate`: the place that a path leads to, step by step, or the `Obstacle` on the way.
- `Files.Tree.contains`, `Files.Tree.isDirectoryAt`, `Files.Tree.fileNames`, `Files.Tree.read`: what
  stands at a path.
- `Files.Tree.makeDirectory`, `Files.Tree.ensureDirectory`, `Files.Tree.put`, `Files.Tree.move`:
  changes, or the `Fault` that is in the way.
- `Files.Tree.save`: writes a file that is complete or not there at all.
-/

namespace Swimlane.Files

/-- What stands at a path. -/
inductive Entry where
  | file (bytes : List UInt8)
  | directory
  deriving DecidableEq, Repr

/-- What stands at places, whose paths go up at their front only. -/
abbrev Tree := List (Path × Entry)

/-- Why a path leads nowhere. -/
inductive Obstacle where
  | absent
  | notDirectory
  | longName
  | zeroCharacter
  deriving DecidableEq, Repr

/-- Why something cannot be done. -/
inductive Fault where
  | obstacle (o : Obstacle) (path : Path)
  | isDirectory (path : Path)
  | alreadyThere (path : Path)
  | unnamed (path : Path)
  | ontoDirectory (draft path : Path)
  | ontoParent (draft path : Path)
  deriving DecidableEq, Repr

/-- The wording of a fault. -/
def Fault.message : Fault → String
  | obstacle .absent p => "[Errno 2] No such file or directory: " ++ Text.quoted p.text
  | obstacle .notDirectory p => "[Errno 20] Not a directory: " ++ Text.quoted p.text
  | obstacle .longName p => "[Errno 36] File name too long: " ++ Text.quoted p.text
  | obstacle .zeroCharacter _ => "embedded null byte"
  | isDirectory p => "[Errno 21] Is a directory: " ++ Text.quoted p.text
  | alreadyThere p => "[Errno 17] File exists: " ++ Text.quoted p.text
  | unnamed p => "PosixPath(" ++ Text.quoted p.text ++ ") has an empty name"
  | ontoDirectory draft p =>
    "[Errno 21] Is a directory: " ++ Text.quoted draft.text ++ " -> " ++ Text.quoted p.text
  | ontoParent draft p =>
    "[Errno 16] Device or resource busy: " ++ Text.quoted draft.text ++ " -> " ++
      Text.quoted p.text

namespace Tree

/-! ## Places -/

/-- The bytes of the file at a place. -/
def file? (t : Tree) (place : Path) : Option (List UInt8) :=
  match t.lookup place with
  | some (.file bytes) => some bytes
  | _ => none

/-- Whether a directory stands at a place. -/
def isDirectory (t : Tree) (place : Path) : Bool :=
  place.isAscent || t.lookup place = some .directory || t.any fun e => e.1.isBelow place

/-- Whether anything stands at a place. -/
def has (t : Tree) (place : Path) : Bool := (t.file? place).isSome || t.isDirectory place

/-- The greatest number of bytes of a name. -/
def nameLimit : Nat := 255

/-- The number of bytes from which on a path is too long. -/
def pathLimit : Nat := 4096

/-- Follows names from a place. Every name is looked up in a directory. -/
def walk (t : Tree) (place : Path) : List String → Except Obstacle Path
  | [] => .ok place
  | name :: rest =>
    if (t.file? place).isSome then .error .notDirectory
    else if !t.isDirectory place then .error .absent
    else if nameLimit < name.utf8ByteSize then .error .longName
    else t.walk (place.follow name) rest

/-- The place that a path leads to. Its last name need not be there. -/
def locate (t : Tree) (p : Path) : Except Obstacle Path :=
  if p.names.any fun n => n.toList.contains '\x00' then .error .zeroCharacter
  else if pathLimit ≤ p.text.utf8ByteSize then .error .longName
  else t.walk ⟨if p.origin = .here then .here else .top, []⟩ p.names

/-- The place that a path leads to, none if the way to it is not there. A name that is too long
remains an error. -/
def locate? (t : Tree) (p : Path) : Except Fault (Option Path) :=
  match t.locate p with
  | .ok place => .ok (some place)
  | .error .longName => .error (.obstacle .longName p)
  | .error _ => .ok none

/-! ## Looking -/

/-- Whether anything stands at the end of a path. -/
def contains (t : Tree) (p : Path) : Except Fault Bool :=
  (t.locate? p).map fun place => place.any t.has

/-- Whether a directory stands at the end of a path. -/
def isDirectoryAt (t : Tree) (p : Path) : Except Fault Bool :=
  (t.locate? p).map fun place => place.any t.isDirectory

/-- The bytes of the file at the end of a path; none if no file stands there. -/
def bytesAt? (t : Tree) (p : Path) : Except Fault (Option (List UInt8)) :=
  (t.locate? p).map fun place => place.bind t.file?

/-- The names of the files in a directory. -/
def fileNames (t : Tree) (p : Path) : List String :=
  match t.locate p with
  | .error _ => []
  | .ok place =>
    t.filterMap fun e =>
      match e.2 with
      | .file _ => if e.1 = place.child e.1.name then some e.1.name else none
      | .directory => none

/-- The bytes of a file, or why there are none. -/
def read (t : Tree) (p : Path) : Except Fault (List UInt8) :=
  match t.locate p with
  | .error o => .error (.obstacle o p)
  | .ok place =>
    match t.file? place with
    | some bytes => .ok bytes
    | none => .error (if t.isDirectory place then .isDirectory p else .obstacle .absent p)

/-! ## Changing -/

/-- The tree with a new directory at the end of a path. -/
def makeDirectory (t : Tree) (p : Path) : Except Fault Tree :=
  match t.locate p with
  | .error o => .error (.obstacle o p)
  | .ok place =>
    if t.has place then .error (.alreadyThere p)
    else .ok (Table.put place .directory t)

/-- The tree with a directory at the end of a path, which may already be there. -/
def openDirectory (t : Tree) (p : Path) : Except Fault Tree :=
  match t.makeDirectory p with
  | .ok t => .ok t
  | .error fault => do
    if ← t.isDirectoryAt p then return t
    throw fault

/-- The tree with a directory at the end of a path, whose names stand backwards, and with those
above it. Nothing is made where a file is in the way. -/
def ensureFrom (t : Tree) (origin : Origin) : List String → Except Fault Tree
  | [] => t.openDirectory ⟨origin, []⟩
  | name :: rest =>
    let p : Path := ⟨origin, (name :: rest).reverse⟩
    match t.makeDirectory p with
    | .error (.obstacle .absent _) => do (← t.ensureFrom origin rest).openDirectory p
    | _ => t.openDirectory p

/-- The tree with a directory at the end of a path, and with those above it. -/
def ensureDirectory (t : Tree) (p : Path) : Except Fault Tree :=
  t.ensureFrom p.origin p.names.reverse

/-- The tree with a file at the end of a path. -/
def put (t : Tree) (p : Path) (bytes : List UInt8) : Except Fault Tree :=
  match t.locate p with
  | .error o => .error (.obstacle o p)
  | .ok place =>
    if t.isDirectory place then .error (.isDirectory p)
    else .ok (Table.put place (.file bytes) t)

/-- The tree with the file of a draft at the end of another path, where a file may stand. -/
def move (t : Tree) (draft p : Path) : Except Fault Tree :=
  match t.locate draft, t.locate p with
  | .error o, _ => .error (.obstacle o draft)
  | _, .error o => .error (.obstacle o p)
  | .ok source, .ok place =>
    if p.name = Path.up then .error (.ontoParent draft p)
    else if t.isDirectory place then .error (.ontoDirectory draft p)
    else
      match t.file? source with
      | none => .error (.obstacle .absent draft)
      | some bytes => .ok (Table.put place (.file bytes) (t.filter (·.1 ≠ source)))

/-- The path of the draft of a file. -/
def draftOf (p : Path) : Path := p.parent.child (p.name ++ ".tmp")

/-- Writes a file with the directories above it. It is written to a draft first, which then takes
its place. A fault leaves what was done before it. -/
def save (t : Tree) (p : Path) (bytes : List UInt8) : Tree × Option Fault :=
  match t.ensureDirectory p.parent with
  | .error fault => (t, some fault)
  | .ok t =>
    if p.names.isEmpty then (t, some (.unnamed p))
    else
      match t.put (draftOf p) bytes with
      | .error fault => (t, some fault)
      | .ok drafted =>
        match drafted.move (draftOf p) p with
        | .error fault => (drafted, some fault)
        | .ok t => (t, none)

end Tree

end Swimlane.Files
