import Swimlane.Distinct
import Swimlane.Files.Tree
import Swimlane.Settings.Environment
import Swimlane.Yaml.Reader

/-!
# Where settings come from

Settings that are given directly win over environment variables, these over a file, and this over
the defaults. Sections are joined member by member.

- `Settings.configFile`: the path of the file in use.
- `Settings.load`: the settings of a run of the program.
- `Settings.given`: settings that are given directly.
- `SettingsError`: why there are none.
-/

namespace Swimlane

/-- Why a document of a file is no mapping of sections. -/
inductive MappingFault where
  | noItems (kind : String)
  | noPair (index : Nat)
  | otherLength (index length : Nat)
  | noKey (kind : String)
  | notNamed (kind : String)
  | byteNames
  deriving DecidableEq, Repr

/-- The wording of a fault. -/
def MappingFault.message : MappingFault → String
  | noItems kind => "'" ++ kind ++ "' object is not iterable"
  | noPair i =>
    "cannot convert dictionary update sequence element #" ++ toString i ++ " to a sequence"
  | otherLength i n =>
    "dictionary update sequence element #" ++ toString i ++ " has length " ++ toString n ++
      "; 2 is required"
  | noKey kind => "unhashable type: '" ++ kind ++ "'"
  | notNamed kind => "'" ++ kind ++ "' object has no attribute 'lower'"
  | byteNames => "keywords must be strings"

/-- Why there are no settings. -/
inductive SettingsError where
  | missingFile (path : Files.Path)
  | file (fault : Files.Fault)
  | unknownHome
  | content (fault : Yaml.Fault)
  | notMapping (fault : MappingFault)
  | environment (fault : Environment.Fault)
  | invalid (e : Invalid)
  deriving DecidableEq, Repr

/-- The wording of an error. -/
def SettingsError.message : SettingsError → String
  | missingFile path => "Config file not found: " ++ path.text
  | file fault => fault.message
  | unknownHome => "Could not determine home directory."
  | content fault => fault.message
  | notMapping fault => fault.message
  | environment fault => fault.message
  | invalid _ => "invalid settings"

namespace Settings

/-- The items of a text, of bytes or of a collection. -/
def itemsOf? : Value → Option (List Value)
  | .str s => some (s.toList.map fun c => .str c.toString)
  | .torn text => some (text.pieces.map fun p => .ofText (.ofPieces [p]))
  | .bytes bs => some (bs.map fun b => .int b.toNat)
  | .pair a b => some [a, b]
  | .list items => some items
  | .set items => some items
  | .map members => some (members.map (·.1))
  | _ => none

/-- Pairs from a list in which each item has two items of its own, numbered from `first`. -/
def pairsOf : Nat → List Value → Except MappingFault (List (Value × Value))
  | _, [] => .ok []
  | first, v :: rest =>
    match itemsOf? v with
    | none => .error (.noPair first)
    | some [k, v] =>
      match k.unkeyable? with
      | some kind => .error (.noKey kind)
      | none => (pairsOf (first + 1) rest).map ((k, v) :: ·)
    | some parts => .error (.otherLength first parts.length)

/-- The members of a document. An empty one has none, and a list of pairs counts as a mapping. -/
def documentMembers (v : Value) : Except MappingFault (List (Value × Value)) :=
  match v with
  | .map members => .ok members
  | _ =>
    if v.isBlank then .ok []
    else
      match itemsOf? v with
      | none => .error (.noItems v.kindName)
      | some items => (pairsOf 0 items).map Value.ofPairs

/-- Sections with their known names, for which case does not count. Of several with one name the
first counts; unknown ones stay as they are. -/
def namedSections (m : List (String × Value)) : List (String × Value) :=
  let known := sections.map (·.1)
  let renamed := m.map fun p => (Environment.knownName known p.1, p.2)
  distinctBy (·.1) renamed

/-- Members whose names can be compared without regard to case, which are texts and bytes. -/
def comparable (m : List (Value × Value)) : Except MappingFault (List (Value × Value)) :=
  m.mapM fun p =>
    match p.1 with
    | .str _ | .torn _ | .bytes _ => .ok p
    | k => .error (.notNamed k.kindName)

/-- Members by their names, which have to be texts. -/
def byName (m : List (Value × Value)) : Except MappingFault (List (Text.Raw × Value)) :=
  m.mapM fun p =>
    match p.1 with
    | .str name => .ok (.whole name, p.2)
    | .torn name => .ok (.torn name, p.2)
    | _ => .error .byteNames

/-- Members whose names are all whole. A torn name is no name of a section, and is not even compared
with them. -/
def wholeNames (m : List (Text.Raw × Value)) : Checked (List (String × Value)) :=
  match m.mapM fun p => p.1.whole?.map (·, p.2) with
  | some named => .good named
  | none => .fault .notUnicode

/-- The users whose home is known; the first stands for the one who runs the program. -/
def homes : List String := ["~", "~root"]

/-- The members that a file gives. A directory gives none, and neither does a file in a home. -/
def fileMembers (files : Files.Tree) (path : Files.Path) :
    Except SettingsError (List (Value × Value)) :=
  let home := path.names.head?.filter fun n => path.origin = .here && n.toList.head? = some '~'
  match home with
  | some name => if homes.contains name then .ok [] else .error .unknownHome
  | none => do
    match ← (files.bytesAt? path).mapError .file with
    | none => return []
    | some bytes =>
      let v ← (Yaml.readFile bytes).mapError .content
      ((documentMembers v).bind comparable).mapError .notMapping

/-- The variable that names the file in use. -/
def pathVariable : String := "FLOWLANE_CONFIG_PATH"

/-- The file that is used, if it is there, when none is named. -/
def defaultFile : Files.Path := .relative ["config", "flowlane.yaml"]

/-- The file in use: the one that is named, the one that the variable names, or the default. -/
def configFile (named : Option Files.Path) (env : Environment) (files : Files.Tree) :
    Option Files.Path :=
  let asked := (env.lookup pathVariable).filter fun text => !text.isEmpty
  let usual := if (files.contains defaultFile).toOption = some true then some defaultFile else none
  named.or ((asked.map .ofString).or usual)

/-- Settings from the members of all places, the strongest last. -/
def ofMembers (env : Environment) (weak : List (Value × Value)) (strong : List (Text.Raw × Value)) :
    Except SettingsError (Settings Float) := do
  let middle ← env.settings.mapError .environment
  let weak ← (byName weak).mapError .notMapping
  let checked := (wholeNames weak).andThen fun weak =>
    (wholeNames strong).andThen fun strong =>
      check Number.checkDouble
        (Value.overlayAll (Value.overlayAll (namedSections weak) middle) (namedSections strong))
  (checked.entitled model).mapError .invalid

/-- The settings of a run of the program. -/
def load (named : Option Files.Path) (env : Environment) (files : Files.Tree) :
    Except SettingsError (Settings Float) :=
  match configFile named env files with
  | none => ofMembers env [] []
  | some path => do
    if !(← (files.contains path).mapError .file) then throw (.missingFile path)
    ofMembers env (← fileMembers files path) []

/-- Settings that are given directly, together with the environment variables. -/
def given (m : List (Text.Raw × Json.Raw)) (env : Environment) :
    Except SettingsError (Settings Float) :=
  ofMembers env [] (m.map fun p => (p.1, .ofRaw p.2))

end Settings

end Swimlane
