import Swimlane.Json.Reader
import Swimlane.Settings.Basic
import Swimlane.Text.Case
import Swimlane.Value.Overlay

/-!
# Settings from environment variables

A section may be given as a whole, as JSON in the variable of the section, and member by member in
variables of their own, which win. Names are read without regard to case.

- `Environment`: the variables in their order.
- `Environment.names`: the names of the variables that are looked at.
- `Environment.settings`: the members that the variables give.
-/

namespace Swimlane

/-- Variables with their values, in their order. -/
abbrev Environment := List (String × String)

namespace Environment

/-- What all names of variables begin with. -/
def start : List Char := "flowlane_".toList

/-- What separates a section from its members. -/
def separator : List Char := "__".toList

/-- The names of the variables that members and whole sections have, in capitals. -/
def names : List String :=
  Settings.sections.flatMap fun (section_, members) =>
    (section_.toList :: members.map fun m => section_.toList ++ separator ++ m.toList).map fun s =>
      String.ofList ((start ++ s).map Char.toUpper)

/-- The variables with their names in small letters; of several with one name the last counts. -/
def lowered (e : Environment) : List (List Char × String) :=
  Table.ofList (e.map fun p => (Text.lower p.1.toList, p.2))

/-- The parts of a name between the separators. -/
def parts : List Char → List (List Char)
  | [] => [[]]
  | '_' :: '_' :: rest => [] :: parts rest
  | c :: rest =>
    match parts rest with
    | [] => [[c]]
    | part :: more => (c :: part) :: more

/-- Why the variables say nothing. -/
inductive Fault where
  | notJson (section_ : String)
  | tooDeep (fault : Json.ReadFault)
  deriving DecidableEq, Repr

/-- The wording of a fault. -/
def Fault.message : Fault → String
  | notJson name =>
    "error parsing value for field \"" ++ name ++ "\" from source \"EnvSettingsSource\""
  | tooDeep fault => fault.message

/-- Sets a value behind a path of names. A value on the way that is no mapping stays. -/
def setAt (value : String) : List String → List (Value × Value) → List (Value × Value)
  | [], m => m
  | [key], m => Value.put (.str key) (.str value) m
  | key :: path, m =>
    match Value.field? m key with
    | none => Value.put (.str key) (.map (setAt value path [])) m
    | some (.map inner) => Value.put (.str key) (.map (setAt value path inner)) m
    | some _ => m

/-- The members of a section that have variables of their own. -/
def exploded (e : Environment) (name : String) : List (Value × Value) :=
  let front := start ++ name.toList ++ separator
  e.lowered.foldl (fun m p =>
    if front.isPrefixOf p.1 then
      setAt p.2 ((parts (p.1.drop front.length)).map String.ofList) m
    else m) []

/-- The known name of a member that is the same without regard to case. -/
def knownName (names : List String) (name : String) : String :=
  let low := Text.lower name.toList
  (names.find? fun n => Text.lower n.toList = low).getD name

/-- The members with their known names. -/
def named (names : List String) (m : List (Value × Value)) : Value :=
  .map (Value.ofPairs (m.map fun p =>
    match p.1 with
    | .str name => (.str (knownName names name), p.2)
    | k => (k, p.2)))

/-- What the variables say about a section; none if they say nothing. A section whose variable is
not JSON is an error. -/
def section? (e : Environment) (name : String) (names : List String) :
    Except Fault (Option Value) :=
  let own := e.exploded name
  match e.lowered.lookup (start ++ name.toList) with
  | none => .ok (if own.isEmpty then none else some (named names own))
  | some text =>
    match Json.read text.toList with
    | .error e => .error (if e.fault.isDepth then .tooDeep e.fault else .notJson name)
    | .ok .null => .ok none
    | .ok (.obj m) => .ok (some (named names (Value.overlayMembers (Value.ofRawMembers m) own)))
    | .ok v => .ok (some (.ofRaw v))

/-- The members that the variables give, or why they give none. -/
def settings (e : Environment) : Except Fault (List (String × Value)) :=
  Settings.sections.foldlM (fun m p =>
    (e.section? p.1 p.2).map fun
      | none => m
      | some v => m ++ [(p.1, v)]) []

end Environment

end Swimlane
