import Swimlane.Document.Basic
import Swimlane.Notation.Grammar
import Swimlane.Text.Split

/-!
# One line of the notation

A line starts with one of eight keywords; what follows is read by the rule of that keyword, and a
line that does not follow its rule means nothing.

- `Keyword`, `Keyword.ofLine?`: the keyword of a line.
- `taskOptions`: the variant and the markers that the qualifier of a task stands for.
- `Record.ofLine?`: what a line declares.
-/

namespace Swimlane.Notation

open Swimlane.Text

/-- The keywords of the notation. -/
inductive Keyword where
  | pool
  | lane
  | task
  | event
  | gateway
  | data
  | note
  | flow
  deriving DecidableEq, Repr

namespace Keyword

/-- How a keyword is written. -/
def text : Keyword → String
  | pool => "pool:"
  | lane => "lane:"
  | task => "task:"
  | event => "event:"
  | gateway => "gateway:"
  | data => "data:"
  | note => "note:"
  | flow => "flow:"

/-- The keywords in the order in which they are tried. -/
def all : List Keyword := [pool, lane, task, event, gateway, data, note, flow]

/-- The keyword at the front of a line. -/
def ofLine? (line : List Char) : Option Keyword :=
  all.find? fun k => k.text.toList.isPrefixOf line

end Keyword

/-- What one line declares. -/
inductive Record where
  | pool (p : Pool)
  | lane (l : Lane)
  | element (e : Element)
  | connection (c : Connection)
  deriving DecidableEq, Repr

/-- The words that mark how often or in which order a task is done. -/
def taskMarkers : List String := ["loop", "parallel", "sequential", "compensation"]

/-- The variant of a task whose qualifier names none. -/
def defaultTaskVariant : String := "user"

/-- The variant of a task whose label holds parentheses that form no qualifier. -/
def unqualifiedTaskVariant : String := "generic"

/-- The variant of a gateway without a qualifier. -/
def defaultGatewayVariant : String := "xor"

/-- The options of a qualifier: its parts between commas, trimmed, in lower case, and not empty. -/
def options (qualifier : Option (List Char)) : List String :=
  match qualifier with
  | none => []
  | some s =>
    ((splitAt ',' s).map fun part => lower (trim part)).filterMap fun token =>
      if token = [] then none else some (String.ofList token)

/-- The variant that the options of a task stand for: the last one that is not a marker. -/
def taskVariant (tokens : List String) : String :=
  ((tokens.filter (· ∉ taskMarkers)).getLast?).getD defaultTaskVariant

/-- The markers among the options of a task. -/
def markersOf (tokens : List String) : List String := tokens.filter (· ∈ taskMarkers)

/-- The kind of connection that an arrow draws. -/
def Arrow.kind : Arrow → ConnectionKind
  | single => .sequence
  | double => .message
  | dotted => .association

/-- The kind of connection that a text stands for as an arrow; any other text is a sequence. -/
def arrowKind (s : String) : ConnectionKind :=
  if s.toList = Arrow.double.text then .message
  else if s.toList = Arrow.dotted.text then .association
  else .sequence

/-- A qualifier, trimmed and in lower case, unless it is absent or blank. -/
def subtype? (qualifier : Option (List Char)) : Option String :=
  match lower (trim (qualifier.getD [])) with
  | [] => none
  | s => some (String.ofList s)

/-- The element of a line, given what its keyword makes of it. -/
def elementOf (p : Placement) (label : List Char) (kind : ElementKind) (variant : Option String)
    (markers : List String) : Element :=
  ⟨String.ofList p.id, String.ofList (trim p.home), String.ofList label, kind, variant,
    distinct markers⟩

/-- A pool is named by all that follows its keyword. -/
def pool? (s : List Char) : Option Pool :=
  if s = [] then none else some ⟨String.ofList s⟩

/-- A lane names its pool and itself, on the two sides of the one `>`. -/
def lane? (s : List Char) : Option Lane :=
  (operands? '>' s).map fun (pool, name) => ⟨String.ofList pool, String.ofList name⟩

/-- A task with the identifier `start` or `end` is an event. Any other is an activity; its
qualifier lists a variant and markers. -/
def task? (s : List Char) : Option Element := do
  let p ← Placement.read? s
  let caption ← p.caption?
  let id := String.ofList p.id
  if id = "start" ∨ id = "end" then
    some (elementOf p caption.label .event (some id) [])
  else if p.qualified?.isSome then
    let tokens := options caption.qualifier
    some (elementOf p caption.label .activity (some (taskVariant tokens)) (markersOf tokens))
  else
    some (elementOf p caption.label .activity (some unqualifiedTaskVariant) [])

/-- The qualifier of an event is its variant. -/
def event? (s : List Char) : Option Element := do
  let p ← Placement.read? s
  let caption ← p.caption?
  some (elementOf p caption.label .event (subtype? caption.qualifier) [])

/-- The qualifier of a gateway is its variant, which has a default. -/
def gateway? (s : List Char) : Option Element := do
  let p ← Placement.read? s
  let caption ← p.caption?
  let variant := (subtype? caption.qualifier).getD defaultGatewayVariant
  some (elementOf p caption.label .decision (some variant) [])

/-- Data and notes have a label only. -/
def plain? (kind : ElementKind) (s : List Char) : Option Element := do
  let p ← Placement.read? s
  let caption ← p.plain?
  some (elementOf p caption.label kind none [])

/-- A flow connects two elements; a blank label is none. -/
def connection? (s : List Char) : Option Connection :=
  (Flow.read? s).map fun f =>
    ⟨String.ofList f.source, String.ofList f.target,
      match trim (f.label.getD []) with
      | [] => none
      | label => some (String.ofList label),
      f.arrow.kind⟩

/-- What the text after a keyword declares. -/
def Record.ofContent? (k : Keyword) (s : List Char) : Option Record :=
  match k with
  | .pool => (pool? s).map .pool
  | .lane => (lane? s).map .lane
  | .task => (task? s).map .element
  | .event => (event? s).map .element
  | .gateway => (gateway? s).map .element
  | .data => (plain? .data s).map .element
  | .note => (plain? .note s).map .element
  | .flow => (connection? s).map .connection

/-- What a line declares. Only the text after the keyword is trimmed. -/
def Record.ofLine? (line : List Char) : Option Record := do
  let k ← Keyword.ofLine? line
  Record.ofContent? k (trim (line.drop k.text.length))

end Swimlane.Notation
