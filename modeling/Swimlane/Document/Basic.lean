import Swimlane.Distinct
import Swimlane.Text.Case

/-!
# Process documents

A process document lists, in order, the pools and lanes of a process, its elements, and the
connections between them. Names and identifiers are free text: nothing requires that a lane's pool
is declared, that an element's home exists, that identifiers differ, or that a connection's ends
are known.

- `Document`: the four lists.
- `Document.uniqueElements`: the first element of each identifier.
- `Document.element?`: the element that an identifier stands for.
- `Document.duplicateIds`: the identifiers that are used more than once.
- `Document.Valid`: names and identifiers are not empty, and no marker is listed twice.
-/

namespace Swimlane

/-- What an element of a process is. -/
inductive ElementKind where
  | activity
  | event
  | decision
  | data
  | note
  deriving DecidableEq, Repr

/-- How a connection joins its two ends. -/
inductive ConnectionKind where
  | sequence
  | message
  | association
  deriving DecidableEq, Repr

/-- Where in a process an event stands. -/
inductive EventPosition where
  | start
  | finish
  | intermediate
  deriving DecidableEq, Repr

/-- A participant of the process. -/
structure Pool where
  name : String
  deriving DecidableEq, Repr

/-- A part of a pool, which is named by its text. -/
structure Lane where
  pool : String
  name : String
  deriving DecidableEq, Repr

/-- Something that is placed in a lane or a pool. `home` names that band, and `variant` refines
the kind. -/
structure Element where
  id : String
  home : String
  label : String
  kind : ElementKind
  variant : Option String
  markers : List String
  deriving DecidableEq, Repr

/-- An arrow from one element to another. -/
structure Connection where
  source : String
  target : String
  label : Option String
  kind : ConnectionKind
  deriving DecidableEq, Repr

/-- A process as it was written down. -/
structure Document where
  pools : List Pool
  lanes : List Lane
  elements : List Element
  connections : List Connection
  deriving DecidableEq, Repr

namespace ElementKind

/-- The name of a kind. -/
def name : ElementKind → String
  | activity => "activity"
  | event => "event"
  | decision => "decision"
  | data => "data"
  | note => "annotation"

/-- All kinds. -/
def all : List ElementKind := [activity, event, decision, data, note]

/-- The kind with a given name. -/
def ofName? (s : String) : Option ElementKind := all.find? (·.name = s)

@[simp] theorem ofName?_name (k : ElementKind) : ofName? k.name = some k := by
  cases k <;> decide

end ElementKind

namespace ConnectionKind

/-- The name of a kind. -/
def name : ConnectionKind → String
  | sequence => "sequence"
  | message => "message"
  | association => "association"

/-- All kinds. -/
def all : List ConnectionKind := [sequence, message, association]

/-- The kind with a given name. -/
def ofName? (s : String) : Option ConnectionKind := all.find? (·.name = s)

@[simp] theorem ofName?_name (k : ConnectionKind) : ofName? k.name = some k := by
  cases k <;> decide

end ConnectionKind

/-- The name of a position. -/
def EventPosition.name : EventPosition → String
  | start => "start"
  | finish => "end"
  | intermediate => "intermediate"

/-- The text of an optional string that is not empty, or the given one. -/
def orIfEmpty (s : Option String) (other : String) : String :=
  match s with
  | none => other
  | some t => if t = "" then other else t

/-- Whether one list of characters occurs inside another. -/
def occursIn (part : List Char) : List Char → Bool
  | [] => part.isEmpty
  | c :: rest => part.isPrefixOf (c :: rest) || occursIn part rest

/-- Where an event stands, told by the words in its variant, or in its identifier if it has none.
Other elements have no position. -/
def Element.eventPosition (e : Element) : Option EventPosition :=
  if e.kind = .event then
    let words := Text.lower (orIfEmpty e.variant e.id).toList
    if occursIn "start".toList words then some .start
    else if occursIn "end".toList words then some .finish
    else some .intermediate
  else none

namespace Document

/-- A document with nothing in it. -/
def empty : Document := ⟨[], [], [], []⟩

/-- The first element of each identifier, in the order of the document. -/
def uniqueElements (d : Document) : List Element := distinctBy (·.id) d.elements

/-- No two of the first elements share their identifier. -/
theorem nodup_ids (d : Document) : (d.uniqueElements.map (·.id)).Nodup :=
  List.pairwise_map.2 (pairwise_distinctBy _ _)

/-- The element that an identifier stands for: the first one that has it. -/
def element? (d : Document) (id : String) : Option Element := d.elements.find? (·.id = id)

/-- The identifiers that are used more than once, in the order of their first use. -/
def duplicateIds (d : Document) : List String :=
  let ids := d.elements.map (·.id)
  (distinct ids).filter fun id => 1 < ids.count id

/-- The lanes of a pool, in the order of the document. -/
def lanesOf (d : Document) (pool : String) : List Lane := d.lanes.filter (·.pool = pool)

end Document

/-- A pool has a name. -/
def Pool.Valid (p : Pool) : Prop := p.name ≠ ""

/-- A lane has a name and names its pool. -/
def Lane.Valid (l : Lane) : Prop := l.pool ≠ "" ∧ l.name ≠ ""

/-- An element has an identifier, and lists no marker twice. -/
def Element.Valid (e : Element) : Prop := e.id ≠ "" ∧ e.markers.Nodup

/-- Both ends of a connection have an identifier. -/
def Connection.Valid (c : Connection) : Prop := c.source ≠ "" ∧ c.target ≠ ""

/-- Every record of the document is valid. -/
structure Document.Valid (d : Document) : Prop where
  pools : ∀ p ∈ d.pools, p.Valid
  lanes : ∀ l ∈ d.lanes, l.Valid
  elements : ∀ e ∈ d.elements, e.Valid
  connections : ∀ c ∈ d.connections, c.Valid

end Swimlane
