import Swimlane.Document.Basic
import Swimlane.Text.Blank

/-!
# Drawn connections

Every connection between two known elements is drawn. Its look depends on its kind; one that
leaves a decision also has a preferred side, told by its label.

- `ExitSide.ofLabel`: the side for a label.
- `Edge`: a connection with its number and its side.
- `Document.edges`: the edges of a document. An edge keeps the number of its connection.
-/

namespace Swimlane

/-- The two sides of a decision. -/
inductive ExitSide where
  | primary
  | secondary
  deriving DecidableEq, Repr

/-- The name of a side. -/
def ExitSide.name : ExitSide → String
  | primary => "primary"
  | secondary => "secondary"

/-- The labels that lead to the secondary side. -/
def negativeLabels : List String := ["false", "no"]

/-- A negative answer leaves on the secondary side, everything else on the primary one; case and
outer blanks do not matter. -/
def ExitSide.ofLabel (label : Option String) : ExitSide :=
  let text := String.ofList (Text.lower (Text.trim (label.getD "").toList))
  if text ∈ negativeLabels then secondary else primary

namespace ConnectionKind

/-- The style of the line of a connection. -/
def lineStyle : ConnectionKind → String
  | sequence => "solid"
  | message => "dashed-fine"
  | association => "dashed-sparse"

/-- The name of the look of a connection. -/
def look : ConnectionKind → String
  | sequence => "sequence-flow"
  | message => "message-flow"
  | association => "association"

/-- An association has no head. -/
def hasArrowhead : ConnectionKind → Bool
  | association => false
  | _ => true

end ConnectionKind

/-- A drawn connection: its number among the connections, and the side on which it leaves. -/
structure Edge where
  number : Int
  connection : Connection
  exitSide : Option ExitSide
  deriving DecidableEq, Repr

namespace Edge

/-- The identifier of an edge. -/
def id (e : Edge) : String := "e" ++ toString e.number

/-- The edge of a connection that leaves the given element. -/
def ofConnection (number : Int) (c : Connection) (source : Option Element) : Edge :=
  let leavesDecision := source.any (·.kind = .decision)
  ⟨number, c, if leavesDecision then some (ExitSide.ofLabel c.label) else none⟩

end Edge

/-- Whether both ends of a connection are elements of the document. -/
def Document.joins (d : Document) (c : Connection) : Bool :=
  (d.element? c.source).isSome && (d.element? c.target).isSome

/-- The edges of connections that are numbered from `first`; those with an unknown end are not
drawn. -/
def Document.edgesFrom (d : Document) : Nat → List Connection → List Edge
  | _, [] => []
  | first, c :: rest =>
    if d.joins c then
      Edge.ofConnection first c (d.element? c.source) :: d.edgesFrom (first + 1) rest
    else d.edgesFrom (first + 1) rest

/-- The edges of a document, in the order of its connections. -/
def Document.edges (d : Document) : List Edge := d.edgesFrom 0 d.connections

end Swimlane
