import Swimlane.Edge
import Swimlane.Scalar
import Swimlane.Shape
import Swimlane.Text.Quoted

/-!
# Diagrams

A diagram is a list of nodes, in which bands stand before what they hold, a list of edges, and the
common width of the bands. A node's position is relative to its parent, which it names.

- `Node`, `Diagram`: the parts of a diagram.
- `Diagram.node?`: the node that an identifier stands for, the first one that has it.
- `Diagram.childrenOf`: the nodes that name a parent.
- `Diagram.absolutePosition`: the sum of the positions along the chain of parents.
-/

namespace Swimlane

/-- What a node is: the band of a pool, the band of a lane, an element, or something else that has a
name. -/
inductive NodeKind where
  | pool
  | lane
  | element (kind : ElementKind)
  | other (name : String)
  deriving DecidableEq, Repr

namespace NodeKind

/-- The name of a kind of node. -/
def name : NodeKind → String
  | pool => "container"
  | lane => "sub_container"
  | element kind => kind.name
  | other name => name

/-- The kind of node with a given name. -/
def ofName (s : String) : NodeKind :=
  if s = "container" then pool
  else if s = "sub_container" then lane
  else ((ElementKind.ofName? s).map element).getD (other s)

/-- Whether a node of this kind is a band. -/
def isBand : NodeKind → Bool
  | pool => true
  | lane => true
  | _ => false

end NodeKind

/-- The size of a node: that of a shape is a whole number of units, that of a band is computed. -/
inductive Extent (α : Type) where
  | shape (size : Size Nat)
  | band (size : Size α)
  deriving DecidableEq, Repr

namespace Extent

variable {α : Type} [Scalar α]

/-- The width of a node. -/
def width : Extent α → α
  | shape size => Scalar.whole size.width
  | band size => size.width

/-- The height of a node. -/
def height : Extent α → α
  | shape size => Scalar.whole size.height
  | band size => size.height

end Extent

/-- A band or an element with its place. The position is that of the upper left corner, counted
from the upper left corner of the parent. -/
structure Node (α : Type) where
  id : String
  kind : NodeKind
  label : String
  position : Point α
  extent : Extent α
  parent : Option String
  variant : Option String
  markers : List String
  icon : Option String
  deriving DecidableEq, Repr

/-- Placed nodes and drawn edges. -/
structure Diagram (α : Type) where
  nodes : List (Node α)
  edges : List Edge
  gridWidth : α
  deriving DecidableEq, Repr

/-- Why a node has no absolute position. -/
inductive PositionError where
  | unknownNode (id : String)
  | endlessParents (id : String)
  deriving DecidableEq, Repr

/-- The wording of a position error. -/
def PositionError.message : PositionError → String
  | unknownNode id => Text.quoted ("Unknown node: " ++ id)
  | endlessParents id => Text.quoted ("Endless parents: " ++ id)

namespace Diagram

variable {α : Type}

/-- The node that an identifier stands for: the first one that has it. -/
def node? (d : Diagram α) (id : String) : Option (Node α) := d.nodes.find? (·.id = id)

/-- The nodes that name a parent, in order. -/
def childrenOf (d : Diagram α) (parent : String) : List (Node α) :=
  d.nodes.filter (·.parent = some parent)

/-- Adds the positions of a chain of parents to a point. The chain ends at a node without a parent
or with an unknown one; a chain longer than the fuel has no sum. -/
def climb [Add α] (d : Diagram α) : Nat → Point α → Option String → Option (Point α)
  | _, p, none => some p
  | fuel, p, some parent =>
    match d.node? parent with
    | none => some p
    | some n =>
      match fuel with
      | 0 => none
      | fuel + 1 => d.climb fuel ⟨p.x + n.position.x, p.y + n.position.y⟩ n.parent

/-- The position of a node counted from the corner of the diagram. -/
def absolutePosition [Add α] (d : Diagram α) (id : String) : Except PositionError (Point α) :=
  match d.node? id with
  | none => .error (.unknownNode id)
  | some n =>
    match d.climb d.nodes.length n.position n.parent with
    | none => .error (.endlessParents id)
    | some p => .ok p

end Diagram

end Swimlane
