import Swimlane.Flow.Column
import Swimlane.Flow.Cycle
import Swimlane.Flow.Order

/-!
# Layered placement

A graph is placed from left to right: cycles are broken, each node gets the column of its rank, the
columns are ordered, and the nodes are stacked in centred columns.

- `Box`: a centre with a width and a height.
- `Layered.Config`: the distances and the number of sweeps.
- `Layered.place`: the boxes of ordered columns.
- `Layered.solve`: the whole placement, column by column.
-/

namespace Swimlane

/-- A box, given by its centre. -/
structure Box (α : Type) where
  x : α
  y : α
  width : α
  height : α
  deriving DecidableEq, Repr

/-- The right side of a box. -/
def Box.rightEdge {α : Type} [Scalar α] (b : Box α) : α := b.x + Scalar.half b.width

namespace Layered

open Scalar

/-- The distances between nodes and between columns, and the number of ordering sweeps. -/
structure Config (α : Type) where
  nodeSep : α
  rankSep : α
  sweeps : Int
  deriving DecidableEq, Repr

variable {V α : Type} [Scalar α]

/-- The distances that are used when none are given. -/
def Config.standard : Config α := ⟨whole 50, whole 60, 4⟩

/-- A column of sized nodes. -/
abbrev Column (V α : Type) := List (V × Size α)

/-- The width of the widest node of a column. -/
def columnWidth (column : Column V α) : α := largest (whole 0) (column.map (·.2.width))

/-- The heights of the nodes of a column and the distances between them. -/
def columnHeight (nodeSep : α) (column : Column V α) : α :=
  total (column.map (·.2.height)) + times nodeSep (column.length - 1)

/-- Stacks the nodes of a column around a common centre, from `top` downwards. -/
def stack (nodeSep centre : α) : α → Column V α → List (V × Box α)
  | _, [] => []
  | top, (v, size) :: rest =>
    (v, ⟨centre, top + half size.height, size.width, size.height⟩) ::
      stack nodeSep centre (top + (size.height + nodeSep)) rest

/-- Places columns one after another, the first at `left`, each centred on the height of the
tallest. -/
def placeFrom (config : Config α) (tallest : α) : α → List (Column V α) → List (V × Box α)
  | _, [] => []
  | left, column :: rest =>
    let width := columnWidth column
    let top := half (tallest - columnHeight config.nodeSep column)
    stack config.nodeSep (left + half width) top column ++
      placeFrom config tallest (left + (width + config.rankSep)) rest

/-- The boxes of ordered columns, column by column. -/
def place (config : Config α) (columns : List (Column V α)) : List (V × Box α) :=
  let tallest := largest (whole 0) (columns.map (columnHeight config.nodeSep))
  placeFrom config tallest (whole 0) columns

variable [DecidableEq V]

/-- The columns of a graph without cycles after the ordering sweeps. -/
def orderedColumns (sweeps : Int) (g : Digraph V) : List (List V) :=
  g.ordered sweeps.toNat g.columns

/-- Nodes with their sizes. -/
def sized (g : FlowGraph V α) (column : List V) : Column V α :=
  column.map fun v => (v, (g.nodes.lookup v).getD ⟨whole 0, whole 0⟩)

/-- The placement of a graph, column by column. -/
def solve (config : Config α) (g : FlowGraph V α) : List (V × Box α) :=
  place config ((orderedColumns config.sweeps g.digraph.acyclic).map (sized g))

end Layered

end Swimlane
