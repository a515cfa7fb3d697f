import Swimlane.Diagram.Basic
import Swimlane.Flow.Layered
import Swimlane.Grid.Band

/-!
# The strict grid

All bands have one width. Pools stand one below another with a gap, lanes one below another inside
their pool. Elements keep the horizontal place they were given. Inside a lane they keep their
vertical distances, with the group in the middle of the band; in a row they share its middle line.

- `Grid.Config`: the constants of the grid.
- `Grid.width`: the common width.
- `Grid.laneNodes`, `Grid.rowNodes`, `Grid.poolNodes`: the nodes of one band.
- `Grid.nodes`: the nodes of all bands.
-/

namespace Swimlane.Grid

open Scalar

/-- The constants of the grid. -/
structure Config (α : Type) where
  gridPadding : α
  minGridWidth : α
  headerWidth : α
  poolGap : α
  laneMinHeight : α
  lanePadding : α
  rowHeight : α
  deriving DecidableEq, Repr

variable {α : Type} [Scalar α]

/-- The constants that are used when none are given. -/
def Config.standard : Config α :=
  ⟨whole 200, whole 800, whole 40, whole 50, whole 150, whole 80, whole 200⟩

/-- The common width: the right side of the rightmost box with a padding, or the least width. -/
def width (config : Config α) (boxes : List (String × Box α)) : α :=
  larger (largest (whole 0) (boxes.map (·.2.rightEdge)) + config.gridPadding) config.minGridWidth

/-- The distance from the upper side of an element to the line its edges run through. -/
def anchorOffset (kind : ElementKind) : α := half (whole kind.drawn.height)

/-- The node of an element. -/
def elementNode (e : Element) (position : Point α) (parent : String) : Node α where
  id := e.id
  kind := .element e.kind
  label := e.label
  position := position
  extent := .shape e.kind.drawn
  parent := some parent
  variant := e.variant
  markers := e.markers
  icon := icon e.kind e.variant

/-- The node of a band, which has neither variant nor icon. -/
def bandNode (id : String) (kind : NodeKind) (label : String) (position : Point α) (size : Size α)
    (parent : Option String) : Node α :=
  ⟨id, kind, label, position, .band size, parent, none, [], none⟩

/-- The difference between the greatest and the least vertical place of a group. -/
def span (ys : List α) : α := largest (whole 0) ys - smallest (whole 0) ys

/-- The middle between the greatest and the least vertical place of a group. -/
def centre (ys : List α) : α := half (largest (whole 0) ys + smallest (whole 0) ys)

/-- The vertical places of a group of elements. -/
def places (box : String → Box α) (members : List Element) : List α :=
  members.map fun e => (box e.id).y

/-- The height of a lane: the span of its elements with a padding, or the least height. -/
def laneHeight (config : Config α) (box : String → Box α) (band : Band.Lane) : α :=
  larger config.laneMinHeight (span (places box band.members) + config.lanePadding)

/-- The nodes of a lane: its band, and its elements around the middle of the band. -/
def laneNodes (config : Config α) (box : String → Box α) (gridWidth : α) (parent : String)
    (top : α) (band : Band.Lane) : List (Node α) :=
  let height := laneHeight config box band
  let middle := centre (places box band.members)
  bandNode band.id .lane band.label ⟨config.headerWidth, top⟩ ⟨gridWidth, height⟩ (some parent) ::
    band.members.map fun e =>
      let y := half height + ((box e.id).y - middle) - anchorOffset e.kind
      elementNode e ⟨(box e.id).x, y⟩ band.id

/-- The nodes of lanes one below another, the first at `top`. -/
def lanesNodes (config : Config α) (box : String → Box α) (gridWidth : α) (parent : String) :
    α → List Band.Lane → List (Node α)
  | _, [] => []
  | top, band :: rest =>
    laneNodes config box gridWidth parent top band ++
      lanesNodes config box gridWidth parent (top + laneHeight config box band) rest

/-- The nodes of elements in one row. -/
def rowNodes (config : Config α) (box : String → Box α) (parent : String)
    (members : List Element) : List (Node α) :=
  members.map fun e =>
    let y := half config.rowHeight - anchorOffset e.kind
    elementNode e ⟨config.headerWidth + (box e.id).x, y⟩ parent

/-- The height of the band of a pool: the sum of its lanes, or that of a row. -/
def poolHeight (config : Config α) (box : String → Box α) : Band.Content → α
  | .lanes bands => total (bands.map (laneHeight config box))
  | .row _ => config.rowHeight

/-- The nodes that the band of a pool holds. -/
def contentNodes (config : Config α) (box : String → Box α) (gridWidth : α) (parent : String) :
    Band.Content → List (Node α)
  | .lanes bands => lanesNodes config box gridWidth parent (whole 0) bands
  | .row members => rowNodes config box parent members

/-- The nodes of a pool: its band, and what it holds. -/
def poolNodes (config : Config α) (box : String → Box α) (gridWidth : α) (top : α)
    (band : Band.Pool) : List (Node α) :=
  let size := ⟨gridWidth + config.headerWidth, poolHeight config box band.content⟩
  bandNode band.id .pool band.label ⟨whole 0, top⟩ size none ::
    contentNodes config box gridWidth band.id band.content

/-- The nodes of pools one below another with gaps, the first at `top`. -/
def nodesFrom (config : Config α) (box : String → Box α) (gridWidth : α) :
    α → List Band.Pool → List (Node α)
  | _, [] => []
  | top, band :: rest =>
    let next := top + poolHeight config box band.content + config.poolGap
    poolNodes config box gridWidth top band ++ nodesFrom config box gridWidth next rest

/-- The nodes of all bands, from the top of the diagram. -/
def nodes (config : Config α) (box : String → Box α) (gridWidth : α) (bands : List Band.Pool) :
    List (Node α) :=
  nodesFrom config box gridWidth (whole 0) bands

end Swimlane.Grid
