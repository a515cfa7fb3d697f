import Swimlane.Grid.Compose
import Swimlane.Notation.Parser
import Swimlane.Text.Quoted

/-!
# Laying out a document

A solver places the elements of a document along its flows; the grid then puts them into bands, and
the edges are drawn. The solver is a parameter: it may fail, leave elements out, or place others.

- `Document.reservedSizes`, `Document.flowGraph`: what the solver is given.
- `Solver`, `SolverFault`: a solver, and how it fails.
- `LayoutError`: why a document has no diagram.
- `Layout.diagram`, `Layout.generate`: the diagram of a document and of a text.
-/

namespace Swimlane

/-- The first element of each identifier with the size that is reserved for it. -/
def Document.reservedSizes (d : Document) : List (String × Size Nat) :=
  d.uniqueElements.map fun e => (e.id, e.kind.reserved)

/-- Whether both ends of a connection have a size. -/
def Connection.isSized (c : Connection) (sizes : List (String × Size Nat)) : Bool :=
  (sizes.lookup c.source).isSome && (sizes.lookup c.target).isSome

/-- The elements of a document with their reserved sizes, and the connections between them. -/
def Document.flowGraph (d : Document) : FlowGraph String Nat where
  nodes := d.reservedSizes
  edges :=
    let sizes := d.reservedSizes
    (d.connections.filter (·.isSized sizes)).map fun c => (c.source, c.target)
  nodup_ids := by
    rw [reservedSizes, List.map_map]
    exact d.nodup_ids

@[simp] theorem Document.ids_flowGraph (d : Document) :
    d.flowGraph.ids = d.uniqueElements.map (·.id) := by
  simp [flowGraph, reservedSizes, FlowGraph.ids]

/-- The connections that have an end without a size, which the solver is not given. -/
def Document.danglingConnections (d : Document) : List Connection :=
  let sizes := d.reservedSizes
  d.connections.filter (!·.isSized sizes)

/-- How a solver fails: with a message, or on a key that it does not find. -/
inductive SolverFault where
  | failure (message : String)
  | unknownKey (key : String)
  deriving DecidableEq, Repr

/-- The wording of a fault. -/
def SolverFault.message : SolverFault → String
  | failure message => message
  | unknownKey key => Text.quoted key

/-- Places the nodes of a graph. The graph that a solver is given stays as it is: what has no place
is looked for among its nodes. What a solver tells of a failure is whole. -/
abbrev Solver (α : Type) := FlowGraph String α → Except SolverFault (List (String × Box α))

/-- Why a document has no diagram. -/
inductive LayoutError where
  | solver (fault : SolverFault)
  | unplaced (id : String)
  deriving DecidableEq, Repr

/-- The wording of a layout error. -/
def LayoutError.message : LayoutError → String
  | solver fault => fault.message
  | unplaced id => "Rank solver returned no position for node: " ++ id

/-- The constants of the grid and the solver. -/
structure Layout (α : Type) where
  config : Grid.Config α
  solver : Solver α

namespace Layout

variable {α : Type} [Scalar α]

/-- The layered placement as a solver, which does not fail. -/
def layeredSolver (config : Layered.Config α) : Solver α := fun g => .ok (Layered.solve config g)

/-- The layout with the given constants and the layered placement. -/
def layered (config : Grid.Config α) (solver : Layered.Config α) : Layout α :=
  ⟨config, layeredSolver solver⟩

/-- The layout that is used when nothing else is asked for. -/
def standard : Layout α := layered .standard .standard

/-- The places of the elements of a document, each of which the solver has to give. -/
def boxes (l : Layout α) (d : Document) : Except LayoutError (List (String × Box α)) :=
  match l.solver (d.flowGraph.map Scalar.whole) with
  | .error fault => .error (.solver fault)
  | .ok boxes =>
    match d.flowGraph.ids.find? fun id => (boxes.lookup id).isNone with
    | some id => .error (.unplaced id)
    | none => .ok boxes

/-- The box of an element. -/
def boxOf (boxes : List (String × Box α)) (id : String) : Box α :=
  let zero : α := Scalar.whole 0
  (boxes.lookup id).getD ⟨zero, zero, zero, zero⟩

/-- The diagram of a document with placed elements. -/
def compose (l : Layout α) (d : Document) (boxes : List (String × Box α)) : Diagram α :=
  let width := Grid.width l.config boxes
  ⟨Grid.nodes l.config (boxOf boxes) width d.bands, d.edges, width⟩

/-- The diagram of a document. -/
def diagram (l : Layout α) (d : Document) : Except LayoutError (Diagram α) :=
  (l.boxes d).map (l.compose d)

/-- The diagram of a text. -/
def generate (l : Layout α) (text : String) : Except LayoutError (Diagram α) :=
  l.diagram (Notation.parse text)

end Layout

end Swimlane
