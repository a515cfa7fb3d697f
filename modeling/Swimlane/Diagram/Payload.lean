import Swimlane.Diagram.Basic
import Swimlane.Json.Basic
import Swimlane.Json.Writer
import Swimlane.Session

/-!
# Diagrams as JSON

The form in which diagrams are handed to a renderer. The size of an element is a whole number there
and that of a band is not.

- `Node.payload`, `Edge.payload`, `Diagram.payload`, `Session.payload`: the parts as JSON.
- `Diagram.text`: a diagram as JSON text, on one line or indented.
-/

namespace Swimlane

/-- The members of a size. -/
def Extent.members : Extent Float → List (String × Json)
  | .shape size => [("width", .int size.width), ("height", .int size.height)]
  | .band size => [("width", .float size.width), ("height", .float size.height)]

/-- A node as JSON. -/
def Node.payload (n : Node Float) : Json :=
  .obj <|
    [("id", .str n.id), ("kind", .str n.kind.name), ("variant", .ofOption n.variant),
      ("label", .str n.label), ("x", .float n.position.x), ("y", .float n.position.y),
      ("parentId", .ofOption n.parent)] ++
    n.extent.members ++
    [("markers", .strings n.markers), ("icon", .ofOption n.icon)]

/-- An edge as JSON. -/
def Edge.payload (e : Edge) : Json :=
  let kind := e.connection.kind
  .obj [("id", .str e.id), ("sourceId", .str e.connection.source),
    ("targetId", .str e.connection.target), ("label", .ofOption e.connection.label),
    ("preferredExitSide", .ofOption (e.exitSide.map ExitSide.name)),
    ("lineStyle", .str kind.lineStyle), ("kindKeyedVisualVariant", .str kind.look),
    ("arrowhead", .bool kind.hasArrowhead)]

/-- A diagram as JSON. -/
def Diagram.payload (d : Diagram Float) : Json :=
  .obj [("gridWidth", .float d.gridWidth), ("nodes", .arr (d.nodes.map Node.payload)),
    ("edges", .arr (d.edges.map Edge.payload))]

/-- A session as JSON, without its text. -/
def Session.members (s : Session Float) : List (String × Json) :=
  [("revision", .int s.revision), ("error", .ofOption s.error),
    ("diagram", (s.diagram.map Diagram.payload).getD .null)]

/-- A session as JSON, with its text. -/
def Session.payload (s : Session Float) : Json :=
  .obj (s.members ++ [("source", .str s.source)])

/-- A diagram as JSON text. -/
def Diagram.text (d : Diagram Float) (indented : Bool) : String :=
  Json.write (if indented then Json.indented else Json.compact) d.payload

end Swimlane
