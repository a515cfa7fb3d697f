import Swimlane.Document.Basic
import Swimlane.Validation.Basic

/-!
# Documents as JSON

The form in which documents are exchanged, and the check of data that claims to be one.

- `Document.payload`: a document as JSON; every field is listed.
- `Document.check`: the document that JSON data describes; fields that are not known are ignored.
-/

namespace Swimlane

/-- A pool as JSON. -/
def Pool.payload (p : Pool) : Json := .obj [("name", .str p.name)]

/-- A lane as JSON. -/
def Lane.payload (l : Lane) : Json := .obj [("container", .str l.pool), ("name", .str l.name)]

/-- An element as JSON. -/
def Element.payload (e : Element) : Json :=
  .obj [("id", .str e.id), ("container", .str e.home), ("label", .str e.label),
    ("kind", .str e.kind.name), ("variant", .ofOption e.variant),
    ("markers", .strings e.markers)]

/-- A connection as JSON. -/
def Connection.payload (c : Connection) : Json :=
  .obj [("source", .str c.source), ("target", .str c.target), ("label", .ofOption c.label),
    ("kind", .str c.kind.name)]

/-- The members of a document as JSON. -/
def Document.members (d : Document) : List (String × Json) :=
  [("containers", .arr (d.pools.map Pool.payload)),
   ("sub_containers", .arr (d.lanes.map Lane.payload)),
   ("elements", .arr (d.elements.map Element.payload)),
   ("connections", .arr (d.connections.map Connection.payload))]

/-- A document as JSON. -/
def Document.payload (d : Document) : Json := .obj d.members

open Check

/-- The name of the model of pools. -/
def Pool.model : String := "Container"

/-- The name of the model of lanes. -/
def Lane.model : String := "SubContainer"

/-- The name of the model of elements. -/
def Element.model : String := "ContentElement"

/-- The name of the model of connections. -/
def Connection.model : String := "Connection"

/-- The name of the model of documents. -/
def Document.model : String := "ProcessDocument"

/-- A pool needs a name. -/
def Pool.check : Check Pool :=
  object Pool.model fun m => (required "name" nonempty m).map Pool.mk

/-- A lane needs a pool and a name. -/
def Lane.check : Check Lane :=
  object Lane.model fun m =>
    ((required "container" nonempty m).map Lane.mk).both (required "name" nonempty m)

/-- An element needs an identifier, a home, a label and a kind. A marker counts once. -/
def Element.check : Check Element :=
  object Element.model fun m =>
    ((required "id" nonempty m).map Element.mk)
      |>.both (required "container" string m)
      |>.both (required "label" string m)
      |>.both (required "kind" (word .notElementKind ElementKind.ofName?) m)
      |>.both (optional "variant" none nullable m)
      |>.both ((optional "markers" [] (list string) m).map distinct)

/-- A connection needs its two ends. -/
def Connection.check : Check Connection :=
  object Connection.model fun m =>
    ((required "source" nonempty m).map Connection.mk)
      |>.both (required "target" nonempty m)
      |>.both (optional "label" none nullable m)
      |>.both (optional "kind" .sequence (word .notConnectionKind ConnectionKind.ofName?) m)

/-- A document lists its records; a list that is left out is empty. -/
def Document.check : Check Document :=
  object Document.model fun m =>
    ((optional "containers" [] (list Pool.check) m).map Document.mk)
      |>.both (optional "sub_containers" [] (list Lane.check) m)
      |>.both (optional "elements" [] (list Element.check) m)
      |>.both (optional "connections" [] (list Connection.check) m)

/-- The document that JSON data describes. -/
def Document.ofPayload (v : Json) : Except Invalid Document :=
  (Document.check v).entitled Document.model

end Swimlane
