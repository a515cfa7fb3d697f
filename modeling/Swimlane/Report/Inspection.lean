import Swimlane.Containment
import Swimlane.Report.Boxed

/-!
# Inspecting a document

- `Document.counts`: how many records of each kind a document has.
- `Document.placements`: its elements with the bucket that each belongs to.
-/

namespace Swimlane.Document

open Report

/-- How many records of each kind there are. -/
def counts (d : Document) : Boxed where
  title := "Document"
  columns := [⟨"Records", false⟩, ⟨"Count", true⟩]
  rows :=
    [["containers", toString d.pools.length], ["sub-containers", toString d.lanes.length],
      ["elements", toString d.elements.length], ["connections", toString d.connections.length]]

/-- The elements, each with its bucket. -/
def placements (d : Document) : Boxed where
  title := "Elements"
  columns := ["id", "kind", "variant", "label", "bucket"].map fun heading => ⟨heading, false⟩
  rows := d.uniqueElements.map fun e =>
    [e.id, e.kind.name, e.variant.getD "", e.label, (d.containment.bucketOf e.id).id]

end Swimlane.Document
