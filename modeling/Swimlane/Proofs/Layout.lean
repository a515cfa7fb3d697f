import Swimlane.Layout
import Swimlane.Proofs.Flow.Placement

/-!
# When there is a diagram, and of what

- `FlowGraph.digraph_map`: what a graph joins does not depend on its sizes.
- `Layout.Places`: a solver gives every element of a document its place.
- `Layout.layered_places`: the layered placement always does.
- `Layout.exists_diagram_of_places`: where it does, there is a diagram.
- `Layout.exists_solved_of_diagram`: a diagram is composed of what the solver gave.
- `Band.ofPools_congr`, `Document.edgesFrom_congr`, `Layout.map_diagram_congr`: what of a document
  its bands, its edges and its diagram depend on.
-/

namespace Swimlane

/-! ### What the solver is given -/

/-- A graph joins the same nodes in whatever numbers its lengths are. -/
theorem FlowGraph.digraph_map {V α β : Type} [DecidableEq V] (f : α → β) (g : FlowGraph V α) :
    (g.map f).digraph = g.digraph := by
  have hids : (g.map f).ids = g.ids := g.ids_map f
  have hedges : (g.map f).digraph.edges = g.digraph.edges := by
    simp only [digraph, hids]
    rfl
  exact Digraph.eq_of_edges_eq hids hedges

/-! ### Where there is a diagram -/

namespace Layout

variable {α : Type} [Scalar α]

/-- The solver of a layout gives every element of a document its place. -/
def Places (l : Layout α) (d : Document) : Prop :=
  ∃ boxes, l.solver (d.flowGraph.map Scalar.whole) = .ok boxes ∧
    ∀ e ∈ d.uniqueElements, (boxes.lookup e.id).isSome

/-- The layered placement gives every element its place. -/
theorem layered_places (config : Grid.Config α) (solver : Layered.Config α) (d : Document) :
    (layered config solver).Places d := by
  refine ⟨_, rfl, fun e he => ?_⟩
  have hid : e.id ∈ (d.flowGraph.map (Scalar.whole (α := α))).ids := by
    rw [FlowGraph.ids_map, Document.ids_flowGraph]
    exact List.mem_map_of_mem he
  obtain ⟨⟨_, box⟩, hbox, rfl⟩ :=
    List.mem_map.1 ((Layered.map_fst_solve_perm solver _).mem_iff.2 hid)
  rw [Table.lookup_eq_some_of_mem (Layered.nodup_solve _ _) hbox]
  rfl

/-- What a solver gives is taken where it places every element. -/
theorem boxes_eq_of_places {l : Layout α} {d : Document} {boxes : List (String × Box α)}
    (hsolver : l.solver (d.flowGraph.map Scalar.whole) = .ok boxes)
    (hplaced : ∀ e ∈ d.uniqueElements, (boxes.lookup e.id).isSome) : l.boxes d = .ok boxes := by
  have hall : d.flowGraph.ids.find? (fun id => (boxes.lookup id).isNone) = none := by
    refine List.find?_eq_none.2 fun id hid => ?_
    rw [Document.ids_flowGraph] at hid
    obtain ⟨e, he, rfl⟩ := List.mem_map.1 hid
    simpa [Option.isSome_iff_ne_none] using hplaced e he
  rw [Layout.boxes, hsolver]
  simp only [hall]

/-- Where every element is given its place, there is a diagram. -/
theorem exists_diagram_of_places {l : Layout α} {d : Document} (h : l.Places d) :
    ∃ boxes, l.diagram d = .ok (l.compose d boxes) := by
  obtain ⟨boxes, hsolver, hplaced⟩ := h
  exact ⟨boxes, by rw [diagram, boxes_eq_of_places hsolver hplaced]; rfl⟩

omit [Scalar α] in
/-- Where no identifier is found without a place, every element has one. -/
theorem isSome_lookup_of_find?_eq_none {d : Document} {boxes : List (String × Box α)}
    (h : (d.flowGraph.ids.find? fun id => (boxes.lookup id).isNone) = none) {e : Element}
    (he : e ∈ d.uniqueElements) : (boxes.lookup e.id).isSome := by
  have hid : e.id ∈ d.flowGraph.ids := by
    rw [Document.ids_flowGraph]
    exact List.mem_map_of_mem he
  have hsome := List.find?_eq_none.1 h e.id hid
  simpa [Option.isSome_iff_ne_none] using hsome

/-- A diagram is composed of what the solver made of the graph of its document. -/
theorem exists_solved_of_diagram {l : Layout α} {d : Document} {diagram : Diagram α}
    (h : l.diagram d = .ok diagram) :
    ∃ boxes, l.solver (d.flowGraph.map Scalar.whole) = .ok boxes ∧
      (∀ e ∈ d.uniqueElements, (boxes.lookup e.id).isSome) ∧ diagram = l.compose d boxes := by
  rw [Layout.diagram, Layout.boxes] at h
  cases hsolved : l.solver (d.flowGraph.map Scalar.whole) with
  | error fault =>
    rw [hsolved] at h
    cases h
  | ok boxes =>
    rw [hsolved] at h
    dsimp only at h
    cases hplaced : d.flowGraph.ids.find? fun id => (boxes.lookup id).isNone with
    | some id =>
      rw [hplaced] at h
      cases h
    | none =>
      rw [hplaced] at h
      exact ⟨boxes, rfl, fun e he => isSome_lookup_of_find?_eq_none hplaced he,
        (Except.ok.inj h).symm⟩

@[simp] theorem edges_compose (l : Layout α) (d : Document) (boxes : List (String × Box α)) :
    (l.compose d boxes).edges = d.edges :=
  rfl

theorem boxOf_of_lookup {boxes : List (String × Box α)} {id : String} {b : Box α}
    (h : boxes.lookup id = some b) : boxOf boxes id = b := by
  rw [boxOf, h]
  rfl

end Layout

/-! ### What a diagram depends on -/

/-- The bands of pools depend on the lanes of a document and on nothing else in it. -/
theorem Band.ofPools_congr {d d' : Document} (h : d.lanes = d'.lanes)
    (members : Bucket → List Element) (earlier : List String) (c : Claims) (names : List String) :
    ofPools d members earlier c names = ofPools d' members earlier c names := by
  induction names generalizing earlier c with
  | nil => rfl
  | cons name rest ih => simp only [ofPools, Document.lanesOf, h, ih]

/-- The edges of connections depend on the elements that their ends stand for. -/
theorem Document.edgesFrom_congr {d d' : Document} (h : d.element? = d'.element?) (first : Nat)
    (cs : List Connection) : d.edgesFrom first cs = d'.edgesFrom first cs := by
  induction cs generalizing first with
  | nil => rfl
  | cons c rest ih =>
    have hjoins : d.joins c = d'.joins c := by rw [joins, joins, h]
    rw [edgesFrom, edgesFrom, hjoins, h, ih]

namespace Layout

variable {α β : Type} [Scalar α]

/-- Where two documents give the solver the same sizes and edges, their elements are given the same
places, or they fail alike. -/
theorem boxes_congr {d d' : Document} (hsizes : d.reservedSizes = d'.reservedSizes)
    (hedges : d.flowGraph.edges = d'.flowGraph.edges) (l : Layout α) : l.boxes d = l.boxes d' := by
  have hgraph : d.flowGraph = d'.flowGraph := by
    cases hd : d.flowGraph
    cases hd' : d'.flowGraph
    obtain rfl := (congrArg FlowGraph.nodes hd).symm.trans
      (hsizes.trans (congrArg FlowGraph.nodes hd'))
    obtain rfl := (congrArg FlowGraph.edges hd).symm.trans
      (hedges.trans (congrArg FlowGraph.edges hd'))
    rfl
  rw [boxes, boxes, hgraph]

/-- Where two documents are also composed alike, up to some view of a diagram, their diagrams are
alike, or they fail alike. -/
theorem map_diagram_congr {d d' : Document} (view : Diagram α → β)
    (hsizes : d.reservedSizes = d'.reservedSizes)
    (hedges : d.flowGraph.edges = d'.flowGraph.edges) {l : Layout α}
    (hview : ∀ boxes, view (l.compose d boxes) = view (l.compose d' boxes)) :
    (l.diagram d).map view = (l.diagram d').map view := by
  rw [diagram, diagram, boxes_congr hsizes hedges]
  cases l.boxes d' with
  | error e => rfl
  | ok boxes => exact congrArg Except.ok (hview boxes)

end Layout

end Swimlane
