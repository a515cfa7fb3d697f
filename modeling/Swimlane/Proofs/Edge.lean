import Std.Data.String.ToNat
import Swimlane.Proofs.Grid.Conservation

/-!
# Edges and the flows that the solver is given

The solver is given the connections whose two ends have a reserved size; a diagram draws those whose
two ends are elements of the document. The two look-ups know the same identifiers, so both lists
hold the same connections.

- `Document.isSized_reservedSizes`, `Document.edges_flowGraph`: the two look-ups agree on every
  connection.
- `Document.map_connection_edgesFrom`, `Document.exists_index_of_mem_edgesFrom`,
  `Document.edgesFrom_pairwise`: which connections are drawn, and under which numbers.
- `Diagram.DrawsFlow`: a diagram whose edges are those of a graph.
- `Layout.diagram_drawsFlow`: every diagram draws the graph that its solver was given.
-/

namespace Swimlane

/-- The two ends of a connection. -/
def Connection.ends (c : Connection) : String × String := (c.source, c.target)

/-! ### Known ends -/

namespace Document

/-- An identifier has a reserved size if and only if it stands for an element. -/
theorem isSome_lookup_reservedSizes (d : Document) (id : String) :
    (d.reservedSizes.lookup id).isSome = (d.element? id).isSome := by
  have hsize : (d.reservedSizes.lookup id).isSome = true ↔ id ∈ d.uniqueElements.map (·.id) := by
    rw [List.lookup_isSome_iff]
    simp only [reservedSizes, List.mem_map, beq_iff_eq]
    constructor
    · rintro ⟨_, ⟨e, he, rfl⟩, rfl⟩
      exact ⟨e, he, rfl⟩
    · rintro ⟨e, he, rfl⟩
      exact ⟨_, ⟨e, he, rfl⟩, rfl⟩
  have hstands : (d.element? id).isSome = true ↔ id ∈ d.elements.map (·.id) := by
    rw [element?, List.find?_isSome]
    simp
  -- dropping the later elements of an identifier loses no identifier
  have hkept : id ∈ d.uniqueElements.map (·.id) ↔ id ∈ d.elements.map (·.id) :=
    map_mem_distinctBy _ _ _
  rw [Bool.eq_iff_iff, hsize, hstands, hkept]

/-- Both ends of a connection have a size if and only if both are elements. -/
theorem isSized_reservedSizes (d : Document) (c : Connection) :
    c.isSized d.reservedSizes = d.joins c := by
  rw [Connection.isSized, joins, isSome_lookup_reservedSizes, isSome_lookup_reservedSizes]

/-- The solver is given the connections between elements. -/
theorem edges_flowGraph (d : Document) :
    d.flowGraph.edges = (d.connections.filter d.joins).map (·.ends) := by
  have hjoins : d.connections.filter (·.isSized d.reservedSizes) = d.connections.filter d.joins :=
    List.filter_congr fun c _ => d.isSized_reservedSizes c
  rw [← hjoins]
  rfl

theorem mem_ids_of_joins {d : Document} {c : Connection} (h : d.joins c = true) :
    c.source ∈ d.uniqueElements.map (·.id) ∧ c.target ∈ d.uniqueElements.map (·.id) := by
  have hknown {id : String} (hid : (d.element? id).isSome = true) :
      id ∈ d.uniqueElements.map (·.id) := by
    refine (map_mem_distinctBy _ _ _).2 ?_
    rw [element?, List.find?_isSome] at hid
    simpa using hid
  obtain ⟨hsource, htarget⟩ := Bool.and_eq_true_iff.1 h
  exact ⟨hknown hsource, hknown htarget⟩

/-! ### Drawn edges -/

/-- The drawn edges are those of the connections between elements, in their order. -/
theorem map_connection_edgesFrom (d : Document) (first : Nat) (cs : List Connection) :
    (d.edgesFrom first cs).map (·.connection) = cs.filter d.joins := by
  induction cs generalizing first with
  | nil => rfl
  | cons c rest ih =>
    by_cases hc : d.joins c = true
    · rw [edgesFrom, if_pos hc, List.map_cons, ih, List.filter_cons_of_pos hc]
      rfl
    · rw [edgesFrom, if_neg hc, ih, List.filter_cons_of_neg hc]

/-- An edge keeps the number of its connection. -/
theorem exists_index_of_mem_edgesFrom {d : Document} {first : Nat} {cs : List Connection} {e : Edge}
    (he : e ∈ d.edgesFrom first cs) :
    ∃ i : Nat, e.number = (first + i : Nat) ∧ cs[i]? = some e.connection ∧
      d.joins e.connection = true := by
  induction cs generalizing first with
  | nil => cases he
  | cons c rest ih =>
    have hrest (he : e ∈ d.edgesFrom (first + 1) rest) :
        ∃ i : Nat, e.number = (first + i : Nat) ∧ (c :: rest)[i]? = some e.connection ∧
          d.joins e.connection = true := by
      obtain ⟨i, hnumber, hi, hjoins⟩ := ih he
      refine ⟨i + 1, ?_, hi, hjoins⟩
      rw [hnumber]
      congr 1
      omega
    by_cases hc : d.joins c = true
    · rw [edgesFrom, if_pos hc] at he
      rcases List.mem_cons.1 he with rfl | he
      · exact ⟨0, rfl, rfl, hc⟩
      · exact hrest he
    · rw [edgesFrom, if_neg hc] at he
      exact hrest he

/-- The numbers of the edges increase. -/
theorem edgesFrom_pairwise (d : Document) (first : Nat) (cs : List Connection) :
    (d.edgesFrom first cs).Pairwise fun e f => e.number < f.number := by
  induction cs generalizing first with
  | nil => exact .nil
  | cons c rest ih =>
    by_cases hc : d.joins c = true
    · rw [edgesFrom, if_pos hc]
      refine .cons (fun f hf => ?_) (ih _)
      obtain ⟨i, hnumber, -⟩ := exists_index_of_mem_edgesFrom hf
      have hfirst : (Edge.ofConnection first c (d.element? c.source)).number = first := rfl
      rw [hfirst, hnumber]
      omega
    · rw [edgesFrom, if_neg hc]
      exact ih _

end Document

/-! ### The edges of a diagram -/

variable {α : Type}

/-- A diagram that draws the connections between elements, and whose edges are those of a graph, in
order and as often: both ends of each edge are shown by nodes that are no bands, and the edges bear
the numbers of their connections, which increase, as their identifiers, which differ. -/
structure Diagram.DrawsFlow (diagram : Diagram α) (d : Document) (graph : FlowGraph String α) :
    Prop where
  drawn : diagram.edges.map (·.connection) = d.connections.filter d.joins
  ends_eq : graph.edges = diagram.edges.map fun e => (e.connection.source, e.connection.target)
  shown : ∀ e ∈ diagram.edges, e.connection.source ∈ diagram.contentNodes.map (·.id) ∧
    e.connection.target ∈ diagram.contentNodes.map (·.id)
  numbered : ∀ e ∈ diagram.edges, ∃ i : Nat, e.number = i ∧ e.id = "e" ++ toString i ∧
    d.connections[i]? = some e.connection
  increasing : diagram.edges.Pairwise fun e f => e.number < f.number
  nodup_ids : (diagram.edges.map (·.id)).Nodup

/-- The identifiers of edges with different natural numbers differ. -/
theorem Edge.id_ne_id {e f : Edge} {i j : Nat} (he : e.number = i) (hf : f.number = j)
    (hne : i ≠ j) : e.id ≠ f.id := by
  intro heq
  rw [Edge.id, Edge.id, he, hf] at heq
  have hdigits : Nat.repr i = Nat.repr j := by
    have hchars := congrArg String.toList heq
    rw [String.toList_append, String.toList_append] at hchars
    exact String.toList_inj.1 (List.append_cancel_left hchars)
  exact hne (Nat.repr_injective hdigits)

namespace Layout

variable [Scalar α]

/-- Both ends of an edge are shown. -/
theorem ends_mem_contentNodes {l : Layout α} {d : Document} {boxes : List (String × Box α)} {e : Edge}
    (he : e ∈ (l.compose d boxes).edges) :
    e.connection.source ∈ (l.compose d boxes).contentNodes.map (·.id) ∧
      e.connection.target ∈ (l.compose d boxes).contentNodes.map (·.id) := by
  have hconserves : (l.compose d boxes).Conserves d := Diagram.conserves_of_nodes d rfl
  have hids := hconserves.ids_contentNodes_perm
  obtain ⟨_, -, -, hjoins⟩ := Document.exists_index_of_mem_edgesFrom he
  obtain ⟨hsource, htarget⟩ := Document.mem_ids_of_joins hjoins
  exact ⟨hids.mem_iff.2 hsource, hids.mem_iff.2 htarget⟩

/-- **Flows are drawn as they are solved**: every diagram draws the graph that its solver was
given. -/
theorem diagram_drawsFlow {l : Layout α} {d : Document} {diagram : Diagram α}
    (h : l.diagram d = .ok diagram) :
    ∃ boxes, l.solver (d.flowGraph.map Scalar.whole) = .ok boxes ∧
      diagram.DrawsFlow d (d.flowGraph.map Scalar.whole) := by
  obtain ⟨boxes, hsolved, -, rfl⟩ := exists_solved_of_diagram h
  refine ⟨boxes, hsolved, d.map_connection_edgesFrom 0 d.connections, ?ends_eq,
    fun e he => ends_mem_contentNodes he, ?numbered, d.edgesFrom_pairwise 0 d.connections, ?ids⟩
  case ends_eq =>
    show d.flowGraph.edges = (d.edgesFrom 0 d.connections).map (Connection.ends ∘ Edge.connection)
    rw [d.edges_flowGraph, ← List.map_map, d.map_connection_edgesFrom]
  case numbered =>
    intro e he
    obtain ⟨i, hnumber, hi, -⟩ := Document.exists_index_of_mem_edgesFrom he
    rw [Nat.zero_add] at hnumber
    refine ⟨i, hnumber, ?_, hi⟩
    rw [Edge.id, hnumber]
    rfl
  case ids =>
    have hpairwise := d.edgesFrom_pairwise 0 d.connections
    refine List.pairwise_map.2 (hpairwise.imp_of_mem fun {e f} he hf hlt => ?_)
    obtain ⟨i, hi, -⟩ := Document.exists_index_of_mem_edgesFrom he
    obtain ⟨j, hj, -⟩ := Document.exists_index_of_mem_edgesFrom hf
    refine Edge.id_ne_id hi hj fun hij => ?_
    rw [hi, hj, hij] at hlt
    exact lt_irrefl _ hlt

/-- An identifier that is used twice, a connection from an element to itself, one with an unknown
end, and one that is repeated. -/
def tangled : Document where
  pools := [⟨"Shop"⟩]
  lanes := [⟨"Shop", "Desk"⟩]
  elements := [
    ⟨"order", "Desk", "Order", .activity, none, []⟩,
    ⟨"order", "Shop", "Order again", .decision, none, []⟩,
    ⟨"ship", "Desk", "Ship", .event, none, []⟩]
  connections := [⟨"order", "nowhere", none, .sequence⟩, ⟨"order", "ship", none, .message⟩,
    ⟨"order", "order", none, .sequence⟩, ⟨"order", "ship", some "no", .association⟩]

theorem diagram_drawsFlow_tangled :
    ∃ diagram, (standard : Layout Rat).diagram tangled = .ok diagram ∧
      ∃ boxes, (standard : Layout Rat).solver (tangled.flowGraph.map Scalar.whole) = .ok boxes ∧
        diagram.DrawsFlow tangled (tangled.flowGraph.map Scalar.whole) := by
  obtain ⟨boxes, hdiagram⟩ :=
    exists_diagram_of_places (layered_places (α := Rat) .standard .standard tangled)
  exact ⟨_, hdiagram, diagram_drawsFlow hdiagram⟩

end Layout

end Swimlane
