import Swimlane.Proofs.Edge
import Swimlane.Proofs.Grid.Position
import Swimlane.Proofs.Grid.Room

/-!
# Connections lead from left to right

Where the connections of a text form no cycle, each of them leads from left to right across all
bands: its source ends before its target begins. The columns of the two are apart, their shapes have
room there, and every band puts its elements at the same distance from the left side of the diagram.

- `Document.Leads`: a connection from one element to another one.
- `Document.rank_lt_of_leads`: without cycles, its target is in a later column.
- `Layout.absolutePosition_x`: the header and the place given by the solver make the absolute place.
- `Layout.generate_leads_right`: hence connections lead from left to right.
-/

namespace Swimlane

open Relation Scalar

namespace Document

/-- A connection leads from one element to another one. -/
def Leads (d : Document) (s t : String) : Prop :=
  s ≠ t ∧ ∃ c ∈ d.connections, d.joins c = true ∧ c.source = s ∧ c.target = t

/-- The edges of the graph without its loops are the connections from one element to another. -/
theorem edge_withoutLoops_iff {d : Document} {s t : String} :
    d.flowGraph.digraph.withoutLoops.Edge s t ↔ d.Leads s t := by
  have hmem : (s, t) ∈ d.flowGraph.edges ↔
      ∃ c ∈ d.connections, d.joins c = true ∧ c.source = s ∧ c.target = t := by
    simp [d.edges_flowGraph, Connection.ends, and_assoc]
  rw [Digraph.Edge, Digraph.mem_withoutLoops, FlowGraph.mem_digraph, hmem, ids_flowGraph]
  constructor
  · rintro ⟨⟨hc, -⟩, hne⟩
    exact ⟨hne, hc⟩
  · rintro ⟨hne, c, hc, hjoins, rfl, rfl⟩
    exact ⟨⟨⟨c, hc, hjoins, rfl, rfl⟩, mem_ids_of_joins hjoins⟩, hne⟩

/-- Without cycles, a connection leads to a later column. -/
theorem rank_lt_of_leads {d : Document} (hacyclic : ∀ id, ¬ TransGen d.Leads id id) {s t : String}
    (h : d.Leads s t) : d.rank s < d.rank t := by
  have hedge : d.flowGraph.digraph.withoutLoops.Edge = d.Leads := by
    funext s t
    exact propext edge_withoutLoops_iff
  have hloops : d.flowGraph.digraph.withoutLoops.Acyclic := by
    intro id hcycle
    rw [hedge] at hcycle
    exact hacyclic id hcycle
  rw [rank, rank, hloops.acyclic_eq_withoutLoops]
  exact hloops.rank_lt_rank (edge_withoutLoops_iff.2 h)

/-- Without cycles, the shape of an element ends before that of a target of its connections begins. -/
theorem beside_of_leads {d : Document} (hacyclic : ∀ id, ¬ TransGen d.Leads id id) {e f : Element}
    (he : e ∈ d.uniqueElements) (hf : f ∈ d.uniqueElements) (h : d.Leads e.id f.id) :
    (Layout.boxOf d.placed e.id).x + e.kind.drawn.width ≤ (Layout.boxOf d.placed f.id).x :=
  d.roomy_placed.beside e he f hf (rank_lt_of_leads hacyclic h)

/-- An edge is drawn for a connection between elements, which leads from one to the other. -/
theorem joins_and_leads_of_mem_edges {d : Document} {e : Edge} (he : e ∈ d.edges)
    (hne : e.connection.source ≠ e.connection.target) :
    d.joins e.connection = true ∧ d.Leads e.connection.source e.connection.target := by
  obtain ⟨i, -, hi, hjoins⟩ := exists_index_of_mem_edgesFrom he
  exact ⟨hjoins, hne, e.connection, List.mem_of_getElem? hi, hjoins, rfl, rfl⟩

/-- There is no cycle where numbers increase along the connections. -/
theorem not_transGen_leads {d : Document} (number : String → Nat)
    (h : ∀ c ∈ d.connections, d.joins c = true → c.source ≠ c.target →
      number c.source < number c.target) (id : String) : ¬ TransGen d.Leads id id := by
  have hlt : ∀ s t, d.Leads s t → number s < number t := by
    rintro s t ⟨hne, c, hc, hjoins, rfl, rfl⟩
    exact h c hc hjoins hne
  intro hcycle
  have hlift : TransGen (· < ·) (number id) (number id) := hcycle.lift number hlt
  rw [transGen_eq_self] at hlift
  exact lt_irrefl _ hlift

end Document

namespace Layout

/-- In a document whose elements have no hyphen in their identifiers, the absolute place of an element
lies as far to the right of the header as the solver has placed it from the origin. -/
theorem absolutePosition_x {l : Layout Rat} {d : Document}
    (hhyphen : ∀ e ∈ d.elements, '-' ∉ e.id.toList) {boxes : List (String × Box Rat)}
    (hplaced : ∀ e ∈ d.uniqueElements, (boxes.lookup e.id).isSome) {n : Node Rat}
    (hn : n ∈ (l.compose d boxes).contentNodes) :
    ∃ b p, boxes.lookup n.id = some b ∧ (l.compose d boxes).absolutePosition n.id = .ok p ∧
      p.x = l.config.headerWidth + b.x := by
  have hconserves : (l.compose d boxes).Conserves d := Diagram.conserves_of_nodes d rfl
  have hid : n.id ∈ d.uniqueElements.map (·.id) :=
    hconserves.ids_contentNodes_perm.mem_iff.1 (List.mem_map_of_mem hn)
  obtain ⟨e, he, heid⟩ := List.mem_map.1 hid
  obtain ⟨b, hb⟩ := Option.isSome_iff_exists.1 (hplaced e he)
  rw [heid] at hb
  obtain ⟨p, hp, hx⟩ := Diagram.exists_absolutePosition rfl hhyphen hn
  refine ⟨b, p, hb, hp, ?_⟩
  rw [boxOf_of_lookup hb, whole_eq, Nat.cast_zero, add_zero, add_zero] at hx
  rcases hx with hx | hx
  · exact hx
  · rw [hx, add_comm]

variable {d : Document} (hhyphen : ∀ e ∈ d.elements, '-' ∉ e.id.toList)

include hhyphen

/-- Without cycles, the shape of a source ends before that of the target begins. -/
theorem exists_width_le (hacyclic : ∀ id, ¬ TransGen d.Leads id id) {diagram : Diagram Rat}
    (hdiagram : diagram = standard.compose d d.placed) {e : Edge} (he : e ∈ diagram.edges)
    (hne : e.connection.source ≠ e.connection.target) :
    ∃ n ∈ diagram.contentNodes, ∃ p q, diagram.node? e.connection.source = some n ∧
      diagram.absolutePosition e.connection.source = .ok p ∧
      diagram.absolutePosition e.connection.target = .ok q ∧ p.x + n.extent.width ≤ q.x := by
  subst hdiagram
  have hplaced : ∀ f ∈ d.uniqueElements, (d.placed.lookup f.id).isSome :=
    fun f hf => Document.isSome_lookup_placed hf
  -- the shape that is drawn for the source, and an element of its name for the target
  obtain ⟨hsource, htarget⟩ := ends_mem_contentNodes he
  obtain ⟨n, hn, hnid⟩ := List.mem_map.1 hsource
  obtain ⟨m, hm, hmid⟩ := List.mem_map.1 htarget
  obtain ⟨s, hs, -, f, hf, hfid, hfound⟩ := Diagram.exists_node?_element rfl hhyphen hn
  have hfunique : f ∈ d.uniqueElements := Grid.mem_uniqueElements_of_mem_members hs hf
  obtain ⟨hjoins, hleads⟩ := Document.joins_and_leads_of_mem_edges he hne
  obtain ⟨g, hg, hgid⟩ := List.mem_map.1 (Document.mem_ids_of_joins hjoins).2
  have hbeside : (boxOf d.placed f.id).x + f.kind.drawn.width ≤ (boxOf d.placed g.id).x := by
    refine Document.beside_of_leads hacyclic hfunique hg ?_
    rw [hfid, hnid, hgid]
    exact hleads
  obtain ⟨a, p, ha, hp, hpx⟩ := absolutePosition_x hhyphen hplaced hn
  obtain ⟨b, q, hb, hq, hqx⟩ := absolutePosition_x hhyphen hplaced hm
  rw [hfid, boxOf_of_lookup ha, hgid, ← hmid, boxOf_of_lookup hb] at hbeside
  rw [hnid] at hp hfound
  rw [hmid] at hq
  have hshown : Grid.elementNode f (s.position f) s.band.id ∈
      (standard.compose d d.placed).contentNodes :=
    List.mem_filter.2 ⟨List.mem_of_find?_eq_some hfound, rfl⟩
  refine ⟨_, hshown, p, q, hfound, hp, hq, ?_⟩
  show p.x + (f.kind.drawn.width : Rat) ≤ q.x
  rw [hpx, hqx]
  linarith

omit hhyphen

/-- **Connections lead to the right**: whatever places the elements of a text, each of them lies as
far to the right of the header as it was placed from the origin, in every band; and where the
connections of the text form no cycle, the shape of the source of every drawn one ends before that of
its target begins. -/
theorem generate_leads_right (text : String) :
    (∀ (l : Layout Rat) (diagram : Diagram Rat), l.generate text = .ok diagram →
      ∃ boxes, l.solver ((Notation.parse text).flowGraph.map whole) = .ok boxes ∧
        ∀ n ∈ diagram.contentNodes, ∃ b p, boxes.lookup n.id = some b ∧
          diagram.absolutePosition n.id = .ok p ∧ p.x = l.config.headerWidth + b.x) ∧
    ((∀ id, ¬ TransGen (Notation.parse text).Leads id id) →
      ∃ diagram, (standard : Layout Rat).generate text = .ok diagram ∧
        ∀ e ∈ diagram.edges, e.connection.source ≠ e.connection.target →
          ∃ n ∈ diagram.contentNodes, ∃ p q, diagram.node? e.connection.source = some n ∧
            diagram.absolutePosition e.connection.source = .ok p ∧
            diagram.absolutePosition e.connection.target = .ok q ∧
            p.x + n.extent.width ≤ q.x) := by
  have hhyphen : ∀ e ∈ (Notation.parse text).elements, '-' ∉ e.id.toList :=
    fun _ he => (Notation.isWord_of_mem_parse he).not_mem_hyphen
  refine ⟨?places, ?leads⟩
  case places =>
    intro l diagram hdiagram
    obtain ⟨boxes, hsolved, hplaced, rfl⟩ := exists_solved_of_diagram hdiagram
    exact ⟨boxes, hsolved, fun n hn => absolutePosition_x hhyphen hplaced hn⟩
  case leads =>
    intro hacyclic
    exact ⟨_, standard_diagram _, fun e he hne => exists_width_le hhyphen hacyclic rfl he hne⟩

/-- A connection from a pool without lanes to a lane, one on to what belongs nowhere, one that skips a
column, one from an element to itself, and one with an unknown end. -/
def relay : String :=
  "pool: Desk\npool: Shop\nlane: Shop > Store\n" ++
  "task: a [Desk] Ask\ntask: b [Store] Fetch\nevent: c [Street] Leave\n" ++
  "flow: a -> b\nflow: b -> c\nflow: a -> c\nflow: b -> b\nflow: c -> nowhere"

theorem generate_leads_right_relay :
    (∀ id, ¬ TransGen (Notation.parse relay).Leads id id) ∧
    ∃ diagram, (standard : Layout Rat).generate relay = .ok diagram ∧
      diagram.edges.map (·.connection.ends) = [("a", "b"), ("b", "c"), ("a", "c"), ("b", "b")] ∧
      (∀ e ∈ diagram.edges, e.connection.source ≠ e.connection.target →
        ∃ n ∈ diagram.contentNodes, ∃ p q, diagram.node? e.connection.source = some n ∧
          diagram.absolutePosition e.connection.source = .ok p ∧
          diagram.absolutePosition e.connection.target = .ok q ∧ p.x + n.extent.width ≤ q.x) ∧
      ∃ boxes, (standard : Layout Rat).solver ((Notation.parse relay).flowGraph.map whole) =
          .ok boxes ∧
        ∀ n ∈ diagram.contentNodes, ∃ b p, boxes.lookup n.id = some b ∧
          diagram.absolutePosition n.id = .ok p ∧ p.x = 40 + b.x := by
  -- the text is read once for both
  have hread : (∀ c ∈ (Notation.parse relay).connections,
      (Notation.parse relay).joins c = true → c.source ≠ c.target →
        ["a", "b", "c"].idxOf c.source < ["a", "b", "c"].idxOf c.target) ∧
      (Notation.parse relay).edges.map (·.connection.ends) =
        [("a", "b"), ("b", "c"), ("a", "c"), ("b", "b")] := by
    decide +kernel
  obtain ⟨hnumbers, hedges⟩ := hread
  have hacyclic : ∀ id, ¬ TransGen (Notation.parse relay).Leads id id :=
    Document.not_transGen_leads (fun id => ["a", "b", "c"].idxOf id) hnumbers
  obtain ⟨hplaces, hleads⟩ := generate_leads_right relay
  obtain ⟨diagram, hdiagram, hright⟩ := hleads hacyclic
  obtain ⟨boxes, -, -, hcompose⟩ := exists_solved_of_diagram hdiagram
  refine ⟨hacyclic, diagram, hdiagram, ?_, hright, hplaces standard diagram hdiagram⟩
  rw [hcompose, edges_compose, hedges]

end Layout

end Swimlane
