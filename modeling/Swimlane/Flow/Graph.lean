import Swimlane.Distinct
import Swimlane.Scalar
import Swimlane.Table

/-!
# Graphs

- `FlowGraph`: what is to be placed: sized nodes, and edges as they were written down.
- `Digraph`: nodes and edges, where nothing is listed twice and every edge joins two of the nodes.
- `Digraph.next`, `Digraph.previous`: the neighbours of a node along and against the edges.
- `Digraph.keep`: the graph with some of its edges.
- `FlowGraph.digraph`: the edges between known nodes, each once.
-/

namespace Swimlane

/-- Sized nodes, each listed once, and edges as they were written down: an edge may be repeated,
lead back to its own start, or end at an unknown node. -/
structure FlowGraph (V α : Type) where
  nodes : List (V × Size α)
  edges : List (V × V)
  nodup_ids : (nodes.map (·.1)).Nodup

/-- A directed graph. The order of the nodes and of the edges counts. -/
structure Digraph (V : Type) where
  nodes : List V
  edges : List (V × V)
  nodup_nodes : nodes.Nodup
  nodup_edges : edges.Nodup
  closed : ∀ e ∈ edges, e.1 ∈ nodes ∧ e.2 ∈ nodes
  deriving DecidableEq, Repr

variable {V α : Type} [DecidableEq V]

namespace Digraph

/-- The nodes that edges lead to from a node, in the order of the edges. -/
def next (g : Digraph V) (v : V) : List V := (g.edges.filter (·.1 = v)).map (·.2)

/-- The nodes that edges lead from to a node, in the order of the edges. -/
def previous (g : Digraph V) (v : V) : List V := (g.edges.filter (·.2 = v)).map (·.1)

/-- The graph with those of its edges that pass a test. -/
def keep (g : Digraph V) (p : V × V → Bool) : Digraph V where
  nodes := g.nodes
  edges := g.edges.filter p
  nodup_nodes := g.nodup_nodes
  nodup_edges := List.Pairwise.filter p g.nodup_edges
  closed := fun e he => g.closed e (List.filter_sublist.mem he)

/-- The graph without one edge. -/
def erase (g : Digraph V) (e : V × V) : Digraph V := g.keep (· ≠ e)

/-- The graph without the edges that lead back to their own start. -/
def withoutLoops (g : Digraph V) : Digraph V := g.keep fun e => e.1 ≠ e.2

/-- The edges in the order of their starts, and from one start in their own order. -/
def edgesBySource (g : Digraph V) : List (V × V) :=
  g.nodes.flatMap fun v => g.edges.filter (·.1 = v)

theorem mem_next {g : Digraph V} {v w : V} : w ∈ g.next v ↔ (v, w) ∈ g.edges := by
  simp [next]

theorem mem_previous {g : Digraph V} {v w : V} : v ∈ g.previous w ↔ (v, w) ∈ g.edges := by
  simp [previous]

omit [DecidableEq V] in
@[simp] theorem mem_keep {g : Digraph V} {p : V × V → Bool} {e : V × V} :
    e ∈ (g.keep p).edges ↔ e ∈ g.edges ∧ p e = true :=
  List.mem_filter

omit [DecidableEq V] in
@[simp] theorem nodes_keep (g : Digraph V) (p : V × V → Bool) : (g.keep p).nodes = g.nodes := rfl

@[simp] theorem mem_withoutLoops {g : Digraph V} {e : V × V} :
    e ∈ g.withoutLoops.edges ↔ e ∈ g.edges ∧ e.1 ≠ e.2 := by
  simp [withoutLoops]

end Digraph

namespace FlowGraph

/-- A graph from a list of sized nodes, in which a repeated node keeps its first place and takes
its last size. -/
def ofLists (nodes : List (V × Size α)) (edges : List (V × V)) : FlowGraph V α :=
  ⟨Table.ofList nodes, edges, Table.nodup_keys_ofList nodes⟩

/-- The graph with its lengths in other numbers. -/
def map {β : Type} (f : α → β) (g : FlowGraph V α) : FlowGraph V β where
  nodes := g.nodes.map fun n => (n.1, ⟨f n.2.width, f n.2.height⟩)
  edges := g.edges
  nodup_ids := by
    rw [List.map_map]
    exact g.nodup_ids

/-- The nodes without their sizes. -/
def ids (g : FlowGraph V α) : List V := g.nodes.map (·.1)

omit [DecidableEq V] in
@[simp] theorem ids_map {β : Type} (f : α → β) (g : FlowGraph V α) : (g.map f).ids = g.ids := by
  simp [map, ids]

/-- The edges between known nodes, each at the place of its first occurrence. -/
def digraph (g : FlowGraph V α) : Digraph V where
  nodes := g.ids
  edges := distinct (g.edges.filter fun e => e.1 ∈ g.ids ∧ e.2 ∈ g.ids)
  nodup_nodes := g.nodup_ids
  nodup_edges := nodup_distinct _
  closed := fun e he => by
    have he := List.mem_filter.1 (mem_distinct.1 he)
    simpa using he.2

theorem mem_digraph {g : FlowGraph V α} {e : V × V} :
    e ∈ g.digraph.edges ↔ e ∈ g.edges ∧ e.1 ∈ g.ids ∧ e.2 ∈ g.ids := by
  rw [digraph, mem_distinct, List.mem_filter, decide_eq_true_eq]

end FlowGraph

end Swimlane
