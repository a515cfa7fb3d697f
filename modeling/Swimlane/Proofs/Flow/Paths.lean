import Mathlib.Data.List.Chain
import Mathlib.Order.Bounds.Defs
import Swimlane.Proofs.Flow.Lookup

/-!
# Ranks as longest paths

In a graph without cycles, the ranks that are found one after another are the lengths of longest
paths. So no numbering of the nodes that grows along every edge is smaller anywhere, and where there
are nodes, no layer is left empty.

- `Digraph.PathTo`: a directed path to a node.
- `Digraph.PathTo.length_le`: a numbering that grows along every edge bounds the paths to a node.
- `Digraph.Acyclic.exists_pathTo`: a path that is as long as the rank of its end.
- `Digraph.Layering`, `Digraph.exists_layering`: what the layers hold that the nodes are put into.
- `Digraph.RankedByPaths`, `Digraph.Acyclic.rankedByPaths`: what the ranks and the layers are.
- `Digraph.layers?_blank`: without nodes there is one layer, which is empty.
-/

namespace Swimlane.Digraph

variable {V : Type} {g : Digraph V}

/-! ### Paths -/

/-- A directed path to a node, told by the nodes in front of it. It has as many edges as these. -/
structure PathTo (g : Digraph V) (before : List V) (v : V) : Prop where
  chain : (before ++ [v]).IsChain g.Edge
  nodup : (before ++ [v]).Nodup

/-- One edge more leads from the end of a path to another node. -/
theorem isChain_concat {path : List V} {u v : V} (h : (path ++ [u]).IsChain g.Edge)
    (hedge : g.Edge u v) : (path ++ [u] ++ [v]).IsChain g.Edge := by
  refine List.isChain_append.2 ⟨h, .singleton v, fun x hx y hy => ?_⟩
  rw [List.getLast?_concat] at hx
  cases hx
  cases hy
  exact hedge

/-- A numbering that grows along every edge is at least as great at the end of a path as the path is
long. -/
theorem PathTo.length_le {before : List V} {v : V} (h : g.PathTo before v) {r : V → Nat}
    (hr : ∀ u v, g.Edge u v → r u < r v) : before.length ≤ r v := by
  obtain ⟨hchain, -⟩ := h
  -- from the end of the path, edge by edge
  induction before using List.reverseRecOn generalizing v with
  | nil => exact Nat.zero_le _
  | append_singleton before u ih =>
    obtain ⟨hbefore, -, hedge⟩ := List.isChain_append.1 hchain
    have hlt := hr u v (hedge u (by simp) v (by simp))
    have hle := ih hbefore
    rw [List.length_append, List.length_singleton]
    omega

variable [DecidableEq V]

/-- Without cycles, a chain of edges comes to no node twice. -/
theorem Acyclic.nodup_of_isChain (hg : g.Acyclic) {path : List V} (h : path.IsChain g.Edge) :
    path.Nodup := by
  have hgrows : path.IsChain fun u v => g.rank u < g.rank v := h.imp fun _ _ => hg.rank_lt_rank
  have : IsTrans V fun u v => g.rank u < g.rank v := ⟨fun _ _ _ => Nat.lt_trans⟩
  refine hgrows.pairwise.imp fun hlt heq => ?_
  rw [heq] at hlt
  exact Nat.lt_irrefl _ hlt

/-- Some path to a node is as long as its rank: in front of a node behind the first column there is
one of the column before its own. -/
theorem Acyclic.exists_pathTo (hg : g.Acyclic) {v : V} (hv : v ∈ g.nodes) :
    ∃ before, g.PathTo before v ∧ before.length = g.rank v := by
  obtain ⟨i, hrank⟩ : ∃ i, g.rank v = i := ⟨_, rfl⟩
  rw [hrank]
  induction i generalizing v with
  | zero => exact ⟨[], ⟨.singleton v, List.nodup_singleton v⟩, rfl⟩
  | succ i ih =>
    obtain ⟨u, hedge, hu⟩ := hg.exists_edge_of_rank hv hrank
    obtain ⟨before, hpath, hlength⟩ := ih hedge.source_mem hu
    have hchain := isChain_concat hpath.chain hedge
    refine ⟨before ++ [u], ⟨hchain, hg.nodup_of_isChain hchain⟩, ?_⟩
    rw [List.length_append, List.length_singleton, hlength]

/-! ### Layers -/

/-- Layers that hold every node once, at its rank. None of them is empty if there are nodes. -/
structure Layering (g : Digraph V) (layers : List (List V)) : Prop where
  once : layers.flatten.Perm g.nodes
  mem_layer : ∀ i (hi : i < layers.length) v, v ∈ layers[i] ↔ v ∈ g.nodes ∧ g.rank v = i
  ne_nil : g.nodes ≠ [] → ∀ layer ∈ layers, layer ≠ []

theorem layering_columns (g : Digraph V) : g.Layering g.columns where
  once := g.columns_flatten_perm
  mem_layer := by
    intro i hi v
    rw [columns_getElem hi, List.mem_filter, decide_eq_true_eq]
  ne_nil := fun _ _ hlayer => (columnsOf_sublist hlayer).2

/-- Without nodes there is a layer nevertheless. -/
theorem layering_of_nodes_eq_nil (h : g.nodes = []) : g.Layering [[]] where
  once := .of_eq h.symm
  mem_layer := by
    intro i hi v
    obtain rfl := Nat.lt_one_iff.1 hi
    simp [h]
  ne_nil := fun hne => absurd h hne

theorem layers?_of_nodes_eq_nil (h : g.nodes = []) : g.layers? [] = some [[]] := by
  rw [layers?, h]
  rfl

/-- Along any order in which edges lead forwards, the nodes are put into such layers. These are the
columns, if there are nodes. -/
theorem exists_layering {order : List V} (h : g.SortedBy order) :
    ∃ layers, g.layers? (order.map fun v => (v, g.rank v)) = some layers ∧ g.Layering layers ∧
      (g.nodes ≠ [] → layers = g.columns) := by
  by_cases hnil : g.nodes = []
  · have horder : order = [] := List.perm_nil.1 (hnil ▸ h.perm)
    rw [horder]
    exact ⟨[[]], layers?_of_nodes_eq_nil hnil, layering_of_nodes_eq_nil hnil, absurd hnil⟩
  · exact ⟨g.columns, layers?_eq hnil h, g.layering_columns, fun _ => rfl⟩

/-! ### Ranks and layers -/

/-- Ranks that are the lengths of longest paths, and layers that hold the nodes of each rank. -/
structure RankedByPaths (g : Digraph V) : Prop where
  /-- The rank of a node is the number of edges of a longest path to it. -/
  longest : ∀ v ∈ g.nodes,
    IsGreatest {n | ∃ before, g.PathTo before v ∧ before.length = n} (g.rank v)
  /-- It grows along every edge, and is the least number at every node that does. -/
  grows : ∀ u v, g.Edge u v → g.rank u < g.rank v
  least : ∀ r : V → Nat, (∀ u v, g.Edge u v → r u < r v) → ∀ v ∈ g.nodes, g.rank v ≤ r v
  /-- No rank below one in use is left out. -/
  onto : ∀ v ∈ g.nodes, ∀ i ≤ g.rank v, ∃ u ∈ g.nodes, g.rank u = i
  /-- Some order of the nodes has all edges lead forwards. -/
  sorted : ∃ order, g.SortedBy order
  /-- Along each such order, these are the ranks that are found, and the layers that the nodes are
  put into hold every node once, at its rank. They are the columns, none of which is empty, if there
  are nodes. -/
  found : ∀ order, g.SortedBy order →
    g.rankTable? order = some (order.map fun v => (v, g.rank v)) ∧
      ∃ layers, g.layers? (order.map fun v => (v, g.rank v)) = some layers ∧ g.Layering layers ∧
        (g.nodes ≠ [] → layers = g.columns)

/-- **Ranks are lengths of longest paths**: in every graph without cycles, the ranks that are found
along any order in which edges lead forwards are the lengths of longest paths to the nodes, every
number up to the greatest of them is in use, and the sweeps start from layers that hold every node
once, at its rank, without an empty one among them if there are nodes. -/
theorem Acyclic.rankedByPaths (hg : g.Acyclic) : g.RankedByPaths where
  longest := by
    intro v hv
    refine ⟨hg.exists_pathTo hv, ?_⟩
    rintro _ ⟨before, hpath, rfl⟩
    exact hpath.length_le fun _ _ => hg.rank_lt_rank
  grows := fun _ _ => hg.rank_lt_rank
  least := by
    intro r hr v hv
    obtain ⟨before, hpath, hlength⟩ := hg.exists_pathTo hv
    rw [← hlength]
    exact hpath.length_le hr
  onto := fun _ hv _ hi => exists_rank_eq (hi.trans_lt (mem_column_rank hv).1)
  sorted := ⟨_, hg.sortedBy_columns⟩
  found := fun _ h => ⟨rankTable?_eq hg h, exists_layering h⟩

/-- A diamond with a detour on one side. -/
def detour : Digraph Nat where
  nodes := [4, 3, 2, 1, 0]
  edges := [(3, 4), (0, 1), (1, 4), (0, 2), (2, 3)]
  nodup_nodes := by decide
  nodup_edges := by decide
  closed := by decide

theorem rankedByPaths_detour :
    detour.Acyclic ∧ detour.RankedByPaths ∧
      (detour.rankTable? [0, 1, 2, 3, 4]).bind detour.layers? = some [[0], [2, 1], [3], [4]] :=
  have hg : detour.Acyclic := acyclic_of_closingEdge?_eq_none (by decide)
  ⟨hg, hg.rankedByPaths, by decide +kernel⟩

/-- A graph without nodes. -/
def blank : Digraph Nat where
  nodes := []
  edges := []
  nodup_nodes := .nil
  nodup_edges := .nil
  closed := by decide

/-- Without nodes there is one layer, and it is empty. -/
theorem layers?_blank :
    blank.Acyclic ∧ blank.SortedBy [] ∧
      ∃ layers, (blank.rankTable? []).bind blank.layers? = some layers ∧
        ∃ layer ∈ layers, layer = [] :=
  ⟨acyclic_of_closingEdge?_eq_none (by decide), ⟨.nil, .nil⟩, [[]], rfl, [], .head _, rfl⟩

end Swimlane.Digraph
