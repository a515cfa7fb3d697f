import Swimlane.Proofs.Flow.Placement

/-!
# The direction of the flow

Edges lead from left to right, those that were cut to break cycles from right to left.

- `Layered.solve_apart`: a node of a lower rank is placed left of one of a higher rank.
- `Layered.solve_stacked`: nodes of one rank are placed one above another.
- `Layered.solve_direction`: the same along every edge between two different nodes.
-/

namespace Swimlane.Layered

open Relation

variable {V : Type} [DecidableEq V] {config : Config Rat} {g : FlowGraph V Rat}

/-- The columns that are placed hold the same nodes as the rounds in which nodes are peeled off. -/
theorem columns_reordered (config : Config Rat) (g : FlowGraph V Rat) :
    Digraph.Reordered g.digraph.acyclic.columns
      (orderedColumns config.sweeps g.digraph.acyclic) :=
  Digraph.ordered_reordered _ _ _

/-- The nodes of a column have one rank. -/
theorem rank_eq_of_mem_column {column : List V}
    (hcolumn : column ∈ orderedColumns config.sweeps g.digraph.acyclic) {u v : V}
    (hu : u ∈ column) (hv : v ∈ column) :
    g.digraph.acyclic.rank u = g.digraph.acyclic.rank v := by
  have hreordered := columns_reordered config g
  obtain ⟨i, hi, rfl⟩ := List.getElem_of_mem hcolumn
  have hi' : i < g.digraph.acyclic.columns.length := hreordered.length_eq ▸ hi
  have hperm := hreordered.get hi' hi
  exact (Digraph.rank_eq_of_mem hi' (hperm.mem_iff.2 hu)).trans
    (Digraph.rank_eq_of_mem hi' (hperm.mem_iff.2 hv)).symm

/-- A node is placed with the column of its rank. -/
theorem exists_mem_solvedColumns (config : Config Rat) {v : V} (hv : v ∈ g.ids) :
    ∃ h : g.digraph.acyclic.rank v < (solvedColumns config g).length,
      ∃ b, (v, b) ∈ (solvedColumns config g)[g.digraph.acyclic.rank v] := by
  have hnode : v ∈ g.digraph.acyclic.nodes := by
    rw [Digraph.nodes_acyclic]
    exact hv
  obtain ⟨hrank, hmem⟩ := Digraph.mem_column_rank hnode
  have hreordered := columns_reordered config g
  rw [← map_fst_solvedColumns] at hreordered
  have hlength := hreordered.length_eq
  rw [List.length_map] at hlength
  have hperm := hreordered.get hrank (by rwa [List.length_map, ← hlength])
  have hmem' := hperm.mem_iff.1 hmem
  simp only [List.get_eq_getElem, List.getElem_map] at hmem'
  obtain ⟨⟨_, b⟩, hb, rfl⟩ := List.mem_map.1 hmem'
  exact ⟨hlength ▸ hrank, b, hb⟩

/-- A node of a lower rank is placed left of one of a higher rank, at the distance between
columns. -/
theorem solve_apart (hwidth : ∀ n ∈ g.nodes, 0 ≤ n.2.width) (hsep : 0 ≤ config.rankSep) {u v : V}
    (hu : u ∈ g.ids) (hv : v ∈ g.ids)
    (hlt : g.digraph.acyclic.rank u < g.digraph.acyclic.rank v) :
    ∃ a b, (solve config g).lookup u = some a ∧ (solve config g).lookup v = some b ∧
      a.rightEdge + config.rankSep ≤ b.x - b.width / 2 := by
  obtain ⟨hi, a, ha⟩ := exists_mem_solvedColumns config hu
  obtain ⟨hj, b, hb⟩ := exists_mem_solvedColumns config hv
  -- the ranks are the places of the two columns, and columns are placed from left to right
  have hapart := List.pairwise_iff_getElem.1 (solvedColumns_pairwise hwidth hsep)
  exact ⟨a, b, lookup_solve_of_mem (List.getElem_mem hi) ha,
    lookup_solve_of_mem (List.getElem_mem hj) hb, hapart _ _ hi hj hlt _ ha _ hb⟩

/-- Two nodes of one rank are placed on one line, one above the other at the distance between
nodes. -/
theorem solve_stacked (hheight : ∀ n ∈ g.nodes, 0 ≤ n.2.height) (hsep : 0 ≤ config.nodeSep)
    {u v : V} (hu : u ∈ g.ids) (hv : v ∈ g.ids) (hne : u ≠ v)
    (heq : g.digraph.acyclic.rank u = g.digraph.acyclic.rank v) :
    ∃ a b, (solve config g).lookup u = some a ∧ (solve config g).lookup v = some b ∧
      a.x = b.x ∧ (a.y + a.height / 2 + config.nodeSep ≤ b.y - b.height / 2 ∨
        b.y + b.height / 2 + config.nodeSep ≤ a.y - a.height / 2) := by
  obtain ⟨hi, a, ha⟩ := exists_mem_solvedColumns config hu
  obtain ⟨_, b, hb⟩ := exists_mem_solvedColumns config hv
  simp only [← heq] at hb
  have hcolumn := List.getElem_mem hi
  exact ⟨a, b, lookup_solve_of_mem hcolumn ha, lookup_solve_of_mem hcolumn hb,
    solvedColumn_apart hheight hsep hcolumn ha hb hne⟩

/-- **Flow direction**: edges that are kept lead from left to right, edges that are cut from right
to left, and no edge stays within a column. -/
theorem solve_direction (hwidth : ∀ n ∈ g.nodes, 0 ≤ n.2.width) (hsep : 0 ≤ config.rankSep)
    {s t : V} (hedge : (s, t) ∈ g.edges) (hs : s ∈ g.ids) (ht : t ∈ g.ids) (hne : s ≠ t) :
    ∃ a b : Box Rat, (solve config g).lookup s = some a ∧ (solve config g).lookup t = some b ∧
      ((s, t) ∈ g.digraph.acyclic.edges → a.rightEdge + config.rankSep ≤ b.x - b.width / 2) ∧
      ((s, t) ∉ g.digraph.acyclic.edges → b.rightEdge + config.rankSep ≤ a.x - a.width / 2) ∧
      ∀ column ∈ orderedColumns config.sweeps g.digraph.acyclic, ¬ (s ∈ column ∧ t ∈ column) := by
  have hacyclic := g.digraph.acyclic_acyclic
  by_cases hkept : (s, t) ∈ g.digraph.acyclic.edges
  · have hlt := hacyclic.rank_lt_rank hkept
    obtain ⟨a, b, ha, hb, hapart⟩ := solve_apart hwidth hsep hs ht hlt
    exact ⟨a, b, ha, hb, fun _ => hapart, fun hcut => absurd hkept hcut,
      fun _ hcolumn h => hlt.ne (rank_eq_of_mem_column hcolumn h.1 h.2)⟩
  · -- a walk along the edges that are kept leads back from the end to the start
    have hmem : (s, t) ∈ g.digraph.edges := FlowGraph.mem_digraph.2 ⟨hedge, hs, ht⟩
    have hwalk := (reflTransGen_iff_eq_or_transGen.1
      (Digraph.reaches_of_not_mem_acyclic hmem hne hkept)).resolve_left hne
    have hlt := hacyclic.rank_lt_of_transGen hwalk
    obtain ⟨b, a, hb, ha, hapart⟩ := solve_apart hwidth hsep ht hs hlt
    exact ⟨a, b, ha, hb, fun hk => absurd hk hkept, fun _ => hapart,
      fun _ hcolumn h => hlt.ne (rank_eq_of_mem_column hcolumn h.2 h.1)⟩

/-- Three nodes in a circle, with a loop and a repeated edge. -/
def circle : FlowGraph Nat Rat where
  nodes := [(0, ⟨140, 60⟩), (1, ⟨50, 50⟩), (2, ⟨60, 70⟩)]
  edges := [(0, 1), (1, 2), (2, 2), (2, 0), (0, 1)]
  nodup_ids := by decide

theorem solve_direction_circle :
    (∀ n ∈ circle.nodes, 0 ≤ n.2.width) ∧ (0 : Rat) ≤ (Config.standard : Config Rat).rankSep ∧
      (2, 0) ∈ circle.edges ∧ 2 ∈ circle.ids ∧ 0 ∈ circle.ids ∧ (2 : Nat) ≠ 0 ∧
    ∃ a b : Box Rat, (solve .standard circle).lookup 2 = some a ∧
      (solve .standard circle).lookup 0 = some b ∧
      ((2, 0) ∈ circle.digraph.acyclic.edges →
        a.rightEdge + (Config.standard : Config Rat).rankSep ≤ b.x - b.width / 2) ∧
      ((2, 0) ∉ circle.digraph.acyclic.edges →
        b.rightEdge + (Config.standard : Config Rat).rankSep ≤ a.x - a.width / 2) ∧
      ∀ column ∈ orderedColumns (Config.standard : Config Rat).sweeps circle.digraph.acyclic,
        ¬ (2 ∈ column ∧ 0 ∈ column) := by
  have hwidth : ∀ n ∈ circle.nodes, 0 ≤ n.2.width := by decide
  have hsep : (0 : Rat) ≤ (Config.standard : Config Rat).rankSep := by decide
  have hedge : (2, 0) ∈ circle.edges := by decide
  have hs : 2 ∈ circle.ids := by decide
  have ht : 0 ∈ circle.ids := by decide
  exact ⟨hwidth, hsep, hedge, hs, ht, by decide,
    solve_direction hwidth hsep hedge hs ht (by decide)⟩

end Swimlane.Layered
