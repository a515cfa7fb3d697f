import Swimlane.Proofs.Flow.Crossing

/-!
# Two columns without crossings

Where there are two columns only, and some order of the second draws without crossings, one sweep
finds such an order. In that order no node has its neighbours behind those of a later node. So the
means are in order as well, and equal for two nodes only if all neighbours of both are one and the
same node, which takes no part in a crossing of their edges.

- `Digraph.ofRank`: the nodes of a rank, in their order.
- `Digraph.Proper.not_cross_sortColumn`: the second column is sorted without crossings, if some
  order of it has none.
- `Digraph.Acyclic.clean_sweep`: so the first sweep leaves a drawing without crossings.
- `Layered.orderedColumns_untangled`: and any number of further sweeps keeps it.
-/

namespace Swimlane

namespace Digraph

variable {V : Type} [DecidableEq V] {g : Digraph V}

/-- The nodes of a rank, in their order. -/
def ofRank (g : Digraph V) (i : Nat) : List V := g.nodes.filter fun v => g.rank v = i

/-! ### Ranks zero and one -/

variable (hg : g.Acyclic) (hranks : ∀ v ∈ g.nodes, g.rank v ≤ 1)

include hranks in
theorem length_columns_le_two : g.columns.length ≤ 2 := by
  by_contra hlength
  have hi : 2 < g.columns.length := Nat.lt_of_not_le hlength
  obtain ⟨hsublist, hne⟩ := columnsOf_sublist (List.getElem_mem hi)
  obtain ⟨v, hv⟩ := List.exists_mem_of_ne_nil _ hne
  have hnode := hsublist.mem hv
  rw [queue_nodes] at hnode
  have hrank := hranks v hnode
  rw [rank_eq_of_mem hi hv] at hrank
  omega

include hg hranks in
/-- Every edge leads from rank zero to rank one. -/
theorem Acyclic.proper_of_rank_le_one : g.Proper := by
  intro e he
  have hedge : g.Edge e.1 e.2 := he
  have hlt := hg.rank_lt_rank hedge
  have hle := hranks _ hedge.target_mem
  omega

/-- Nothing stands in the first of two columns that edges lead to, so no dead end is out of line. -/
theorem Proper.inLine_of_length_le_two (hproper : g.Proper) {columns : List (List V)}
    (h : Reordered g.columns columns) (hlength : columns.length ≤ 2) : g.InLine columns := by
  refine List.isChain_iff_getElem.2 fun i hi => ?_
  have hend {v : V} (hv : v ∈ columns[i]) : ¬ g.DeadEnd v := fun hdead =>
    hproper.ne_zero_of_mem h (Nat.lt_of_succ_lt hi) hv hdead.1 (by omega)
  refine List.pairwise_iff_forall_sublist.2 fun {u v} huv => ?_
  exact ⟨fun hu => absurd hu (hend (huv.mem (.head _))),
    fun _ hv => absurd hv (hend (huv.mem (.tail _ (.head _))))⟩

/-! ### The first sweep -/

/-- The second column is sorted without crossings, if some order of it draws without crossings. -/
theorem Proper.not_cross_sortColumn (hproper : g.Proper) {upper lower order : List V}
    (hcolumns : g.columns = [upper, lower]) (horder : order.Perm lower)
    (hclean : g.Clean [upper, order]) {e f : V × V} (he : e ∈ g.edges) (hf : f ∈ g.edges) :
    ¬ Cross upper (sortColumn [upper, lower] g.previous lower) e f := by
  rintro ⟨hstart, hend⟩
  have hreordered : Reordered g.columns [upper, order] := by
    rw [hcolumns]
    exact .cons (.refl upper) (.cons horder.symm .nil)
  have hnodup : [upper, lower].flatten.Nodup := hcolumns ▸ (Reordered.refl g.columns).nodup
  have hupper : upper.Nodup := (List.nodup_flatten.1 hnodup).1 _ (.head _)
  have hlower : lower.Nodup := (List.nodup_flatten.1 hnodup).1 _ (.tail _ (.head _))
  -- neighbours stand in the first column, and count with their places there
  have hmem {u v : V} (huv : g.Edge u v) (hv : v ∈ lower) : u ∈ upper :=
    (hproper.mem_of_edge hreordered (i := 0) (by simp) huv).2 (horder.mem_iff.2 hv)
  have hposition {u v : V} (huv : g.Edge u v) (hv : v ∈ lower) :
      position [upper, lower] u = upper.idxOf u :=
    position_eq_idxOf hnodup (.head _) (hmem huv hv)
  have hsorted := sortColumn_perm [upper, lower] g.previous lower
  have hf₂ : f.2 ∈ lower := hsorted.mem_iff.1 (hend.mem (.head _))
  have he₂ : e.2 ∈ lower := hsorted.mem_iff.1 (hend.mem (.tail _ (.head _)))
  have hne : e.2 ≠ f.2 := by
    intro heq
    rw [heq] at hend
    exact absurd (idxOf_lt_of_sublist (hsorted.nodup_iff.2 hlower) hend) (Nat.lt_irrefl _)
  have hkeys := List.pairwise_iff_forall_sublist.1 (pairwise_sortColumn hlower) hend
  have hplaces : order.idxOf e.2 ≠ order.idxOf f.2 := fun h =>
    hne ((List.idxOf_inj (horder.mem_iff.2 he₂)).1 h)
  rcases Nat.lt_or_gt_of_ne hplaces with hlt | hgt
  · -- in the given order the mean of `e.2` is less, since `e` starts before `f`
    have hbefore : [e.2, f.2].Sublist order := sublist_of_idxOf_lt (horder.mem_iff.2 hf₂) hlt
    refine absurd hkeys (not_le.2 (value_meanPosition_lt ?_ ?_ _ _))
    · intro p hp q hq
      have hp := mem_previous.1 hp
      have hq := mem_previous.1 hq
      rw [hposition hp he₂, hposition hq hf₂]
      exact hclean.idxOf_le (i := 0) (by simp) hp hq (hmem hp he₂) hbefore
    · refine ⟨e.1, mem_previous.2 he, f.1, mem_previous.2 hf, ?_⟩
      rw [hposition he he₂, hposition hf hf₂]
      exact idxOf_lt_of_sublist hupper hstart
  · exact hclean.not_cross (i := 0) (by simp) he hf
      ⟨hstart, sublist_of_idxOf_lt (horder.mem_iff.2 he₂) hgt⟩

include hg hranks in
/-- The first sweep leaves two columns without crossings, if some order of the second draws without
crossings. -/
theorem Acyclic.clean_sweep {order : List V} (horder : order.Perm (g.ofRank 1))
    (hclean : g.Clean [g.ofRank 0, order]) : g.Clean (g.sweep true g.columns) := by
  have hlength := length_columns_le_two hranks
  have hget {i : Nat} (hi : i < g.columns.length) : g.columns[i] = g.ofRank i := columns_getElem hi
  match hcolumns : g.columns, hlength with
  | [], _ => exact .nil
  | [column], _ => exact .singleton column
  | [upper, lower], _ =>
    have hupper : upper = g.ofRank 0 := by simpa [hcolumns] using hget (i := 0) (by simp [hcolumns])
    have hlower : lower = g.ofRank 1 := by simpa [hcolumns] using hget (i := 1) (by simp [hcolumns])
    have hsweep : g.sweep true [upper, lower] =
        [upper, sortColumn [upper, lower] g.previous lower] := rfl
    rw [hsweep]
    refine .cons_cons (fun e he f hf => ?_) (.singleton _)
    exact (hg.proper_of_rank_le_one hranks).not_cross_sortColumn hcolumns (hlower ▸ horder)
      (hupper ▸ hclean) he hf

end Digraph

namespace Layered

open Swimlane.Digraph

/-- **Two columns are untangled**: where all ranks are zero or one and some order of the nodes of
rank one draws without crossings beside the nodes of rank zero in their order, no edges cross after
any number of sweeps but none. -/
theorem orderedColumns_untangled {V : Type} [DecidableEq V] {g : Digraph V} {sweeps : Int}
    {order : List V} (hranks : ∀ v ∈ g.nodes, g.acyclic.rank v ≤ 1) (hsweeps : 1 ≤ sweeps)
    (horder : order.Perm (g.acyclic.ofRank 1))
    (hclean : g.acyclic.Clean [g.acyclic.ofRank 0, order]) :
    g.acyclic.Clean (orderedColumns sweeps g.acyclic) := by
  have hg := g.acyclic_acyclic
  rw [← g.nodes_acyclic] at hranks
  have hproper := hg.proper_of_rank_le_one hranks
  obtain ⟨n, hn⟩ : ∃ n, sweeps.toNat = n + 1 := ⟨sweeps.toNat - 1, by omega⟩
  -- what the first sweep makes of the columns stays as it is, but for lone nodes
  have hbase : Reordered g.acyclic.columns (g.acyclic.sweep true g.acyclic.columns) :=
    sweep_reordered _ _ _
  have hfirst := hg.clean_sweep hranks horder hclean
  have hline := hproper.inLine_of_length_le_two hbase
    ((List.Forall₂.length_eq hbase).symm ▸ length_columns_le_two hranks)
  have hordered : orderedColumns sweeps g.acyclic =
      (List.range' 1 n).foldl (fun columns s => g.acyclic.sweep (s % 2 = 0) columns)
        (g.acyclic.sweep true g.acyclic.columns) := by
    rw [orderedColumns, ordered, hn, List.range_eq_range', List.range'_succ, List.foldl_cons]
    rfl
  rw [hordered]
  refine Steady.clean ?_ hfirst
  refine List.foldlRecOn _ _ (.refl _ _) fun columns h s _ => ?_
  exact h.sweep hg hproper hbase hfirst fun _ => hline

/-- Three starts that lead to three ends in the opposite order, with a lone node among them, a loop,
an edge that closes a cycle, and two edges that end together. -/
def fan : Digraph Nat where
  nodes := [0, 6, 1, 2, 3, 4, 5]
  edges := [(0, 5), (1, 4), (1, 1), (2, 4), (2, 3), (5, 0)]
  nodup_nodes := by decide
  nodup_edges := by decide
  closed := by decide

theorem orderedColumns_untangled_fan :
    (∀ v ∈ fan.nodes, fan.acyclic.rank v ≤ 1) ∧ (1 : Int) ≤ 4 ∧
      [5, 4, 3].Perm (fan.acyclic.ofRank 1) ∧ fan.acyclic.Clean [fan.acyclic.ofRank 0, [5, 4, 3]] ∧
      ¬ fan.acyclic.Clean fan.acyclic.columns ∧
      fan.acyclic.Clean (orderedColumns 4 fan.acyclic) := by
  have hranks : ∀ v ∈ fan.nodes, fan.acyclic.rank v ≤ 1 := by decide +kernel
  have horder : [5, 4, 3].Perm (fan.acyclic.ofRank 1) := by decide +kernel
  have hclean : fan.acyclic.Clean [fan.acyclic.ofRank 0, [5, 4, 3]] := by decide +kernel
  have htangled : ¬ fan.acyclic.Clean fan.acyclic.columns := by decide +kernel
  exact ⟨hranks, by decide, horder, hclean, htangled,
    orderedColumns_untangled hranks (by decide) horder hclean⟩

end Layered

end Swimlane
