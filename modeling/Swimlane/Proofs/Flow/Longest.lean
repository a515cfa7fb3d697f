import Mathlib.Data.List.Perm.Basic
import Swimlane.Proofs.Flow.Rank

/-!
# Ranks as longest walks

Without cycles, the rank of a node is the length of the longest walk to it: zero where no edge leads
to it, and otherwise one more than the greatest rank in front of it. The columns list the nodes of
each rank in their order.

- `greatest`: the greatest of some numbers, or zero.
- `Digraph.Acyclic.rank_eq_greatest`: the rank of a node, by the ranks in front of it.
- `Digraph.columns_getElem`: a column, by the ranks of its nodes.
- `Digraph.greatest_rank`: how many columns there are.
-/

namespace Swimlane

/-- The greatest of some numbers, or zero. -/
def greatest (ns : List Nat) : Nat := ns.max?.getD 0

theorem greatest_eq {ns : List Nat} {n : Nat} (hle : ∀ m ∈ ns, m ≤ n) (hn : n = 0 ∨ n ∈ ns) :
    greatest ns = n := by
  unfold greatest
  cases hmax : ns.max? with
  | none =>
    obtain rfl := List.max?_eq_none_iff.1 hmax
    rcases hn with rfl | hn
    · rfl
    · cases hn
  | some m =>
    obtain ⟨hm, hgreatest⟩ := List.max?_eq_some_iff.1 hmax
    refine Nat.le_antisymm (hle m hm) ?_
    rcases hn with rfl | hn
    · exact Nat.zero_le m
    · exact hgreatest n hn

namespace Digraph

variable {V : Type} [DecidableEq V] {g : Digraph V}

/-! ### In front of a node -/

theorem Awaits.findIdx_of_mem_ready {queue : Queue V} (h : g.Awaits queue) (hg : g.Acyclic) {v : V}
    (hv : v ∈ ready queue) : (columnsOf queue).findIdx (v ∈ ·) = 0 := by
  have hne : queue ≠ [] := by
    rintro rfl
    cases hv
  rw [h.columnsOf_eq hg hne, List.findIdx_cons, decide_eq_true hv, cond_true]

theorem Awaits.findIdx_of_mem_waiting {queue : Queue V} (h : g.Awaits queue) (hg : g.Acyclic)
    {v : V} (hv : v ∈ (Digraph.waiting (ready queue) queue).nodes) :
    (columnsOf queue).findIdx (v ∈ ·) =
      (columnsOf (Digraph.waiting (ready queue) queue)).findIdx (v ∈ ·) + 1 := by
  have hne : queue ≠ [] := by
    rintro rfl
    cases hv
  have hnot := ((mem_nodes_waiting h.nodup _).1 hv).2
  rw [h.columnsOf_eq hg hne, List.findIdx_cons, decide_eq_false hnot, cond_false]

/-- A node that is not ready now waits for a node of the round before its own. -/
theorem Awaits.exists_edge {queue : Queue V} (h : g.Awaits queue) (hg : g.Acyclic) {v : V} {i : Nat}
    (hv : v ∈ queue.nodes) (hi : (columnsOf queue).findIdx (v ∈ ·) = i + 1) :
    ∃ u ∈ queue.nodes, g.Edge u v ∧ (columnsOf queue).findIdx (u ∈ ·) = i := by
  induction queue using columnsOf.induct generalizing i with
  | case1 => cases hv
  | case2 queue hne hready => exact absurd hready (h.ready_ne_nil hg hne)
  | case3 queue hne hready ih =>
    have hnot : v ∉ ready queue := by
      intro hr
      rw [h.findIdx_of_mem_ready hg hr] at hi
      cases hi
    have hwaits := (mem_nodes_waiting h.nodup (ready queue)).2 ⟨hv, hnot⟩
    rw [h.findIdx_of_mem_waiting hg hwaits] at hi
    have hi := Nat.succ.inj hi
    cases i with
    | zero =>
      -- the node is ready in the next round, so what it waits for goes in this one
      have hnext : v ∈ ready (Digraph.waiting (ready queue) queue) := by
        by_contra hlater
        rw [h.waiting.findIdx_of_mem_waiting hg
          ((mem_nodes_waiting h.waiting.nodup _).2 ⟨hwaits, hlater⟩)] at hi
        cases hi
      have hedge : ∃ u ∈ queue.nodes, g.Edge u v := by
        by_contra hnone
        push Not at hnone
        exact hnot (h.mem_ready.2 ⟨hv, hnone⟩)
      obtain ⟨u, hu, huv⟩ := hedge
      have hr : u ∈ ready queue := by
        by_contra hlater
        exact (h.waiting.mem_ready.1 hnext).2 u ((mem_nodes_waiting h.nodup _).2 ⟨hu, hlater⟩) huv
      exact ⟨u, hu, huv, h.findIdx_of_mem_ready hg hr⟩
    | succ i =>
      obtain ⟨u, hu, huv, hindex⟩ := ih h.waiting hwaits hi
      refine ⟨u, ((mem_nodes_waiting h.nodup _).1 hu).1, huv, ?_⟩
      rw [h.findIdx_of_mem_waiting hg hu, hindex]

/-- A node behind the first column has one of the column before its own in front of it. -/
theorem Acyclic.exists_edge_of_rank (hg : g.Acyclic) {v : V} (hv : v ∈ g.nodes) {i : Nat}
    (hi : g.rank v = i + 1) : ∃ u, g.Edge u v ∧ g.rank u = i := by
  rw [← queue_nodes] at hv
  obtain ⟨u, -, huv, hu⟩ := g.queue_awaits.exists_edge hg hv hi
  exact ⟨u, huv, hu⟩

/-- The rank of a node is one more than the greatest rank in front of it, or zero. -/
theorem Acyclic.rank_eq_greatest (hg : g.Acyclic) {v : V} (hv : v ∈ g.nodes) :
    greatest ((g.previous v).map fun u => g.rank u + 1) = g.rank v := by
  refine greatest_eq ?_ ?_
  · intro m hm
    obtain ⟨u, hu, rfl⟩ := List.mem_map.1 hm
    exact hg.rank_lt_rank (mem_previous.1 hu)
  · cases hi : g.rank v with
    | zero => exact .inl rfl
    | succ i =>
      obtain ⟨u, huv, hu⟩ := hg.exists_edge_of_rank hv hi
      exact .inr (List.mem_map.2 ⟨u, mem_previous.2 huv, congrArg (· + 1) hu⟩)

/-! ### Columns -/

/-- A round takes its nodes in their order, and at least one. -/
theorem columnsOf_sublist {queue : Queue V} {column : List V} (h : column ∈ columnsOf queue) :
    column.Sublist queue.nodes ∧ column ≠ [] := by
  induction queue using columnsOf.induct with
  | case1 =>
    rw [columnsOf] at h
    cases h
  | case2 queue hne hready =>
    rw [columnsOf, if_neg hne, dif_pos hready] at h
    obtain rfl := List.mem_singleton.1 h
    exact ⟨.refl _, by simpa using hne⟩
  | case3 queue hne hready ih =>
    rw [columnsOf, if_neg hne, dif_neg hready] at h
    rcases List.mem_cons.1 h with rfl | h
    · exact ⟨List.filter_sublist.map _, hready⟩
    · refine (ih h).imp_left fun hsublist => hsublist.trans ?_
      rw [nodes_waiting]
      exact List.filter_sublist.map _

/-- A column lists the nodes of its rank in their order. -/
theorem columns_getElem {i : Nat} (hi : i < g.columns.length) :
    g.columns[i] = g.nodes.filter fun v => g.rank v = i := by
  have hsublist : g.columns[i].Sublist g.nodes := by
    rw [← queue_nodes]
    exact (columnsOf_sublist (List.getElem_mem hi)).1
  have hrank : ∀ v ∈ g.columns[i], decide (g.rank v = i) = true := fun v hv =>
    decide_eq_true (rank_eq_of_mem hi hv)
  have hfilter := hsublist.filter fun v => g.rank v = i
  rw [List.filter_eq_self.2 hrank] at hfilter
  have hnodes : (g.nodes.filter fun v => g.rank v = i).Nodup := g.nodup_nodes.filter _
  refine hfilter.eq_of_length (List.Perm.length_eq ?_)
  refine (List.perm_ext_iff_of_nodup (hnodes.sublist hfilter) hnodes).2 fun v => ⟨hfilter.mem, ?_⟩
  intro hv
  obtain ⟨hv, hi⟩ := List.mem_filter.1 hv
  obtain ⟨_, hmem⟩ := mem_column_rank hv
  simpa only [of_decide_eq_true hi] using hmem

/-- No column is empty, so that every number of one is the rank of a node. -/
theorem exists_rank_eq {i : Nat} (hi : i < g.columns.length) : ∃ u ∈ g.nodes, g.rank u = i := by
  obtain ⟨hsublist, hne⟩ := columnsOf_sublist (List.getElem_mem hi)
  obtain ⟨u, hu⟩ := List.exists_mem_of_ne_nil _ hne
  have hnode := hsublist.mem hu
  rw [queue_nodes] at hnode
  exact ⟨u, hnode, rank_eq_of_mem hi hu⟩

/-- There is one column for each rank up to the greatest, in whatever order the nodes are listed. -/
theorem greatest_rank {order : List V} (h : order.Perm g.nodes) (hne : order ≠ []) :
    greatest (order.map g.rank) + 1 = g.columns.length := by
  obtain ⟨v, hv⟩ := List.exists_mem_of_ne_nil _ hne
  have hpos : 0 < g.columns.length := Nat.zero_lt_of_lt (mem_column_rank (h.mem_iff.1 hv)).1
  have hlast : g.columns.length - 1 < g.columns.length := Nat.sub_lt hpos Nat.one_pos
  suffices greatest (order.map g.rank) = g.columns.length - 1 by
    rw [this]
    exact Nat.sub_add_cancel hpos
  refine greatest_eq ?_ (.inr ?_)
  · intro m hm
    obtain ⟨u, hu, rfl⟩ := List.mem_map.1 hm
    exact Nat.le_sub_one_of_lt (mem_column_rank (h.mem_iff.1 hu)).1
  · obtain ⟨u, hu, hrank⟩ := exists_rank_eq hlast
    exact List.mem_map.2 ⟨u, h.mem_iff.2 hu, hrank⟩

end Digraph

end Swimlane
