import Mathlib.Data.List.Chain
import Mathlib.Data.List.Permutation
import Swimlane.Flow.Layered
import Swimlane.Proofs.Flow.Breaking
import Swimlane.Proofs.Flow.Longest
import Swimlane.Proofs.Flow.Sorting

/-!
# Crossings

Two edges between neighbouring columns cross if they start in one order and end in the other. Where
every edge leads to the next rank, a sweep forwards leaves a drawing without crossings as it is. A
sweep backwards may spoil it: a node that no edge leads on from is sorted by its own place, among
nodes that are sorted by places in the next column. It does not where these nodes are in line.

- `Digraph.Cross`, `Digraph.Clean`: columns between which no edges cross.
- `Digraph.InLine`: the places of dead ends agree with the places that the nodes beside them aim at.
- `Digraph.Steady`: columns that differ from others in the places of lone nodes only.
- `Digraph.Steady.sortAt`: what sorting one column keeps; `Digraph.Steady.ordered`: so every number
  of sweeps keeps it.
- `Layered.orderedColumns_clean`: sweeps keep a drawing clean whose dead ends are in line.
- `Layered.orderedColumns_straggler`: they spoil one with a dead end that is not.
-/

namespace Swimlane

namespace Digraph

variable {V : Type}

/-- Two edges cross: they start in one order and end in the other. -/
def Cross (upper lower : List V) (e f : V × V) : Prop :=
  [e.1, f.1].Sublist upper ∧ [f.2, e.2].Sublist lower

/-- No two edges between neighbouring columns cross. -/
def Clean (g : Digraph V) (columns : List (List V)) : Prop :=
  columns.IsChain fun upper lower => ∀ e ∈ g.edges, ∀ f ∈ g.edges, ¬ Cross upper lower e f

variable [DecidableEq V]

instance (upper lower : List V) (e f : V × V) : Decidable (Cross upper lower e f) :=
  inferInstanceAs (Decidable (_ ∧ _))

instance (g : Digraph V) (columns : List (List V)) : Decidable (g.Clean columns) :=
  inferInstanceAs (Decidable (List.IsChain _ _))

/-- Every edge leads to the next rank. -/
def Proper (g : Digraph V) : Prop := ∀ e ∈ g.edges, g.rank e.2 = g.rank e.1 + 1

instance (g : Digraph V) : Decidable g.Proper :=
  inferInstanceAs (Decidable (∀ e ∈ g.edges, g.rank e.2 = g.rank e.1 + 1))

/-- Edges lead to the node, and none leads on. -/
def DeadEnd (g : Digraph V) (v : V) : Prop := g.previous v ≠ [] ∧ g.next v = []

instance (g : Digraph V) (v : V) : Decidable (g.DeadEnd v) := inferInstanceAs (Decidable (_ ∧ _))

/-- The mean place of the nodes of the next column that edges lead on to. -/
def aim (g : Digraph V) (lower : List V) (v : V) : Rat :=
  ((g.next v).map lower.idxOf).sum / (g.next v).length

/-- The places of dead ends in front of the last column are in line: none is behind the aim of a
later node of its column, or before that of an earlier one. -/
def InLine (g : Digraph V) (columns : List (List V)) : Prop :=
  columns.IsChain fun upper lower => upper.Pairwise fun u v =>
    (g.DeadEnd u → g.next v ≠ [] → upper.idxOf u ≤ g.aim lower v) ∧
      (g.next u ≠ [] → g.DeadEnd v → g.aim lower u ≤ upper.idxOf v)

instance (g : Digraph V) (columns : List (List V)) : Decidable (g.InLine columns) :=
  inferInstanceAs (Decidable (List.IsChain _ _))

variable {g : Digraph V} {columns base : List (List V)}

/-! ### Before and behind -/

/-- Of two items, the one with the smaller index stands before the other. -/
theorem sublist_of_idxOf_lt {l : List V} {u v : V} (hv : v ∈ l) (h : l.idxOf u < l.idxOf v) :
    [u, v].Sublist l := by
  induction l with
  | nil => cases hv
  | cons w l ih =>
    have hne : w ≠ v := by
      rintro rfl
      rw [List.idxOf_cons_self] at h
      exact absurd h (Nat.not_lt_zero _)
    have hmem : v ∈ l := (List.mem_cons.1 hv).resolve_left hne.symm
    by_cases hu : w = u
    · subst hu
      exact (List.singleton_sublist.2 hmem).cons_cons w
    · rw [List.idxOf_cons_ne _ hu, List.idxOf_cons_ne _ hne] at h
      exact (ih hmem (Nat.lt_of_succ_lt_succ h)).cons w

theorem idxOf_lt_of_sublist {l : List V} (h : l.Nodup) {u v : V} (huv : [u, v].Sublist l) :
    l.idxOf u < l.idxOf v := by
  have hpairwise : l.Pairwise fun u v => l.idxOf u < l.idxOf v := by
    refine List.pairwise_iff_getElem.2 fun i j hi hj hij => ?_
    rwa [h.idxOf_getElem i hi, h.idxOf_getElem j hj]
  exact List.pairwise_iff_forall_sublist.1 hpairwise huv

/-! ### Columns of a graph, each in an order of its own -/

theorem Reordered.mem_getElem_iff (h : Reordered g.columns columns) {i : Nat}
    (hi : i < columns.length) {v : V} : v ∈ columns[i] ↔ v ∈ g.nodes ∧ g.rank v = i := by
  have hi' : i < g.columns.length := (List.Forall₂.length_eq h).symm ▸ hi
  have hperm : g.columns[i].Perm columns[i] := h.get hi' hi
  rw [← hperm.mem_iff, columns_getElem hi', List.mem_filter, decide_eq_true_eq]

theorem Reordered.nodup (h : Reordered g.columns columns) : columns.flatten.Nodup :=
  (h.flatten_perm.symm.trans g.columns_flatten_perm).nodup_iff.2 g.nodup_nodes

/-- A node behind the first column has edges that lead to it. -/
theorem Acyclic.previous_ne_nil (hg : g.Acyclic) (h : Reordered g.columns columns) {i : Nat}
    (hi : i + 1 < columns.length) {v : V} (hv : v ∈ columns[i + 1]) : g.previous v ≠ [] := by
  obtain ⟨hnode, hrank⟩ := (h.mem_getElem_iff hi).1 hv
  obtain ⟨u, huv, -⟩ := hg.exists_edge_of_rank hnode hrank
  exact List.ne_nil_of_mem (mem_previous.2 huv)

/-- The start of an edge stands in the column before that of the end. -/
theorem Proper.mem_of_edge (hproper : g.Proper) (h : Reordered g.columns columns) {i : Nat}
    (hi : i + 1 < columns.length) {u v : V} (huv : g.Edge u v) :
    u ∈ columns[i] ↔ v ∈ columns[i + 1] := by
  rw [h.mem_getElem_iff, h.mem_getElem_iff, hproper (u, v) huv]
  simp [huv.source_mem, huv.target_mem]

/-- A node that edges lead to stands behind the first column. -/
theorem Proper.ne_zero_of_mem (hproper : g.Proper) (h : Reordered g.columns columns) {i : Nat}
    (hi : i < columns.length) {v : V} (hv : v ∈ columns[i]) (hprevious : g.previous v ≠ []) :
    i ≠ 0 := by
  obtain ⟨u, hu⟩ := List.exists_mem_of_ne_nil _ hprevious
  rw [← ((h.mem_getElem_iff hi).1 hv).2, hproper (u, v) (mem_previous.1 hu)]
  exact Nat.succ_ne_zero _

omit [DecidableEq V] in
theorem Clean.not_cross (h : g.Clean columns) {i : Nat} (hi : i + 1 < columns.length) {a b u v : V}
    (hau : g.Edge a u) (hbv : g.Edge b v) :
    ¬ Cross columns[i] columns[i + 1] (a, u) (b, v) :=
  List.isChain_iff_getElem.1 h i hi (a, u) hau (b, v) hbv

/-- Between clean columns, edges that end in order start in order. -/
theorem Clean.idxOf_le (h : g.Clean columns) {i : Nat} (hi : i + 1 < columns.length) {p q u v : V}
    (hpu : g.Edge p u) (hqv : g.Edge q v) (hp : p ∈ columns[i])
    (huv : [u, v].Sublist columns[i + 1]) : columns[i].idxOf p ≤ columns[i].idxOf q := by
  by_contra hlt
  exact h.not_cross hi hqv hpu ⟨sublist_of_idxOf_lt hp (Nat.lt_of_not_le hlt), huv⟩

theorem sortKey_of_nil {neighbours : V → List V} {column : List V} {v : V}
    (h : neighbours v = []) : sortKey columns neighbours column v = column.idxOf v := by
  rw [sortKey, h, meanPosition, if_pos rfl, Mean.value]
  exact div_one _

theorem sortKey_next (hproper : g.Proper) (h : Reordered g.columns columns) {i : Nat}
    (hi : i + 1 < columns.length) {v : V} (hv : v ∈ columns[i]) (hnext : g.next v ≠ []) :
    sortKey columns g.next columns[i] v = g.aim columns[i + 1] v := by
  have hposition : (g.next v).map (position columns) = (g.next v).map columns[i + 1].idxOf := by
    refine List.map_congr_left fun w hw => position_eq_idxOf h.nodup (List.getElem_mem hi) ?_
    exact (hproper.mem_of_edge h hi (mem_next.1 hw)).1 hv
  rw [sortKey, meanPosition, if_neg hnext, hposition, Mean.value, ← List.sum_eq_foldl]
  rfl

/-- Between clean columns, what stands in order is sorted in order by the nodes in front of it. -/
theorem Clean.sortKey_previous_le (hclean : g.Clean columns) (hg : g.Acyclic) (hproper : g.Proper)
    (h : Reordered g.columns columns) {i : Nat} (hi : i + 1 < columns.length) {u v : V}
    (huv : [u, v].Sublist columns[i + 1]) :
    sortKey columns g.previous columns[i + 1] u ≤ sortKey columns g.previous columns[i + 1] v := by
  have hu : u ∈ columns[i + 1] := huv.mem (.head _)
  have hv : v ∈ columns[i + 1] := huv.mem (.tail _ (.head _))
  refine value_meanPosition_le (hg.previous_ne_nil h hi hu) (hg.previous_ne_nil h hi hv) ?_ _ _
  intro p hp q hq
  have hp := mem_previous.1 hp
  have hq := mem_previous.1 hq
  have hpi : p ∈ columns[i] := (hproper.mem_of_edge h hi hp).2 hu
  have hqi : q ∈ columns[i] := (hproper.mem_of_edge h hi hq).2 hv
  have hcolumn : columns[i] ∈ columns := List.getElem_mem _
  rw [position_eq_idxOf h.nodup hcolumn hpi, position_eq_idxOf h.nodup hcolumn hqi]
  exact hclean.idxOf_le hi hp hq hpi huv

/-- Between clean columns, of two nodes that edges lead on from, the first is sorted first by the
nodes behind it. -/
theorem Clean.sortKey_next_le (hclean : g.Clean columns) (hproper : g.Proper)
    (h : Reordered g.columns columns) {i : Nat} (hi : i + 1 < columns.length) {u v : V}
    (huv : [u, v].Sublist columns[i]) (hu : g.next u ≠ []) (hv : g.next v ≠ []) :
    sortKey columns g.next columns[i] u ≤ sortKey columns g.next columns[i] v := by
  refine value_meanPosition_le hu hv ?_ _ _
  intro p hp q hq
  have hp := mem_next.1 hp
  have hq := mem_next.1 hq
  have hpi : p ∈ columns[i + 1] := (hproper.mem_of_edge h hi hp).1 (huv.mem (.head _))
  have hqi : q ∈ columns[i + 1] := (hproper.mem_of_edge h hi hq).1 (huv.mem (.tail _ (.head _)))
  have hcolumn : columns[i + 1] ∈ columns := List.getElem_mem _
  rw [position_eq_idxOf h.nodup hcolumn hpi, position_eq_idxOf h.nodup hcolumn hqi]
  by_contra hlt
  exact hclean.not_cross hi hp hq ⟨huv, sublist_of_idxOf_lt hpi (Nat.lt_of_not_le hlt)⟩

/-! ### Columns that differ in the places of lone nodes -/

/-- Whether an edge leads to the node or on from it. -/
def isJoined (g : Digraph V) (v : V) : Bool := !(g.previous v).isEmpty || !(g.next v).isEmpty

theorem isJoined_iff {v : V} : g.isJoined v = true ↔ g.previous v ≠ [] ∨ g.next v ≠ [] := by
  simp [isJoined]

theorem Edge.isJoined {u v : V} (h : g.Edge u v) : g.isJoined u = true ∧ g.isJoined v = true :=
  ⟨isJoined_iff.2 (.inr (List.ne_nil_of_mem (mem_next.2 h))),
    isJoined_iff.2 (.inl (List.ne_nil_of_mem (mem_previous.2 h)))⟩

/-- The same columns, in which the joined nodes have kept their order. -/
structure Steady (g : Digraph V) (base columns : List (List V)) : Prop where
  reordered : Reordered base columns
  joined : columns.map (List.filter g.isJoined) = base.map (List.filter g.isJoined)

theorem Steady.refl (g : Digraph V) (base : List (List V)) : g.Steady base base := ⟨.refl base, rfl⟩

theorem Steady.length_eq (h : g.Steady base columns) : columns.length = base.length :=
  (List.Forall₂.length_eq h.reordered).symm

theorem Steady.filter_getElem (h : g.Steady base columns) {i : Nat} (hi : i < columns.length)
    (hi' : i < base.length) : columns[i].filter g.isJoined = base[i].filter g.isJoined := by
  have hget := List.getElem_of_eq h.joined (i := i) (by rwa [List.length_map])
  rwa [List.getElem_map, List.getElem_map] at hget

/-- Joined nodes stand in the order in which they stood. -/
theorem Steady.sublist (h : g.Steady base columns) {i : Nat} (hi : i < columns.length)
    (hi' : i < base.length) {u v : V} (hu : g.isJoined u = true) (hv : g.isJoined v = true)
    (huv : [u, v].Sublist columns[i]) : [u, v].Sublist base[i] := by
  have hfilter := huv.filter g.isJoined
  rw [h.filter_getElem hi hi', List.filter_cons_of_pos hu, List.filter_cons_of_pos hv,
    List.filter_nil] at hfilter
  exact hfilter.trans List.filter_sublist

theorem Steady.clean (h : g.Steady base columns) (hbase : g.Clean base) : g.Clean columns := by
  refine List.isChain_iff_getElem.2 fun i hi e he f hf hcross => ?_
  have hi' : i + 1 < base.length := h.length_eq ▸ hi
  have he' : g.Edge e.1 e.2 := he
  have hf' : g.Edge f.1 f.2 := hf
  refine hbase.not_cross hi' he' hf' ⟨?_, ?_⟩
  · exact h.sublist (Nat.lt_of_succ_lt hi) (Nat.lt_of_succ_lt hi') he'.isJoined.1 hf'.isJoined.1
      hcross.1
  · exact h.sublist hi hi' hf'.isJoined.2 he'.isJoined.2 hcross.2

/-- Behind the first column every node is joined, so nothing has moved there. -/
theorem Steady.getElem_succ (h : g.Steady base columns) (hg : g.Acyclic)
    (hbase : Reordered g.columns base) {i : Nat} (hi : i + 1 < columns.length)
    (hi' : i + 1 < base.length) : columns[i + 1] = base[i + 1] := by
  have hcolumns : ∀ v ∈ columns[i + 1], g.isJoined v = true := fun v hv =>
    isJoined_iff.2 (.inl (hg.previous_ne_nil (hbase.trans h.reordered) hi hv))
  have hbases : ∀ v ∈ base[i + 1], g.isJoined v = true := fun v hv =>
    isJoined_iff.2 (.inl (hg.previous_ne_nil hbase hi' hv))
  have hfilter := h.filter_getElem hi hi'
  rwa [List.filter_eq_self.2 hcolumns, List.filter_eq_self.2 hbases] at hfilter

/-- Sorting one column moves lone nodes only, if its joined nodes are sorted in the order in which
they stand. -/
theorem Steady.sortAt (h : g.Steady base columns) (hnodup : columns.flatten.Nodup)
    {neighbours : V → List V} {i : Nat} (hi : i < columns.length)
    (hkeys : ∀ u v, g.isJoined u = true → g.isJoined v = true → [u, v].Sublist columns[i] →
      sortKey columns neighbours columns[i] u ≤ sortKey columns neighbours columns[i] v) :
    g.Steady base (sortAt neighbours columns i) where
  reordered := h.reordered.trans (sortAt_reordered neighbours columns i)
  joined := by
    rw [← h.joined]
    have hcolumn : columns[i].Nodup := (List.nodup_flatten.1 hnodup).1 _ (List.getElem_mem hi)
    have hpairwise : (columns[i].filter g.isJoined).Pairwise fun u v =>
        sortKey columns neighbours columns[i] u ≤ sortKey columns neighbours columns[i] v := by
      refine List.pairwise_iff_forall_sublist.2 fun {u v} huv => ?_
      have hu := (List.mem_filter.1 (huv.mem (.head _))).2
      have hv := (List.mem_filter.1 (huv.mem (.tail _ (.head _)))).2
      exact hkeys u v hu hv (huv.trans List.filter_sublist)
    rw [Digraph.sortAt]
    refine List.ext_getElem (by simp) fun j _ _ => ?_
    rw [List.getElem_map, List.getElem_map, List.getElem_modify]
    by_cases hij : i = j
    · subst hij
      rw [if_pos rfl, filter_sortColumn hcolumn hpairwise]
    · rw [if_neg hij]

/-! ### Sweeps -/

/-- Two joined nodes are sorted by the nodes behind them in the order in which they stand, if the
dead ends are in line. -/
theorem Steady.sortKey_next_le (h : g.Steady base columns) (hg : g.Acyclic) (hproper : g.Proper)
    (hbase : Reordered g.columns base) (hclean : g.Clean base) (hline : g.InLine base) {i : Nat}
    (hi : i + 1 < columns.length) {u v : V} (hu : g.isJoined u = true) (hv : g.isJoined v = true)
    (huv : [u, v].Sublist columns[i]) :
    sortKey columns g.next columns[i] u ≤ sortKey columns g.next columns[i] v := by
  have hcolumns : Reordered g.columns columns := hbase.trans h.reordered
  have hui : u ∈ columns[i] := huv.mem (.head _)
  have hvi : v ∈ columns[i] := huv.mem (.tail _ (.head _))
  have hdead {w : V} (hw : g.isJoined w = true) (hnext : g.next w = []) : g.DeadEnd w :=
    ⟨(isJoined_iff.1 hw).resolve_right fun hne => hne hnext, hnext⟩
  -- a dead end does not stand in the first column, and nothing has moved in the later ones
  have hline' {w : V} (hw : w ∈ columns[i]) (hend : g.DeadEnd w) :
      (g.DeadEnd u → g.next v ≠ [] → columns[i].idxOf u ≤ g.aim columns[i + 1] v) ∧
        (g.next u ≠ [] → g.DeadEnd v → g.aim columns[i + 1] u ≤ columns[i].idxOf v) := by
    obtain ⟨j, rfl⟩ := Nat.exists_eq_succ_of_ne_zero
      (hproper.ne_zero_of_mem hcolumns (Nat.lt_of_succ_lt hi) hw hend.1)
    have hi' : j + 1 + 1 < base.length := h.length_eq ▸ hi
    have hsame : columns[j + 1] = base[j + 1] :=
      h.getElem_succ hg hbase (Nat.lt_of_succ_lt hi) (Nat.lt_of_succ_lt hi')
    rw [h.getElem_succ hg hbase hi hi', hsame]
    have hpairs := List.isChain_iff_getElem.1 hline (j + 1) hi'
    exact List.pairwise_iff_forall_sublist.1 hpairs (hsame ▸ huv)
  by_cases hnu : g.next u = []
  · have hends := hdead hu hnu
    by_cases hnv : g.next v = []
    · have hcolumn : columns[i].Nodup :=
        (List.nodup_flatten.1 hcolumns.nodup).1 _ (List.getElem_mem _)
      rw [sortKey_of_nil hnu, sortKey_of_nil hnv]
      exact_mod_cast (idxOf_lt_of_sublist hcolumn huv).le
    · rw [sortKey_of_nil hnu, sortKey_next hproper hcolumns hi hvi hnv]
      exact (hline' hui hends).1 hends hnv
  · by_cases hnv : g.next v = []
    · have hends := hdead hv hnv
      rw [sortKey_next hproper hcolumns hi hui hnu, sortKey_of_nil hnv]
      exact (hline' hvi hends).2 hnu hends
    · exact (h.clean hclean).sortKey_next_le hproper hcolumns hi huv hnu hnv

/-- A sweep moves lone nodes only, a sweep backwards if the dead ends are in line. -/
theorem Steady.sweep (h : g.Steady base columns) (hg : g.Acyclic) (hproper : g.Proper)
    (hbase : Reordered g.columns base) (hclean : g.Clean base) {forwards : Bool}
    (hline : forwards = false → g.InLine base) : g.Steady base (g.sweep forwards columns) := by
  cases forwards with
  | true =>
    refine List.foldlRecOn (motive := g.Steady base) _ _ h fun columns' h' i hi => ?_
    obtain ⟨hpos, hlt⟩ := List.mem_range'_1.1 hi
    obtain ⟨j, rfl⟩ := Nat.exists_eq_succ_of_ne_zero (Nat.ne_of_gt hpos)
    have hj : j + 1 < columns'.length := by
      rw [h'.length_eq, ← h.length_eq]
      omega
    have hcolumns := hbase.trans h'.reordered
    exact h'.sortAt hcolumns.nodup hj fun u v _ _ huv =>
      (h'.clean hclean).sortKey_previous_le hg hproper hcolumns hj huv
  | false =>
    refine List.foldlRecOn (motive := g.Steady base) _ _ h fun columns' h' i hi => ?_
    have hlt := List.mem_range.1 (List.mem_reverse.1 hi)
    have hi' : i + 1 < columns'.length := by
      rw [h'.length_eq, ← h.length_eq]
      omega
    have hcolumns := hbase.trans h'.reordered
    exact h'.sortAt hcolumns.nodup (Nat.lt_of_succ_lt hi') fun u v hu hv huv =>
      h'.sortKey_next_le hg hproper hbase hclean (hline rfl) hi' hu hv huv

/-- Any number of sweeps moves lone nodes only, more than one if the dead ends are in line. -/
theorem Steady.ordered (hg : g.Acyclic) (hproper : g.Proper) (hbase : Reordered g.columns base)
    (hclean : g.Clean base) {sweeps : Nat} (hline : 1 < sweeps → g.InLine base) :
    g.Steady base (g.ordered sweeps base) := by
  refine List.foldlRecOn (motive := g.Steady base) _ _ (.refl g base) fun columns' h' s hs => ?_
  refine h'.sweep hg hproper hbase hclean fun hbackwards => hline ?_
  -- the first sweep goes forwards
  have hlt := List.mem_range.1 hs
  have hodd := of_decide_eq_false hbackwards
  omega

end Digraph

namespace Layered

/-- **Sweeps keep a clean drawing**: where every edge that is kept leads to the next rank, no edges
cross in the end if none cross in the beginning and, should there be more than one sweep, the dead
ends are in line. -/
theorem orderedColumns_clean {V α : Type} [DecidableEq V] {g : FlowGraph V α} {sweeps : Int}
    (hproper : g.digraph.acyclic.Proper)
    (hline : 1 < sweeps → g.digraph.acyclic.InLine g.digraph.acyclic.columns)
    (hclean : g.digraph.acyclic.Clean g.digraph.acyclic.columns) :
    g.digraph.acyclic.Clean (orderedColumns sweeps g.digraph.acyclic) := by
  have hsteady : g.digraph.acyclic.Steady g.digraph.acyclic.columns
      (orderedColumns sweeps g.digraph.acyclic) :=
    .ordered g.digraph.acyclic_acyclic hproper (.refl _) hclean fun hlt => hline (by omega)
  exact hsteady.clean hclean

/-- A dead end in the middle of its column, a lone node, a loop, and an edge that closes a cycle. -/
def siding : FlowGraph Nat Rat where
  nodes := [(0, ⟨140, 60⟩), (1, ⟨140, 60⟩), (2, ⟨60, 60⟩), (3, ⟨140, 60⟩), (4, ⟨50, 50⟩),
    (5, ⟨140, 60⟩), (6, ⟨50, 50⟩), (7, ⟨50, 50⟩)]
  edges := [(0, 3), (2, 4), (2, 5), (4, 4), (3, 6), (5, 7), (7, 2)]
  nodup_ids := by decide

theorem orderedColumns_clean_siding :
    siding.digraph.acyclic.Proper ∧
      ((1 : Int) < 4 → siding.digraph.acyclic.InLine siding.digraph.acyclic.columns) ∧
      siding.digraph.acyclic.Clean siding.digraph.acyclic.columns ∧
      siding.digraph.acyclic.Clean (orderedColumns 4 siding.digraph.acyclic) := by
  have hproper : siding.digraph.acyclic.Proper := by decide +kernel
  have hline : siding.digraph.acyclic.InLine siding.digraph.acyclic.columns := by decide +kernel
  have hclean : siding.digraph.acyclic.Clean siding.digraph.acyclic.columns := by decide +kernel
  exact ⟨hproper, fun _ => hline, hclean, orderedColumns_clean hproper (fun _ => hline) hclean⟩

/-- Two starts: the second is led on from at the end of the next column, behind two dead ends of
the first. -/
def straggler : FlowGraph Nat Rat where
  nodes := [(0, ⟨140, 60⟩), (1, ⟨140, 60⟩), (2, ⟨140, 60⟩), (3, ⟨140, 60⟩), (4, ⟨140, 60⟩),
    (5, ⟨140, 60⟩)]
  edges := [(0, 2), (0, 3), (1, 4), (4, 5)]
  nodup_ids := by decide

/-- Sweeps spoil a clean drawing in which a dead end is out of line: node 4 is sorted by the place
of node 5, and so before the dead end 3, which is sorted by its own place. -/
theorem orderedColumns_straggler :
    straggler.digraph.acyclic.Proper ∧
      straggler.digraph.acyclic.Clean straggler.digraph.acyclic.columns ∧
      ¬ straggler.digraph.acyclic.Clean
        (orderedColumns (Config.standard : Config Rat).sweeps straggler.digraph.acyclic) := by
  have hordered : orderedColumns (Config.standard : Config Rat).sweeps straggler.digraph.acyclic =
      [[0, 1], [2, 4, 3], [5]] := by cbv
  rw [hordered]
  exact ⟨by decide +kernel, by decide +kernel, by decide +kernel⟩

end Layered

end Swimlane
