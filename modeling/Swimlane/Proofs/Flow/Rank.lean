import Mathlib.Data.List.Nodup
import Mathlib.Data.List.Perm.Basic
import Mathlib.Order.WellFounded
import Swimlane.Flow.Column
import Swimlane.Proofs.Flow.Walk

/-!
# Ranks

The rounds in which the nodes are peeled off, seen through an invariant of the queue: it lists some
nodes of the graph, each with those of them that edges reach it from.

- `Digraph.Awaits`: the invariant; `Digraph.queue_awaits`, `Digraph.Awaits.waiting`.
- `Digraph.columns_flatten_perm`: every node is peeled off in exactly one round.
- `Digraph.Acyclic.rank_lt_rank`: along an edge, the rank grows.
-/

namespace Swimlane.Digraph

open Relation

variable {V : Type} [DecidableEq V] {g : Digraph V}

/-- The nodes of a queue. -/
def Queue.nodes (queue : Queue V) : List V := queue.map (·.1)

/-- No node is queued twice, and each waits for the nodes of the queue that edges reach it from. -/
structure Awaits (g : Digraph V) (queue : Queue V) : Prop where
  nodup : queue.nodes.Nodup
  awaited : ∀ p ∈ queue, ∀ u, u ∈ p.2 ↔ g.Edge u p.1 ∧ u ∈ queue.nodes

theorem queue_nodes (g : Digraph V) : g.queue.nodes = g.nodes := by
  simp [Queue.nodes, queue, Function.comp_def]

theorem queue_awaits (g : Digraph V) : g.Awaits g.queue where
  nodup := by
    rw [queue_nodes]
    exact g.nodup_nodes
  awaited := by
    intro p hp u
    obtain ⟨v, -, rfl⟩ := List.mem_map.1 hp
    rw [queue_nodes, List.mem_filter, mem_previous, decide_eq_true_eq]
    rfl

/-! ### One round -/

theorem nodes_waiting (gone : List V) (queue : Queue V) :
    (waiting gone queue).nodes = (queue.filter (!·.2.isEmpty)).map (·.1) := by
  simp [waiting, Queue.nodes, Function.comp_def]

/-- A round takes the ready nodes and leaves the others. -/
theorem ready_append_waiting_perm (queue : Queue V) (gone : List V) :
    (ready queue ++ (waiting gone queue).nodes).Perm queue.nodes := by
  rw [ready, nodes_waiting, ← List.map_append]
  exact (List.filter_append_perm _ queue).map _

omit [DecidableEq V] in
/-- The ready nodes are those that no edge reaches from a node of the queue. -/
theorem Awaits.mem_ready {queue : Queue V} (h : g.Awaits queue) {v : V} :
    v ∈ ready queue ↔ v ∈ queue.nodes ∧ ∀ u ∈ queue.nodes, ¬ g.Edge u v := by
  constructor
  · intro hv
    obtain ⟨p, hp, rfl⟩ := List.mem_map.1 hv
    obtain ⟨hp, hempty⟩ := List.mem_filter.1 hp
    refine ⟨List.mem_map_of_mem hp, fun u hu hedge => ?_⟩
    have hmem : u ∈ p.2 := (h.awaited p hp u).2 ⟨hedge, hu⟩
    rw [List.isEmpty_iff.1 hempty] at hmem
    cases hmem
  · rintro ⟨hv, hnone⟩
    obtain ⟨p, hp, rfl⟩ := List.mem_map.1 hv
    refine List.mem_map_of_mem (List.mem_filter.2 ⟨hp, List.isEmpty_iff.2 ?_⟩)
    refine List.eq_nil_iff_forall_not_mem.2 fun u hu => ?_
    obtain ⟨hedge, hmem⟩ := (h.awaited p hp u).1 hu
    exact hnone u hmem hedge

theorem mem_nodes_waiting {queue : Queue V} (hnodup : queue.nodes.Nodup) (gone : List V) {v : V} :
    v ∈ (waiting gone queue).nodes ↔ v ∈ queue.nodes ∧ v ∉ ready queue := by
  have hperm := ready_append_waiting_perm queue gone
  have hdisjoint := (List.nodup_append.1 (hperm.nodup_iff.2 hnodup)).2.2
  rw [← hperm.mem_iff, List.mem_append]
  constructor
  · exact fun hv => ⟨.inr hv, fun hr => hdisjoint v hr v hv rfl⟩
  · rintro ⟨hv | hv, hr⟩
    · exact absurd hv hr
    · exact hv

/-- A round keeps the invariant. -/
theorem Awaits.waiting {queue : Queue V} (h : g.Awaits queue) :
    g.Awaits (waiting (ready queue) queue) where
  nodup := (List.nodup_append.1
    ((ready_append_waiting_perm queue (ready queue)).nodup_iff.2 h.nodup)).2.1
  awaited := by
    intro p hp u
    obtain ⟨⟨v, before⟩, hv, rfl⟩ := List.mem_map.1 hp
    have hbefore := h.awaited _ (List.mem_filter.1 hv).1 u
    rw [List.mem_filter, hbefore, mem_nodes_waiting h.nodup, decide_eq_true_eq, and_assoc]

omit [DecidableEq V] in
/-- Without cycles, some node of the queue is ready. -/
theorem Awaits.ready_ne_nil {queue : Queue V} (h : g.Awaits queue) (hg : g.Acyclic)
    (hne : queue ≠ []) : ready queue ≠ [] := by
  obtain ⟨p, rest, rfl⟩ := List.exists_cons_of_ne_nil hne
  -- a node of the queue that no walk along the queue leads to
  obtain ⟨v, hv, hmin⟩ := hg.wellFounded.has_min {v | v ∈ Queue.nodes (p :: rest)} ⟨p.1, .head _⟩
  exact List.ne_nil_of_mem (h.mem_ready.2 ⟨hv, hmin⟩)

theorem Awaits.columnsOf_eq {queue : Queue V} (h : g.Awaits queue) (hg : g.Acyclic)
    (hne : queue ≠ []) :
    columnsOf queue = ready queue :: columnsOf (Digraph.waiting (ready queue) queue) := by
  rw [columnsOf, if_neg hne, dif_neg (h.ready_ne_nil hg hne)]

/-! ### All rounds -/

/-- Every node of a queue is peeled off in exactly one round. -/
theorem columnsOf_flatten_perm (queue : Queue V) : (columnsOf queue).flatten.Perm queue.nodes := by
  induction queue using columnsOf.induct with
  | case1 => rw [columnsOf]; exact .nil
  | case2 queue hne hready =>
    -- on a cycle nothing is ready, and all that is left makes one column
    rw [columnsOf, if_neg hne, dif_pos hready]
    simp [Queue.nodes]
  | case3 queue hne hready ih =>
    rw [columnsOf, if_neg hne, dif_neg hready, List.flatten_cons]
    exact (ih.append_left _).trans (ready_append_waiting_perm queue _)

/-- Every node is peeled off in exactly one round. -/
theorem columns_flatten_perm (g : Digraph V) : g.columns.flatten.Perm g.nodes := by
  rw [← queue_nodes]
  exact columnsOf_flatten_perm g.queue

/-- Along an edge between nodes of a queue, the round grows. -/
theorem Awaits.findIdx_lt {queue : Queue V} (h : g.Awaits queue) (hg : g.Acyclic) {u v : V}
    (hedge : g.Edge u v) (hu : u ∈ queue.nodes) (hv : v ∈ queue.nodes) :
    (columnsOf queue).findIdx (u ∈ ·) < (columnsOf queue).findIdx (v ∈ ·) := by
  induction queue using columnsOf.induct with
  | case1 => cases hu
  | case2 queue hne hready => exact absurd hready (h.ready_ne_nil hg hne)
  | case3 queue hne hready ih =>
    have hv' : v ∉ ready queue := fun hr => (h.mem_ready.1 hr).2 u hu hedge
    rw [h.columnsOf_eq hg hne, List.findIdx_cons, List.findIdx_cons, decide_eq_false hv', cond_false]
    -- the end of the edge waits for its start, which goes now or waits as well
    by_cases hu' : u ∈ ready queue
    · rw [decide_eq_true hu', cond_true]
      exact Nat.succ_pos _
    · rw [decide_eq_false hu', cond_false]
      exact Nat.succ_lt_succ (ih h.waiting ((mem_nodes_waiting h.nodup _).2 ⟨hu, hu'⟩)
        ((mem_nodes_waiting h.nodup _).2 ⟨hv, hv'⟩))

/-- Along an edge, the rank grows. -/
theorem Acyclic.rank_lt_rank (hg : g.Acyclic) {u v : V} (hedge : g.Edge u v) :
    g.rank u < g.rank v := by
  refine g.queue_awaits.findIdx_lt hg hedge ?_ ?_
  · rw [queue_nodes]
    exact hedge.source_mem
  · rw [queue_nodes]
    exact hedge.target_mem

/-- Along a walk of one edge or more, the rank grows. -/
theorem Acyclic.rank_lt_of_transGen (hg : g.Acyclic) {u v : V} (h : TransGen g.Edge u v) :
    g.rank u < g.rank v := by
  induction h with
  | single hedge => exact hg.rank_lt_rank hedge
  | tail _ hedge ih => exact ih.trans (hg.rank_lt_rank hedge)

/-! ### Ranks and columns -/

/-- Every node is in the column of its rank. -/
theorem mem_column_rank {v : V} (hv : v ∈ g.nodes) :
    ∃ h : g.rank v < g.columns.length, v ∈ g.columns[g.rank v] := by
  obtain ⟨column, hcolumn, hmem⟩ :=
    List.mem_flatten.1 (g.columns_flatten_perm.mem_iff.2 hv)
  have hlt : g.columns.findIdx (v ∈ ·) < g.columns.length :=
    List.findIdx_lt_length_of_exists ⟨column, hcolumn, decide_eq_true hmem⟩
  have hfound := List.findIdx_getElem (w := hlt)
  exact ⟨hlt, of_decide_eq_true hfound⟩

/-- A node is in no other column than that of its rank. -/
theorem rank_eq_of_mem {v : V} {i : Nat} (hi : i < g.columns.length) (hv : v ∈ g.columns[i]) :
    g.rank v = i := by
  have hnodup : g.columns.flatten.Nodup := g.columns_flatten_perm.nodup_iff.2 g.nodup_nodes
  obtain ⟨hrank, hmem⟩ := mem_column_rank (g := g)
    (g.columns_flatten_perm.mem_iff.1 (List.mem_flatten_of_mem (List.getElem_mem hi) hv))
  have hdisjoint := List.pairwise_iff_getElem.1 (List.nodup_flatten.1 hnodup).2
  rcases Nat.lt_trichotomy (g.rank v) i with hlt | heq | hgt
  · exact absurd hv (hdisjoint _ _ hrank hi hlt hmem)
  · exact heq
  · exact absurd hmem (hdisjoint _ _ hi hrank hgt hv)

end Swimlane.Digraph
