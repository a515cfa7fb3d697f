import Mathlib.Data.List.Forall2
import Mathlib.Data.List.Perm.Basic
import Mathlib.Logic.Relation
import Swimlane.Flow.Layered
import Swimlane.Proofs.Flow.Breaking

/-!
# How the edges of a graph are listed

The placement sees a list of edges as the links that it draws: the edges between two different nodes
of the graph, each at the place of its first occurrence. What is no link, and what is a link that
was drawn before, moves nothing. Where the links form no cycle, nothing is cut, and then every stage
looks at the neighbours of a node as a whole, so that the order of the list is of no account either.

- `FlowGraph.links`, `FlowGraph.edges_withoutLoops`: the links of a list of edges.
- `FlowGraph.Padding`: one edge more in a list, which draws no new link.
- `Layered.solve_padded`: such edges move nothing.
- `Digraph.Relisted`: the same graph, with its edges in another order.
- `Digraph.Relisted.columns_eq`, `Digraph.Relisted.ordered_eq`: its columns, before and after the
  sweeps.
- `Layered.solve_relisted`: without cycles, the order of the edges moves nothing.
-/

namespace Swimlane

open Relation

variable {V α : Type} [DecidableEq V]

/-! ### Links -/

namespace FlowGraph

/-- The graph with other edges. -/
def withEdges (g : FlowGraph V α) (edges : List (V × V)) : FlowGraph V α :=
  { g with edges := edges }

/-- Whether an edge joins two different nodes of the graph. -/
def isLink (g : FlowGraph V α) (e : V × V) : Bool := (e.1 ∈ g.ids ∧ e.2 ∈ g.ids) ∧ e.1 ≠ e.2

/-- The edges of a list that join two different nodes of the graph, each at the place of its first
occurrence. -/
def links (g : FlowGraph V α) (edges : List (V × V)) : List (V × V) :=
  distinct (edges.filter g.isLink)

theorem mem_links {g : FlowGraph V α} {edges : List (V × V)} {e : V × V} :
    e ∈ g.links edges ↔ e ∈ edges ∧ g.isLink e = true := by
  rw [links, mem_distinct, List.mem_filter]

/-- The graph without its loops is made of the links. -/
theorem edges_withoutLoops (g : FlowGraph V α) :
    g.digraph.withoutLoops.edges = g.links g.edges := by
  show (distinct (g.edges.filter _)).filter _ = distinct (g.edges.filter g.isLink)
  rw [filter_distinct, List.filter_filter]
  congr 2
  funext e
  rw [isLink, Bool.decide_and, Bool.decide_and, Bool.decide_and, Bool.and_comm]

/-- One edge more in a list of edges, which draws no new link. -/
inductive Padding (g : FlowGraph V α) : List (V × V) → List (V × V) → Prop where
  /-- An edge that leads back to its own start is put anywhere. -/
  | loop (front : List (V × V)) (v : V) (back : List (V × V)) :
      Padding g (front ++ back) (front ++ (v, v) :: back)
  /-- An edge with an unknown end is put anywhere. -/
  | unknown (front : List (V × V)) {e : V × V} (ends : e.1 ∉ g.ids ∨ e.2 ∉ g.ids)
      (back : List (V × V)) : Padding g (front ++ back) (front ++ e :: back)
  /-- A copy of an edge is put anywhere behind that edge. -/
  | copy {front : List (V × V)} {e : V × V} (earlier : e ∈ front) (back : List (V × V)) :
      Padding g (front ++ back) (front ++ e :: back)

/-- What is no link may be left out. -/
theorem links_append_cons_of_not {g : FlowGraph V α} {e : V × V} (h : g.isLink e = false)
    (front back : List (V × V)) : g.links (front ++ e :: back) = g.links (front ++ back) := by
  rw [links, links, List.filter_append, List.filter_append, List.filter_cons_of_neg (by simp [h])]

theorem Padding.links_eq {g : FlowGraph V α} {edges edges' : List (V × V)}
    (h : g.Padding edges edges') : g.links edges' = g.links edges := by
  cases h with
  | loop front v back =>
    refine links_append_cons_of_not (decide_eq_false fun hlink => ?_) front back
    exact hlink.2 rfl
  | unknown front ends back =>
    refine links_append_cons_of_not (decide_eq_false fun hlink => ?_) front back
    exact ends.elim (· hlink.1.1) (· hlink.1.2)
  | @copy front e earlier back =>
    cases he : g.isLink e with
    | true =>
      have hearlier : e ∈ front.filter g.isLink := List.mem_filter.2 ⟨earlier, he⟩
      rw [links, List.filter_append, List.filter_cons_of_pos he,
        distinct_append_cons_of_mem hearlier, ← List.filter_append, links]
    | false => exact links_append_cons_of_not he front back

end FlowGraph

/-! ### The same edges in another order -/

namespace Digraph

/-- Two queues of the same nodes, each of which waits for the same ones. -/
def Queue.Alike (queue queue' : Queue V) : Prop :=
  List.Forall₂ (fun p q => p.1 = q.1 ∧ p.2.Perm q.2) queue queue'

section

variable {queue queue' : Queue V}

omit [DecidableEq V]

theorem Queue.Alike.map_fst_eq (h : queue.Alike queue') :
    queue.map (·.1) = queue'.map (·.1) := by
  induction h with
  | nil => rfl
  | cons hp _ ih => rw [List.map_cons, List.map_cons, hp.1, ih]

theorem Queue.Alike.filter (h : queue.Alike queue') {p : List V → Bool}
    (hp : ∀ us vs, us.Perm vs → p us = p vs) :
    Queue.Alike (queue.filter (p ·.2)) (queue'.filter (p ·.2)) := by
  induction h with
  | nil => exact .nil
  | @cons a b _ _ hab _ ih =>
    have hsame := hp a.2 b.2 hab.2
    cases hb : p b.2 with
    | true =>
      rw [List.filter_cons, if_pos (hsame.trans hb), List.filter_cons, if_pos hb]
      exact .cons hab ih
    | false =>
      rw [List.filter_cons, if_neg (by simp [hsame, hb]), List.filter_cons, if_neg (by simp [hb])]
      exact ih

theorem Queue.Alike.ready_eq (h : queue.Alike queue') : ready queue = ready queue' :=
  (h.filter fun _ _ hperm => hperm.isEmpty_eq).map_fst_eq

end

theorem Queue.Alike.waiting {queue queue' : Queue V} (h : queue.Alike queue') (gone : List V) :
    (Digraph.waiting gone queue).Alike (Digraph.waiting gone queue') := by
  refine List.forall₂_map_left_iff.2 (List.forall₂_map_right_iff.2 ?_)
  refine (h.filter fun _ _ hperm => congrArg (!·) hperm.isEmpty_eq).imp ?_
  exact fun p q hpq => ⟨hpq.1, hpq.2.filter _⟩

/-- Queues that are alike are peeled off in the same rounds. -/
theorem Queue.Alike.columnsOf_eq {queue queue' : Queue V} (h : queue.Alike queue') :
    columnsOf queue = columnsOf queue' := by
  -- round by round of the first queue; what is left of both is alike again
  induction queue using columnsOf.induct generalizing queue' with
  | case1 =>
    obtain rfl : queue' = [] := List.forall₂_nil_left_iff.1 h
    rfl
  | case2 queue hne hready =>
    have hne' : queue' ≠ [] := fun hnil => hne (List.forall₂_nil_right_iff.1 (hnil ▸ h))
    have hready' := h.ready_eq.symm.trans hready
    rw [columnsOf, if_neg hne, dif_pos hready, columnsOf, if_neg hne', dif_pos hready',
      h.map_fst_eq]
  | case3 queue hne hready ih =>
    have hne' : queue' ≠ [] := fun hnil => hne (List.forall₂_nil_right_iff.1 (hnil ▸ h))
    have hready' : ready queue' ≠ [] := h.ready_eq ▸ hready
    conv_lhs => rw [columnsOf, if_neg hne, dif_neg hready, ih (h.waiting _)]
    conv_rhs => rw [columnsOf, if_neg hne', dif_neg hready', ← h.ready_eq]

/-- The same graph, with its edges in another order. -/
structure Relisted (g h : Digraph V) : Prop where
  nodes : g.nodes = h.nodes
  edges : g.edges.Perm h.edges

namespace Relisted

variable {g h : Digraph V}

theorem next_perm (hgh : g.Relisted h) (v : V) : (g.next v).Perm (h.next v) :=
  (hgh.edges.filter _).map _

theorem previous_perm (hgh : g.Relisted h) (v : V) : (g.previous v).Perm (h.previous v) :=
  (hgh.edges.filter _).map _

theorem queue_alike (hgh : g.Relisted h) : g.queue.Alike h.queue := by
  rw [queue, queue, hgh.nodes]
  refine List.forall₂_map_left_iff.2 (List.forall₂_map_right_iff.2 (List.forall₂_same.2 ?_))
  exact fun v _ => ⟨rfl, (hgh.previous_perm v).filter _⟩

theorem columns_eq (hgh : g.Relisted h) : g.columns = h.columns := hgh.queue_alike.columnsOf_eq

end Relisted

/-- A mean is that of the neighbours in any order. -/
theorem meanPosition_perm {us vs : List V} (h : us.Perm vs) (columns : List (List V)) (own : Nat) :
    meanPosition columns us own = meanPosition columns vs own := by
  have hnil : us = [] ↔ vs = [] := by
    rw [← List.length_eq_zero_iff, h.length_eq, List.length_eq_zero_iff]
  have hsum := (h.map (position columns)).sum_eq
  rw [List.sum_eq_foldl, List.sum_eq_foldl] at hsum
  simp only [meanPosition, hnil, hsum, h.length_eq]

/-- A column is sorted alike where every node has the same neighbours in any order. -/
theorem sortAt_eq_of_perm {neighbours neighbours' : V → List V}
    (h : ∀ v, (neighbours v).Perm (neighbours' v)) : sortAt neighbours = sortAt neighbours' := by
  funext columns i
  have hsort : sortColumn columns neighbours = sortColumn columns neighbours' := by
    funext column
    simp only [sortColumn, meanPosition_perm (h _)]
  rw [sortAt, hsort, sortAt]

namespace Relisted

variable {g h : Digraph V}

theorem sweep_eq (hgh : g.Relisted h) : g.sweep = h.sweep := by
  funext forwards columns
  rw [sweep, sweep, sortAt_eq_of_perm hgh.previous_perm, sortAt_eq_of_perm hgh.next_perm]

/-- The sweeps bring the columns into the same order. -/
theorem ordered_eq (hgh : g.Relisted h) : g.ordered = h.ordered := by
  funext sweeps columns
  rw [ordered, hgh.sweep_eq, ordered]

end Relisted

end Digraph

namespace FlowGraph

variable {g : FlowGraph V α}

/-- An edge leads from one node of the graph to another one. -/
def Leads (g : FlowGraph V α) (u v : V) : Prop := (u, v) ∈ g.edges ∧ g.isLink (u, v) = true

theorem edge_withoutLoops_iff {u v : V} : g.digraph.withoutLoops.Edge u v ↔ g.Leads u v := by
  rw [Digraph.Edge, edges_withoutLoops, mem_links, Leads]

theorem withoutLoops_relisted {edges : List (V × V)} (h : edges.Perm g.edges) :
    (g.withEdges edges).digraph.withoutLoops.Relisted g.digraph.withoutLoops := by
  refine ⟨rfl, ?_⟩
  rw [edges_withoutLoops, edges_withoutLoops]
  refine (List.perm_ext_iff_of_nodup (nodup_distinct _) (nodup_distinct _)).2 fun e => ?_
  show e ∈ g.links edges ↔ e ∈ g.links g.edges
  rw [mem_links, mem_links, h.mem_iff]

end FlowGraph

/-! ### Placements -/

namespace Layered

variable [Scalar α]

/-- A graph with other edges is placed alike where its columns come to be the same. -/
theorem solve_withEdges {config : Config α} {g : FlowGraph V α} {edges : List (V × V)}
    (h : orderedColumns config.sweeps (g.withEdges edges).digraph.acyclic =
      orderedColumns config.sweeps g.digraph.acyclic) :
    solve config (g.withEdges edges) = solve config g := by
  rw [solve, h, solve]
  -- the sizes are those of the nodes, which are the same
  rfl

/-- **Redundant edges move nothing**: a list of edges is placed alike when loops and edges with
unknown ends are put anywhere into it, and copies of its edges anywhere behind them, and when such
edges are taken out of it. -/
theorem solve_padded (config : Config α) {g : FlowGraph V α} {edges : List (V × V)}
    (h : EqvGen g.Padding g.edges edges) : solve config (g.withEdges edges) = solve config g := by
  have hlinks : ∀ s t, EqvGen g.Padding s t → g.links s = g.links t := by
    intro s t hst
    induction hst with
    | rel s t hst => exact hst.links_eq.symm
    | refl s => rfl
    | symm s t _ ih => exact ih.symm
    | trans s t u _ _ ih ih' => exact ih.trans ih'
  have hloops : (g.withEdges edges).digraph.withoutLoops = g.digraph.withoutLoops := by
    refine Digraph.eq_of_edges_eq rfl ?_
    rw [FlowGraph.edges_withoutLoops, FlowGraph.edges_withoutLoops]
    exact (hlinks _ _ h).symm
  refine solve_withEdges ?_
  rw [Digraph.acyclic, hloops, Digraph.acyclic]

/-- Three nodes in a circle, with a short cut against it. -/
def shortcut : FlowGraph Nat Rat where
  nodes := [(0, ⟨50, 50⟩), (1, ⟨60, 70⟩), (2, ⟨140, 60⟩)]
  edges := [(0, 1), (1, 2), (2, 0), (0, 2)]
  nodup_ids := by decide

/-- Its edges with a loop, an unknown end and a copy put between them. -/
def shortcutPadded : List (Nat × Nat) := [(1, 1), (0, 1), (0, 7), (1, 2), (0, 1), (2, 0), (0, 2)]

theorem solve_padded_shortcut :
    EqvGen shortcut.Padding shortcut.edges shortcutPadded ∧
      solve .standard (shortcut.withEdges shortcutPadded) = solve .standard shortcut := by
  have hloop : shortcut.Padding shortcut.edges ((1, 1) :: shortcut.edges) := .loop [] 1 _
  have hunknown : shortcut.Padding ((1, 1) :: shortcut.edges)
      [(1, 1), (0, 1), (0, 7), (1, 2), (2, 0), (0, 2)] :=
    .unknown [(1, 1), (0, 1)] (.inr (by decide)) _
  have hearlier : ((0, 1) : Nat × Nat) ∈ [(1, 1), (0, 1), (0, 7), (1, 2)] := by decide
  have hcopy : shortcut.Padding [(1, 1), (0, 1), (0, 7), (1, 2), (2, 0), (0, 2)] shortcutPadded :=
    .copy hearlier _
  have hpadded := ((EqvGen.rel _ _ hloop).trans _ _ _ (.rel _ _ hunknown)).trans _ _ _
    (.rel _ _ hcopy)
  exact ⟨hpadded, solve_padded .standard hpadded⟩

/-- **The order of the edges moves nothing** where the edges between different nodes form no cycle:
such a graph is placed alike whatever order its edges are listed in. -/
theorem solve_relisted (config : Config α) {g : FlowGraph V α}
    (hacyclic : ∀ v, ¬ TransGen g.Leads v v) {edges : List (V × V)} (h : edges.Perm g.edges) :
    solve config (g.withEdges edges) = solve config g := by
  have hleads : (g.withEdges edges).Leads = g.Leads := by
    funext u v
    exact propext (and_congr_left' h.mem_iff)
  have hloops {f : FlowGraph V α} (hf : f.Leads = g.Leads) : f.digraph.withoutLoops.Acyclic := by
    intro v hcycle
    have hedge : f.digraph.withoutLoops.Edge = g.Leads := by
      funext u v
      rw [← hf]
      exact propext FlowGraph.edge_withoutLoops_iff
    exact hacyclic v (hedge ▸ hcycle)
  have hrelisted := FlowGraph.withoutLoops_relisted h
  refine solve_withEdges ?_
  rw [(hloops hleads).acyclic_eq_withoutLoops, (hloops rfl).acyclic_eq_withoutLoops, orderedColumns,
    hrelisted.columns_eq, hrelisted.ordered_eq, orderedColumns]

/-- Two ways from one node to another, with a loop, a repeated edge and an unknown end. -/
def fork : FlowGraph Nat Rat where
  nodes := [(0, ⟨50, 50⟩), (1, ⟨140, 60⟩), (2, ⟨60, 70⟩), (3, ⟨50, 50⟩)]
  edges := [(0, 1), (0, 2), (3, 3), (2, 3), (0, 1), (3, 9), (1, 3)]
  nodup_ids := by decide

theorem solve_relisted_fork :
    (∀ v, ¬ TransGen fork.Leads v v) ∧ fork.edges.reverse.Perm fork.edges ∧
      solve .standard (fork.withEdges fork.edges.reverse) = solve .standard fork := by
  have hrises : ∀ e ∈ fork.edges, fork.isLink e = true → e.1 < e.2 := by decide
  have hacyclic : ∀ v, ¬ TransGen fork.Leads v v := by
    intro v hcycle
    have hlt : TransGen (· < ·) v v :=
      TransGen.mono (fun u w huw => hrises (u, w) huw.1 huw.2) v v hcycle
    rw [transGen_eq_self] at hlt
    exact lt_irrefl v hlt
  have hperm : fork.edges.reverse.Perm fork.edges := List.reverse_perm _
  exact ⟨hacyclic, hperm, solve_relisted .standard hacyclic hperm⟩

end Layered

end Swimlane
