import Swimlane.Proofs.Flow.Direction
import Swimlane.Proofs.Flow.Longest
import Swimlane.Proofs.Flow.Pass

/-!
# The start of the flow

Where the first node leads to all others, it is placed left of them, whatever edges lead back to it.
One pass enters all other nodes below the first: an edge to the first node leads back to the path
and is cut, and the edge along which the pass enters another node is kept.

- `Digraph.Pass.mem_found_of_edge`: a pass finds every edge that leads back to its path.
- `Digraph.Pass.exists_entry`: every node that it enters has an edge that it does not find.
- `Digraph.exists_pass_below`: one pass enters all nodes below the first, if that leads to them.
- `Digraph.rank_acyclic_eq_zero_iff`: so no other node is in the first column.
- `Layered.solve_start`: and none is placed as far to the left.
-/

namespace Swimlane

open Relation

namespace Digraph

variable {V : Type} [DecidableEq V] {g : Digraph V}

section

variable {path seen seen' ws : List V} {found : List (V × V)}

/-! ### What a pass finds and what it does not -/

/-- A pass finds the edges from the end of its path to nodes of the path. -/
theorem Pass.mem_found_of_head? (h : g.Pass path seen ws seen' found) {v w : V}
    (hend : path.head? = some v) (hw : w ∈ ws) (hon : w ∈ path) : (v, w) ∈ found := by
  induction h with
  | done => cases hw
  | back _ _ ih =>
    obtain rfl := Option.some.inj hend
    rcases List.mem_cons.1 hw with rfl | hw
    · exact .head _
    · exact .tail _ (ih hend hw hon)
  | known off _ _ ih =>
    rcases List.mem_cons.1 hw with rfl | hw
    · exact absurd hon off
    · exact ih hend hw hon
  | fresh off _ _ _ _ ih =>
    rcases List.mem_cons.1 hw with rfl | hw
    · exact absurd hon off
    · exact List.mem_append_right _ (ih hend hw hon)

/-- A pass finds every edge that leads from a node that it enters to a node of its path. -/
theorem Pass.mem_found_of_edge (h : g.Pass path seen ws seen' found) {v w : V} (hv : v ∈ seen')
    (hnew : v ∉ seen) (hedge : g.Edge v w) (hon : w ∈ path) : (v, w) ∈ found := by
  induction h with
  | done => exact absurd hv hnew
  | back _ _ ih => exact .tail _ (ih hv hnew hon)
  | known _ _ _ ih => exact ih hv hnew hon
  | @fresh u _ _ seen₁ _ _ _ _ _ _ below _ ihbelow ih =>
    by_cases hold : v ∈ seen₁
    · refine List.mem_append_left _ ?_
      rcases eq_or_ne v u with rfl | hne
      · exact below.mem_found_of_head? rfl (mem_next.2 hedge) (.tail _ hon)
      · exact ihbelow hold (fun hm => (List.mem_cons.1 hm).elim hne hnew) (.tail _ hon)
    · exact List.mem_append_right _ (ih hv hold hon)

/-- A pass enters a node along an edge that it does not find: from the end of its path, or from
another node that it enters. -/
theorem Pass.exists_entry (h : g.Pass path seen ws seen' found) (hpath : path ⊆ seen) {w : V}
    (hw : w ∈ seen') (hnew : w ∉ seen) :
    (w ∈ ws ∧ ∀ v, path.head? = some v → (v, w) ∉ found) ∨
      ∃ v ∈ seen', v ∉ seen ∧ g.Edge v w ∧ (v, w) ∉ found := by
  induction h with
  | done => exact absurd hw hnew
  | @back v u path seen _ ws _ on _ ih =>
    rcases ih hpath hw hnew with ⟨hws, hnot⟩ | ⟨x, hx, hxnew, hedge, hnot⟩
    · refine .inl ⟨.tail _ hws, fun x hx hmem => ?_⟩
      rcases List.mem_cons.1 hmem with heq | hmem
      · obtain ⟨-, rfl⟩ := Prod.mk.inj heq
        exact hnew (hpath on)
      · exact hnot x hx hmem
    · refine .inr ⟨x, hx, hxnew, hedge, fun hmem => ?_⟩
      rcases List.mem_cons.1 hmem with heq | hmem
      · obtain ⟨rfl, -⟩ := Prod.mk.inj heq
        exact hxnew (hpath (.head _))
      · exact hnot hmem
  | known _ _ _ ih =>
    exact (ih hpath hw hnew).imp_left fun ⟨hws, hnot⟩ => ⟨.tail _ hws, hnot⟩
  | @fresh u path seen seen₁ seen' ws found₁ found₂ off new below rest ihbelow ih =>
    have hsub := below.subset
    have hpath₁ : path ⊆ seen₁ := fun x hx => hsub (.tail _ (hpath hx))
    -- what starts at a node that is entered below is not found afterwards, and the other way round
    have hlater {x : V} (hx : x ∈ seen₁) (hoff : x ∉ path) : (x, w) ∉ found₂ :=
      rest.not_mem_found (.inl hx) (fun hend => hoff (List.mem_of_head? hend)) w
    have hbefore {x : V} (hx : x ∈ seen ∨ x ∉ seen₁) (hne : x ≠ u) : (x, w) ∉ found₁ :=
      below.not_mem_found (hx.imp_left (.tail _)) (fun hend => hne (Option.some.inj hend).symm) w
    by_cases hold : w ∈ seen₁
    · rcases eq_or_ne w u with rfl | hne
      · refine .inl ⟨.head _, fun v hend hmem => off ?_⟩
        exact (Pass.fresh off new below rest).mem_path_of_head? hpath hmem hend
      · rcases ihbelow (List.cons_subset_cons u hpath) hold
          (fun hm => (List.mem_cons.1 hm).elim hne hnew) with
          ⟨hws, hnot⟩ | ⟨x, hx, hxnew, hedge, hnot⟩
        · refine .inr ⟨u, rest.subset (hsub (.head _)), new, mem_next.1 hws, fun hmem => ?_⟩
          exact (List.mem_append.1 hmem).elim (hnot u rfl) (hlater (hsub (.head _)) off)
        · refine .inr ⟨x, rest.subset hx, fun hm => hxnew (.tail _ hm), hedge, fun hmem => ?_⟩
          exact (List.mem_append.1 hmem).elim hnot
            (hlater hx fun hm => hxnew (.tail _ (hpath hm)))
    · rcases ih hpath₁ hw hold with ⟨hws, hnot⟩ | ⟨x, hx, hxnew, hedge, hnot⟩
      · refine .inl ⟨.tail _ hws, fun v hend hmem => ?_⟩
        have hv : v ∈ path := List.mem_of_head? hend
        exact (List.mem_append.1 hmem).elim
          (hbefore (.inl (hpath hv)) fun h => off (h ▸ hv)) (hnot v hend)
      · refine .inr ⟨x, hx, fun hm => hxnew (hsub (.tail _ hm)), hedge, fun hmem => ?_⟩
        exact (List.mem_append.1 hmem).elim
          (hbefore (.inr hxnew) fun h => hxnew (h ▸ hsub (.head _))) hnot

end

/-! ### The first node -/

variable {start : V}

theorem reaches_withoutLoops {v w : V} (h : ReflTransGen g.Edge v w) :
    ReflTransGen g.withoutLoops.Edge v w := by
  induction h with
  | refl => exact .refl
  | @tail u w _ hedge ih =>
    by_cases hne : u = w
    · exact hne ▸ ih
    · exact ih.tail (mem_withoutLoops.2 ⟨hedge, hne⟩)

/-- Where the first node leads to all others, one pass enters them below it. -/
theorem exists_pass_below (hstart : g.nodes.head? = some start)
    (hreach : ∀ v ∈ g.nodes, ReflTransGen g.Edge start v) :
    ∃ seen, g.Pass [start] [start] (g.next start) seen g.cuts ∧ g.nodes ⊆ seen := by
  obtain ⟨seen', h⟩ := g.onePass_cuts
  obtain ⟨rest, hnodes⟩ := List.head?_eq_some_iff.1 hstart
  rw [hnodes] at h
  generalize hcuts : g.cuts = cuts at h
  cases h with
  | known _ old => cases old
  | @fresh _ _ _ seen _ _ found found' _ _ below later =>
    have hpath : [start] ⊆ [start] := fun _ hv => hv
    have hall : g.nodes ⊆ seen := by
      intro v hv
      induction hreach v hv with
      | refl => exact below.subset (.head _)
      | @tail u w _ hedge ih =>
        have hu : u ∈ seen := ih (Edge.source_mem hedge)
        by_cases h : u ∈ [start]
        · obtain rfl := List.mem_singleton.1 h
          exact below.mem_seen hpath (mem_next.2 hedge)
        · exact below.next_subset hpath hu h (mem_next.2 hedge)
    -- so nothing is left to be entered from another root
    have hlater : found' = [] := by
      refine List.eq_nil_iff_forall_not_mem.2 fun e he => ?_
      rcases later.mem_found he with ⟨hend, -, -⟩ | ⟨-, hnew, hedge⟩
      · cases hend
      · exact hnew (hall hedge.source_mem)
    rw [hlater, List.append_nil]
    exact ⟨seen, below, hall⟩

/-- Where the first node leads to all others, it is the only one in the first column. -/
theorem rank_acyclic_eq_zero_iff (hstart : g.nodes.head? = some start)
    (hreach : ∀ v ∈ g.nodes, ReflTransGen g.Edge start v) {v : V} (hv : v ∈ g.nodes) :
    g.acyclic.rank v = 0 ↔ v = start := by
  obtain ⟨seen, hpass, hall⟩ := exists_pass_below (g := g.withoutLoops) hstart fun v hv =>
    reaches_withoutLoops (hreach v hv)
  have hacyclic := g.acyclic_acyclic
  constructor
  · intro hrank
    by_contra hne
    have hnew : v ∉ [start] := fun h => hne (List.mem_singleton.1 h)
    -- the edge along which the pass enters the node is kept
    obtain ⟨u, hedge, hnot⟩ : ∃ u, g.withoutLoops.Edge u v ∧ (u, v) ∉ g.withoutLoops.cuts := by
      rcases hpass.exists_entry (fun _ h => h) (hall hv) hnew with ⟨hnext, hnot⟩ | ⟨u, -, -, h⟩
      · exact ⟨start, mem_next.1 hnext, hnot start rfl⟩
      · exact ⟨u, h⟩
    obtain ⟨he, hloop⟩ := mem_withoutLoops.1 hedge
    have hlt := hacyclic.rank_lt_rank (mem_acyclic.2 ⟨he, hloop, hnot⟩ : g.acyclic.Edge u v)
    omega
  · rintro rfl
    by_contra hrank
    obtain ⟨i, hi⟩ := Nat.exists_eq_succ_of_ne_zero hrank
    obtain ⟨u, hedge, -⟩ := hacyclic.exists_edge_of_rank (g.nodes_acyclic ▸ hv) hi
    -- an edge to the first node leads back to the path
    obtain ⟨he, hloop, hnot⟩ := mem_acyclic.1 hedge
    have hu : u ∈ g.nodes := (g.closed _ he).1
    exact hnot (hpass.mem_found_of_edge (hall hu) (fun h => hloop (List.mem_singleton.1 h))
      (mem_withoutLoops.2 ⟨he, hloop⟩) (.head _))

end Digraph

namespace Layered

variable {V : Type} [DecidableEq V] {config : Config Rat} {g : FlowGraph V Rat} {start : V}

/-- **The start stays leftmost**: where the first node leads to all others, it is the only one of
rank zero, and its centre is left of all others. -/
theorem solve_start (hstart : g.ids.head? = some start)
    (hreach : ∀ v ∈ g.ids, ReflTransGen g.digraph.Edge start v)
    (hwidth : ∀ n ∈ g.nodes, 0 < n.2.width) (hsep : 0 ≤ config.rankSep) :
    (∀ v ∈ g.ids, g.digraph.acyclic.rank v = 0 ↔ v = start) ∧
      ∃ a, (solve config g).lookup start = some a ∧
        ∀ v ∈ g.ids, v ≠ start → ∃ b, (solve config g).lookup v = some b ∧ a.x < b.x := by
  have hrank : ∀ v ∈ g.ids, g.digraph.acyclic.rank v = 0 ↔ v = start := fun v hv =>
    Digraph.rank_acyclic_eq_zero_iff hstart hreach hv
  have hmem : start ∈ g.ids := List.mem_of_head? hstart
  obtain ⟨hi, a, ha⟩ := exists_mem_solvedColumns config hmem
  have ha := lookup_solve_of_mem (List.getElem_mem hi) ha
  refine ⟨hrank, a, ha, fun v hv hne => ?_⟩
  have hlt : g.digraph.acyclic.rank start < g.digraph.acyclic.rank v := by
    rw [(hrank start hmem).2 rfl]
    exact Nat.pos_of_ne_zero fun h => hne ((hrank v hv).1 h)
  obtain ⟨a', b, ha', hb, hapart⟩ :=
    solve_apart (fun n hn => (hwidth n hn).le) hsep hmem hv hlt
  obtain rfl : a = a' := Option.some.inj (ha.symm.trans ha')
  have hwa := hwidth _ (mem_nodes_of_lookup_solve ha)
  have hwb := hwidth _ (mem_nodes_of_lookup_solve hb)
  refine ⟨b, hb, ?_⟩
  have hright : a.rightEdge = a.x + a.width / 2 := rfl
  simp only at hwa hwb
  linarith

/-- Work that is sent back to the start, or to a step in between, until it passes; with a loop, a
repeated edge, and one to an unknown node. -/
def rework : FlowGraph Nat Rat where
  nodes := [(0, ⟨50, 50⟩), (3, ⟨60, 60⟩), (1, ⟨140, 60⟩), (2, ⟨140, 60⟩)]
  edges := [(0, 1), (1, 2), (2, 0), (2, 1), (1, 1), (2, 3), (3, 0), (0, 1), (3, 9)]
  nodup_ids := by decide

theorem solve_start_rework :
    rework.ids.head? = some 0 ∧ (∀ v ∈ rework.ids, ReflTransGen rework.digraph.Edge 0 v) ∧
      (∀ n ∈ rework.nodes, 0 < n.2.width) ∧ (0 : Rat) ≤ (Config.standard : Config Rat).rankSep ∧
      (∀ v ∈ rework.ids, rework.digraph.acyclic.rank v = 0 ↔ v = 0) ∧
      ∃ a, (solve .standard rework).lookup 0 = some a ∧
        ∀ v ∈ rework.ids, v ≠ 0 → ∃ b, (solve .standard rework).lookup v = some b ∧ a.x < b.x := by
  have hone : ReflTransGen rework.digraph.Edge 0 1 := .single (FlowGraph.mem_digraph.2 (by decide))
  have htwo : ReflTransGen rework.digraph.Edge 0 2 :=
    hone.tail (FlowGraph.mem_digraph.2 (by decide))
  have hthree : ReflTransGen rework.digraph.Edge 0 3 :=
    htwo.tail (FlowGraph.mem_digraph.2 (by decide))
  have hreach : ∀ v ∈ rework.ids, ReflTransGen rework.digraph.Edge 0 v := by
    simpa [FlowGraph.ids, rework] using ⟨ReflTransGen.refl, hthree, hone, htwo⟩
  have hwidth : ∀ n ∈ rework.nodes, 0 < n.2.width := by decide
  have hsep : (0 : Rat) ≤ (Config.standard : Config Rat).rankSep := by decide
  exact ⟨rfl, hreach, hwidth, hsep, solve_start rfl hreach hwidth hsep⟩

end Layered

end Swimlane
