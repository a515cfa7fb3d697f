import Swimlane.Proofs.Flow.Trail

/-!
# Broken cycles

Cycles are broken in rounds, each of which searches from scratch. What the rounds cut is told by one
search: exactly the edges that lead back in it, since a cut does not change its course.

- `Digraph.cutCycles_eq_keep`: the rounds cut the edges that lead back.
- `Digraph.reaches_of_not_mem_acyclic`: what was cut is led around by what is left.
- `Digraph.BreaksCycles`: what is asked of the graph that is left; `Digraph.breaksCycles_acyclic`.
-/

namespace Swimlane.Digraph

open Relation

variable {V : Type} {g : Digraph V}

/-! ### Graphs with fewer edges -/

theorem eq_of_edges_eq {g h : Digraph V} (nodes : g.nodes = h.nodes) (edges : g.edges = h.edges) :
    g = h := by
  cases g
  cases h
  cases nodes
  cases edges
  rfl

theorem keep_keep (g : Digraph V) (p q : V × V → Bool) :
    (g.keep p).keep q = g.keep fun e => p e && q e :=
  eq_of_edges_eq rfl (by simp only [keep, List.filter_filter, Bool.and_comm])

theorem keep_congr {p q : V × V → Bool} (h : ∀ e ∈ g.edges, p e = q e) : g.keep p = g.keep q :=
  eq_of_edges_eq rfl (List.filter_congr h)

theorem keep_eq_self {p : V × V → Bool} (h : ∀ e ∈ g.edges, p e = true) : g.keep p = g :=
  eq_of_edges_eq rfl (List.filter_eq_self.2 h)

variable [DecidableEq V]

/-! ### Rounds -/

/-- One round cuts the closing edge that the search finds. -/
def Cut (g h : Digraph V) : Prop := ∃ e, g.closingEdge? = some e ∧ h = g.erase e

theorem cutCycles_of_none (h : g.closingEdge? = none) : g.cutCycles = g := by
  rw [cutCycles]
  split
  · rfl
  · next e he => rw [h] at he; cases he

theorem cutCycles_of_some {e : V × V} (h : g.closingEdge? = some e) :
    g.cutCycles = (g.erase e).cutCycles := by
  rw [cutCycles]
  split
  · next he => rw [h] at he; cases he
  · next e' he => rw [h] at he; cases he; rfl

/-- The rounds come to an end with a graph in which the search finds nothing. -/
theorem cut_cutCycles (g : Digraph V) :
    ReflTransGen Cut g g.cutCycles ∧ g.cutCycles.closingEdge? = none := by
  induction g using cutCycles.induct with
  | case1 g h =>
    rw [cutCycles_of_none h]
    exact ⟨.refl, h⟩
  | case2 g e h ih =>
    rw [cutCycles_of_some h]
    exact ⟨ih.1.head ⟨e, h, rfl⟩, ih.2⟩

/-! ### What is cut -/

/-- An edge that leads back closes a cycle. -/
theorem Acyclic.leadsBack_eq_false (hg : g.Acyclic) {e : V × V} (he : e ∈ g.edges) :
    g.leadsBack e = false := by
  rw [Bool.eq_false_iff]
  intro h
  obtain ⟨path, hpath, hback⟩ := leadsBack_iff.1 h
  have hkept : (g.keep fun e => !g.leadsBack e).Edge ≤ g.Edge := fun _ _ h => (mem_keep.1 h).1
  have hwalk := ReflTransGen.mono hkept _ _ (reaches_of_mem_trails hpath hback)
  exact hg e.1 (TransGen.head' he hwalk)

/-- Without cycles there is nothing to cut. -/
theorem Acyclic.keep_not_leadsBack (hg : g.Acyclic) : (g.keep fun e => !g.leadsBack e) = g :=
  keep_eq_self fun e he => by rw [hg.leadsBack_eq_false he]; rfl

/-- The rounds cut the edges that lead back in one search, and no others. -/
theorem cutCycles_eq_keep (g : Digraph V) : g.cutCycles = g.keep fun e => !g.leadsBack e := by
  induction g using cutCycles.induct with
  | case1 g h =>
    rw [cutCycles_of_none h, (acyclic_of_closingEdge?_eq_none h).keep_not_leadsBack]
  | case2 g e h ih =>
    have he := leadsBack_of_closingEdge? h
    -- the search of the graph without the edge takes the same course, and so the same edges lead back
    have htrails : (g.erase e).trails = g.trails := by
      refine trails_keep fun f _ hf => ?_
      obtain rfl : f = e := by simpa using hf
      exact he
    have hback : (g.erase e).leadsBack = g.leadsBack := by
      funext f
      rw [leadsBack, leadsBack, htrails]
    rw [cutCycles_of_some h, ih, hback, erase, keep_keep]
    refine keep_congr fun f _ => ?_
    by_cases hf : f = e
    · simp [hf, he]
    · simp [hf]

theorem acyclic_eq_keep (g : Digraph V) :
    g.acyclic = g.withoutLoops.keep fun e => !g.withoutLoops.leadsBack e :=
  cutCycles_eq_keep g.withoutLoops

theorem nodes_acyclic (g : Digraph V) : g.acyclic.nodes = g.nodes := by
  rw [acyclic_eq_keep]
  rfl

theorem mem_of_mem_acyclic {e : V × V} (h : e ∈ g.acyclic.edges) : e ∈ g.edges := by
  rw [acyclic_eq_keep, mem_keep, mem_withoutLoops] at h
  exact h.1.1

theorem acyclic_acyclic (g : Digraph V) : g.acyclic.Acyclic :=
  acyclic_of_closingEdge?_eq_none (cut_cutCycles g.withoutLoops).2

/-- Where there is no cycle but loops, only loops are cut. -/
theorem Acyclic.acyclic_eq_withoutLoops (hg : g.withoutLoops.Acyclic) :
    g.acyclic = g.withoutLoops := by
  rw [acyclic_eq_keep, hg.keep_not_leadsBack]

/-- What was cut is led around: a walk along the edges that are left leads from the end of a cut
edge to its start. -/
theorem reaches_of_not_mem_acyclic {e : V × V} (he : e ∈ g.edges) (hloop : e.1 ≠ e.2)
    (hcut : e ∉ g.acyclic.edges) : ReflTransGen g.acyclic.Edge e.2 e.1 := by
  rw [acyclic_eq_keep] at hcut ⊢
  have hback : g.withoutLoops.leadsBack e = true := by
    simpa [he, hloop] using hcut
  obtain ⟨path, hpath, hmem⟩ := leadsBack_iff.1 hback
  exact reaches_of_mem_trails hpath hmem

/-! ### The graph that is left -/

/-- The graph `h` with one edge of the graph `g` put back. -/
def putBack (g h : Digraph V) (e : V × V) : Digraph V := g.keep fun f => h.edges.contains f || f = e

theorem mem_putBack {g h : Digraph V} {e f : V × V} :
    f ∈ (g.putBack h e).edges ↔ f ∈ g.edges ∧ (f ∈ h.edges ∨ f = e) := by
  simp [putBack]

/-- What is asked of a graph `h` that is left when the cycles of `g` are broken. It is what finitely
many rounds make of the graph without its loops, when the next round finds nothing to cut; it has all
nodes and some of the edges, and no cycle; but every edge that was cut, other than a loop, closes a
cycle when it alone is put back. So nothing but loops is cut where there is no other cycle. -/
structure BreaksCycles (g h : Digraph V) : Prop where
  rounds : ReflTransGen Cut g.withoutLoops h
  finished : h.closingEdge? = none
  nodes_eq : h.nodes = g.nodes
  edges_sublist : h.edges.Sublist g.edges
  acyclic : h.Acyclic
  needed : ∀ e ∈ g.edges, e ∉ h.edges → e.1 ≠ e.2 → TransGen (g.putBack h e).Edge e.1 e.1
  only_loops : g.withoutLoops.Acyclic → h = g.withoutLoops

/-- **Breaking cycles** ends with a graph without cycles, and cuts no edge needlessly. -/
theorem breaksCycles_acyclic (g : Digraph V) : g.BreaksCycles g.acyclic where
  rounds := (cut_cutCycles g.withoutLoops).1
  finished := (cut_cutCycles g.withoutLoops).2
  nodes_eq := g.nodes_acyclic
  edges_sublist := by
    rw [acyclic_eq_keep]
    exact List.filter_sublist.trans List.filter_sublist
  acyclic := g.acyclic_acyclic
  needed := by
    intro e he hcut hloop
    have hleft : g.acyclic.Edge ≤ (g.putBack g.acyclic e).Edge := fun v w hvw =>
      mem_putBack.2 ⟨mem_of_mem_acyclic hvw, .inl hvw⟩
    have hedge : (g.putBack g.acyclic e).Edge e.1 e.2 :=
      mem_putBack.2 ⟨he, .inr rfl⟩
    exact TransGen.head' hedge
      (ReflTransGen.mono hleft _ _ (reaches_of_not_mem_acyclic he hloop hcut))
  only_loops := by
    intro hg
    rw [acyclic_eq_keep, hg.keep_not_leadsBack]

end Swimlane.Digraph
