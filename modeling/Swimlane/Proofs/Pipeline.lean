import Swimlane.Proofs.Flow.Lookup
import Swimlane.Proofs.Layout
import Swimlane.Session

/-!
# The layered placement always succeeds

- `Layered.Completes`: a placement that comes to its end and loses no node.
- `Layered.completes`: the placement of any graph does.
- `Layout.layered_succeeds`: with it, every document is laid out, and every text has a diagram.
-/

namespace Swimlane

variable {α : Type} [Scalar α]

namespace Layered

variable {V : Type} [DecidableEq V]

/-- A placement that comes to its end. There is an order in which edges lead forwards, and along any
such order the rank of every node is found, and whatever else is looked up. Every node is placed
once and in its own size, and after any number of sweeps the layers hold the nodes of their ranks. -/
structure Completes (config : Config α) (g : FlowGraph V α) : Prop where
  sorted : ∃ order, g.digraph.acyclic.SortedBy order
  ranks : ∀ order, g.digraph.acyclic.SortedBy order → g.digraph.acyclic.rankTable? order =
    some (order.map fun v => (v, g.digraph.acyclic.rank v))
  found : ∀ order, g.digraph.acyclic.SortedBy order → solve? config order g = some (solve config g)
  nodes : ((solve config g).map (·.1)).Perm g.ids
  once : ((solve config g).map (·.1)).Nodup
  sizes : ∀ v b, (v, b) ∈ solve config g → (v, ⟨b.width, b.height⟩) ∈ g.nodes
  layers : ∀ sweeps : Int, Digraph.Reordered (g.digraph.acyclic.layersOf g.ids)
    (orderedColumns sweeps g.digraph.acyclic)

theorem completes (config : Config α) (g : FlowGraph V α) : Completes config g where
  sorted := ⟨_, g.digraph.acyclic_acyclic.sortedBy_columns⟩
  ranks order h := Digraph.rankTable?_eq g.digraph.acyclic_acyclic h
  found order h := solve?_eq config h
  nodes := map_fst_solve_perm config g
  once := nodup_solve config g
  sizes v b h := by
    have hfound : (solve config g).lookup v = some b :=
      Table.lookup_eq_some_of_mem (nodup_solve config g) h
    exact mem_nodes_of_lookup_solve hfound
  layers sweeps := by
    have hlayers := g.digraph.acyclic.layersOf_nodes
    rw [Digraph.nodes_acyclic] at hlayers
    have hids : g.digraph.acyclic.layersOf g.ids = g.digraph.acyclic.columns := hlayers
    rw [hids]
    exact Digraph.ordered_reordered _ _ _

end Layered

namespace Layout

/-- **The layered placement always succeeds**: for every document and any number of sweeps, it comes
to its end without losing a node and gives every element its place, and a session that uses it
accepts every text. -/
theorem layered_succeeds (grid : Grid.Config α) (config : Layered.Config α) :
    (∀ d : Document, Layered.Completes config (d.flowGraph.map Scalar.whole) ∧
      (layered grid config).boxes d = .ok (Layered.solve config (d.flowGraph.map Scalar.whole))) ∧
    ∀ (s : Session α) (text : String), Session.accepts (layered grid config) text = true ∧
      ∃ diagram, (layered grid config).generate text = .ok diagram ∧
        s.update (layered grid config) text = ⟨some diagram, none, text, s.revision + 1⟩ := by
  constructor
  · intro d
    refine ⟨Layered.completes config _, ?_⟩
    obtain ⟨boxes, hsolver, hplaced⟩ := layered_places grid config d
    obtain rfl := Except.ok.inj hsolver
    exact boxes_eq_of_places rfl hplaced
  · intro s text
    obtain ⟨boxes, hdiagram⟩ :=
      exists_diagram_of_places (layered_places grid config (Notation.parse text))
    have hgenerate : (layered grid config).generate text = .ok _ := hdiagram
    refine ⟨?_, _, hgenerate, ?_⟩
    · rw [Session.accepts, hgenerate]
      rfl
    · rw [Session.update, hgenerate]

end Layout

end Swimlane
