import Mathlib.Data.Fintype.Card
import Mathlib.Data.Set.Finite.List
import Mathlib.Logic.Relation
import Swimlane.Flow.Graph

/-!
# Walks

What it means that a graph has no cycle, in two forms that are equivalent because a graph has
finitely many nodes.

- `Digraph.Edge`: the relation that the edges draw; a walk is a chain of it, `ReflTransGen g.Edge`.
- `Digraph.Acyclic`: no walk of one edge or more leads back to its start.
- `Digraph.acyclic_of_acc`: there is no cycle where every walk from a node comes to an end.
- `Digraph.Acyclic.wellFounded`: without cycles, no walk can be followed backwards for ever.
-/

namespace Swimlane.Digraph

open Relation

variable {V : Type}

/-- An edge leads from one node to the other. -/
def Edge (g : Digraph V) (v w : V) : Prop := (v, w) ∈ g.edges

/-- No walk of one edge or more leads back to its start. -/
def Acyclic (g : Digraph V) : Prop := ∀ v, ¬ TransGen g.Edge v v

variable {g : Digraph V}

theorem Edge.source_mem {v w : V} (e : g.Edge v w) : v ∈ g.nodes := (g.closed _ e).1

theorem Edge.target_mem {v w : V} (e : g.Edge v w) : w ∈ g.nodes := (g.closed _ e).2

/-- A node on a cycle has a walk that goes on for ever. -/
theorem not_transGen_of_acc {v : V} (hv : Acc (fun w v => g.Edge v w) v) :
    ¬ TransGen g.Edge v v := by
  induction hv with
  | intro v _ ih =>
    intro hcycle
    obtain ⟨w, hvw, hwv⟩ := TransGen.head'_iff.1 hcycle
    exact ih w hvw (TransGen.tail' hwv hvw)

/-- There is no cycle where every walk comes to an end. -/
theorem acyclic_of_acc (hacc : ∀ v ∈ g.nodes, Acc (fun w v => g.Edge v w) v) : g.Acyclic := by
  intro v hcycle
  obtain ⟨w, hvw, -⟩ := TransGen.head'_iff.1 hcycle
  exact not_transGen_of_acc (hacc v hvw.source_mem) hcycle

/-- Without cycles, no walk can be followed backwards for ever. -/
theorem Acyclic.wellFounded (hg : g.Acyclic) : WellFounded g.Edge := by
  -- on the finitely many nodes, the walks of one edge or more are a strict order
  let before (a b : {v // v ∈ g.nodes}) : Prop := TransGen g.Edge a b
  have : Finite {v // v ∈ g.nodes} := (List.finite_toSet g.nodes).to_subtype
  have : IsTrans _ before := ⟨fun _ _ _ h₁ h₂ => TransGen.trans h₁ h₂⟩
  have : Std.Irrefl before := ⟨fun v hv => hg v hv⟩
  have hwf : WellFounded before := Finite.wellFounded_of_trans_of_irrefl before
  have hnode : ∀ v : {v // v ∈ g.nodes}, Acc g.Edge v := by
    intro v
    induction v using hwf.induction with
    | _ v ih => exact ⟨_, fun u hu => ih ⟨u, hu.source_mem⟩ (.single hu)⟩
  exact ⟨fun v => ⟨v, fun u hu => hnode ⟨u, hu.source_mem⟩⟩⟩

end Swimlane.Digraph
