import Swimlane.Flow.Graph

/-!
# Columns

The nodes of a graph without cycles are peeled off in rounds: each round takes, in their order, the
nodes that no edge reaches from a node that is left. A node's round is its rank.

- `Digraph.Queue`: the nodes that are left, each with the nodes that it waits for.
- `Digraph.columnsOf`, `Digraph.columns`: the rounds.
- `Digraph.rank`, `Digraph.ranks`: the round of a node, and those of all nodes.
-/

namespace Swimlane.Digraph

variable {V : Type} [DecidableEq V]

/-- Nodes in their order, each with the nodes that it waits for. -/
abbrev Queue (V : Type) := List (V × List V)

/-- The nodes that wait for none. -/
def ready (queue : Queue V) : List V := (queue.filter (·.2.isEmpty)).map (·.1)

/-- The nodes that wait, from now on for none of the given ones. -/
def waiting (gone : List V) (queue : Queue V) : Queue V :=
  (queue.filter (!·.2.isEmpty)).map fun (v, before) => (v, before.filter (· ∉ gone))

theorem length_waiting_lt {queue : Queue V} (h : ready queue ≠ []) (gone : List V) :
    (waiting gone queue).length < queue.length := by
  obtain ⟨v, hv⟩ := List.exists_mem_of_ne_nil _ h
  obtain ⟨p, hp, -⟩ := List.mem_map.1 hv
  have hp := List.mem_filter.1 hp
  rw [waiting, List.length_map]
  exact List.length_filter_lt_length_iff_exists.2 ⟨p, hp.1, by simpa using hp.2⟩

/-- Peels a queue off in rounds. Nodes on a cycle, which are never ready, form a last round of their
own. -/
def columnsOf (queue : Queue V) : List (List V) :=
  if queue = [] then []
  else if _h : ready queue = [] then [queue.map (·.1)]
  else ready queue :: columnsOf (waiting (ready queue) queue)
termination_by queue.length
decreasing_by exact length_waiting_lt _h _

/-- The nodes of a graph, each with the nodes of the graph that edges reach it from. -/
def queue (g : Digraph V) : Queue V :=
  g.nodes.map fun v => (v, (g.previous v).filter (· ∈ g.nodes))

/-- The rounds in which the nodes of the graph are peeled off. -/
def columns (g : Digraph V) : List (List V) := columnsOf g.queue

/-- The round in which a node is peeled off. -/
def rank (g : Digraph V) (v : V) : Nat := g.columns.findIdx (v ∈ ·)

/-- The nodes in their order, each with its rank. -/
def ranks (g : Digraph V) : List (V × Nat) :=
  let columns := g.columns
  g.nodes.map fun v => (v, columns.findIdx (v ∈ ·))

end Swimlane.Digraph
