import Swimlane.Flow.Graph

/-!
# Order within the columns

Crossings are reduced by sweeps over the columns, alternately forwards and backwards. Each column
in turn is sorted by the mean position of the neighbours of its nodes in the direction the sweep
comes from; a node without such neighbours counts with its own position, and ties keep their order.

- `Mean`: a mean of whole numbers, compared exactly.
- `Digraph.sortColumn`: one column sorted.
- `Digraph.sweep`, `Digraph.ordered`: one sweep, and a number of them.
-/

namespace Swimlane

/-- The mean `total / count` of `count` whole numbers. -/
structure Mean where
  total : Nat
  count : Nat
  deriving DecidableEq, Repr

/-- Whether one mean is at most another. -/
def Mean.le (a b : Mean) : Bool := a.total * b.count ≤ b.total * a.count

namespace Digraph

variable {V : Type} [DecidableEq V]

/-- The position of a node in its column. -/
def position (columns : List (List V)) (v : V) : Nat :=
  (columns.findSome? fun column => column.idxOf? v).getD 0

/-- The mean position of the neighbours, or the own position of a node without any. -/
def meanPosition (columns : List (List V)) (neighbours : List V) (own : Nat) : Mean :=
  if neighbours = [] then ⟨own, 1⟩
  else ⟨(neighbours.map (position columns)).foldl (· + ·) 0, neighbours.length⟩

/-- A column sorted by the mean positions of the neighbours of its nodes. -/
def sortColumn (columns : List (List V)) (neighbours : V → List V) (column : List V) : List V :=
  ((column.zipIdx.map fun (v, i) => (meanPosition columns (neighbours v) i, v)).mergeSort
    fun a b => a.1.le b.1).map (·.2)

/-- The columns after the one at a place is sorted. -/
def sortAt (neighbours : V → List V) (columns : List (List V)) (i : Nat) : List (List V) :=
  columns.modify i (sortColumn columns neighbours)

/-- The columns after a sweep: forwards from the second column, or backwards from the last but
one. -/
def sweep (g : Digraph V) (forwards : Bool) (columns : List (List V)) : List (List V) :=
  if forwards then (List.range' 1 (columns.length - 1)).foldl (sortAt g.previous) columns
  else (List.range (columns.length - 1)).reverse.foldl (sortAt g.next) columns

/-- The columns after a number of sweeps, of which the first goes forwards. -/
def ordered (g : Digraph V) (sweeps : Nat) (columns : List (List V)) : List (List V) :=
  (List.range sweeps).foldl (fun columns s => g.sweep (s % 2 = 0) columns) columns

end Digraph

end Swimlane
