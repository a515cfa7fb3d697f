import Swimlane.Flow.Graph

/-!
# Breaking cycles

Edges that lead back to their own start are dropped. Then a depth-first search, from each node in
order and along its edges in order, looks for an edge to a node on the current path; that edge is
cut and the search starts over, until no such edge is left.

- `Digraph.visit`: the search below one node.
- `Digraph.closingEdge?`: the first edge that closes a cycle.
- `Digraph.acyclic`: the graph that is left.
- `Digraph.closingEdge?_mem`: the edge that is found belongs to the graph, so the cuts end.
-/

namespace Swimlane.Digraph

variable {V : Type} [DecidableEq V]

/-- What a search has come to: an edge to a node on its path, or the nodes seen so far. -/
inductive Search (V : Type) where
  | closed (edge : V × V)
  | clear (seen : List V)

/-- Goes on along one edge from the end of a path, unless an edge was found before. -/
def step (visit : List V → List V → V → Search V) (v : V) (path : List V) (found : Search V)
    (w : V) : Search V :=
  match found with
  | .closed e => .closed e
  | .clear seen =>
    if w ∈ path then .closed (v, w)
    else if w ∈ seen then .clear seen
    else visit path seen w

/-- Searches below a node that was not seen before and is reached by the given path, which stands
backwards. The fuel bounds the length of the path. -/
def visit (g : Digraph V) : Nat → List V → List V → V → Search V
  | 0, _, seen, _ => .clear seen
  | fuel + 1, path, seen, v =>
    (g.next v).foldl (step (g.visit fuel) v (v :: path)) (.clear (v :: seen))

/-- Searches below one more root, unless an edge was found or the root was seen before. -/
def stepRoot (g : Digraph V) (found : Search V) (v : V) : Search V :=
  match found with
  | .closed e => .closed e
  | .clear seen => if v ∈ seen then .clear seen else g.visit g.nodes.length [] seen v

/-- The first edge, in the order of the search, that leads to a node on the current path. -/
def closingEdge? (g : Digraph V) : Option (V × V) :=
  match g.nodes.foldl g.stepRoot (.clear []) with
  | .closed e => some e
  | .clear _ => none

/-- An edge that was found belongs to the graph. -/
def Search.Sound (g : Digraph V) : Search V → Prop
  | .closed e => e ∈ g.edges
  | .clear _ => True

omit [DecidableEq V] in
/-- What a fold keeps at every step holds of its result. -/
theorem sound_foldl (g : Digraph V) {f : Search V → V → Search V} {vs : List V}
    (h : ∀ s, s.Sound g → ∀ v ∈ vs, (f s v).Sound g) {s : Search V} (hs : s.Sound g) :
    (vs.foldl f s).Sound g := by
  induction vs generalizing s with
  | nil => exact hs
  | cons v vs ih =>
    exact ih (fun s hs w hw => h s hs w (.tail _ hw)) (h s hs v (.head _))

theorem visit_sound (g : Digraph V) (fuel : Nat) (path seen : List V) (v : V) :
    (g.visit fuel path seen v).Sound g := by
  induction fuel generalizing path seen v with
  | zero => trivial
  | succ fuel ih =>
    refine sound_foldl g (fun s hs w hw => ?_) trivial
    cases s with
    | closed e => exact hs
    | clear seen =>
      simp only [step]
      split
      · exact mem_next.1 hw
      · split
        · trivial
        · exact ih ..

/-- The edge that is found belongs to the graph. -/
theorem closingEdge?_mem {g : Digraph V} {e : V × V} (h : g.closingEdge? = some e) :
    e ∈ g.edges := by
  have sound : (g.nodes.foldl g.stepRoot (.clear [])).Sound g := by
    refine sound_foldl g (fun s hs v _ => ?_) trivial
    cases s with
    | closed e => exact hs
    | clear seen =>
      simp only [stepRoot]
      split
      · trivial
      · exact visit_sound ..
  unfold closingEdge? at h
  split at h
  · next e' he => rw [he] at sound; cases h; exact sound
  · cases h

theorem length_edges_erase_lt {g : Digraph V} {e : V × V} (h : e ∈ g.edges) :
    (g.erase e).edges.length < g.edges.length :=
  List.length_filter_lt_length_iff_exists.2 ⟨e, h, by simp⟩

/-- Cuts the edges that close a cycle, one search after another. -/
def cutCycles (g : Digraph V) : Digraph V :=
  match _h : g.closingEdge? with
  | none => g
  | some e => (g.erase e).cutCycles
termination_by g.edges.length
decreasing_by exact length_edges_erase_lt (closingEdge?_mem _h)

/-- The graph that is left when every cycle is broken. -/
def acyclic (g : Digraph V) : Digraph V := g.withoutLoops.cutCycles

/-- The edges that are cut, loops included, in the order of their starts. -/
def cutEdges (g : Digraph V) : List (V × V) :=
  let left := g.acyclic.edges
  g.edgesBySource.filter (· ∉ left)

end Swimlane.Digraph
