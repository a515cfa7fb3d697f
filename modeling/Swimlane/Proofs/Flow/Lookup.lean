import Mathlib.Data.List.Perm.Basic
import Swimlane.Proofs.Flow.Longest
import Swimlane.Proofs.Flow.Placement

/-!
# Look-ups that cannot fail

The layered placement once more, along any order of the nodes in which edges lead forwards, with
every look-up as one that may find nothing: of the rank of a node in front of another, of the layer
of a rank, of the position of a neighbour, of the size of a node. It finds everything, and comes to
the same boxes.

- `Digraph.SortedBy`: an order in which edges lead forwards;
  `Digraph.Acyclic.sortedBy_columns`: there is one.
- `Digraph.rankTable?`, `Digraph.rankTable?_eq`: the ranks, one node after another.
- `Digraph.layers?`, `Digraph.layers?_eq`: the nodes put into the layers of their ranks.
- `Digraph.ordered?`, `Digraph.ordered?_eq`: the sweeps.
- `Layered.solve?`, `Layered.solve?_eq`: the whole placement.
-/

namespace Swimlane

/-! ### One look-up after another -/

section

variable {α β : Type}

/-- What is found for every item of a list is found for the list. -/
theorem mapM_eq_some {f : α → Option β} {f' : α → β} {l : List α} (h : ∀ a ∈ l, f a = some (f' a)) :
    l.mapM f = some (l.map f') := by
  induction l with
  | nil => rfl
  | cons a l ih =>
    rw [List.mapM_cons, h a (.head _), ih fun b hb => h b (.tail _ hb)]
    rfl

/-- A fold finds everything if every step does, as long as a property holds that the steps keep. -/
theorem foldlM_eq_some {f : β → α → Option β} {f' : β → α → β} {P : β → Prop} {l : List α}
    (h : ∀ s, P s → ∀ a ∈ l, f s a = some (f' s a) ∧ P (f' s a)) {s : β} (hs : P s) :
    l.foldlM f s = some (l.foldl f' s) ∧ P (l.foldl f' s) := by
  induction l generalizing s with
  | nil => exact ⟨rfl, hs⟩
  | cons a l ih =>
    obtain ⟨hstep, hkept⟩ := h s hs a (.head _)
    rw [List.foldlM_cons, hstep]
    exact ih (fun s hs b hb => h s hs b (.tail _ hb)) hkept

/-- A fold that adds an entry for one item after another, in view of the entries for the items
before. -/
theorem foldlM_eq_some_of_prefix {f : β → α → Option β} (entries : List α → β) {items : List α}
    (h : ∀ done a rest, items = done ++ a :: rest →
      f (entries done) a = some (entries (done ++ [a]))) :
    items.foldlM f (entries []) = some (entries items) := by
  suffices ∀ done rest, items = done ++ rest →
    rest.foldlM f (entries done) = some (entries items) from this [] items rfl
  intro done rest
  induction rest generalizing done with
  | nil =>
    intro heq
    rw [heq, List.append_nil]
    rfl
  | cons a rest ih =>
    intro heq
    rw [List.foldlM_cons, h done a rest heq]
    exact ih (done ++ [a]) (by rw [heq, List.append_assoc]; rfl)

theorem lookup_map_of_mem [DecidableEq α] (f : α → β) {l : List α} {a : α} (h : a ∈ l) :
    (l.map fun b => (b, f b)).lookup a = some (f a) := by
  induction l with
  | nil => cases h
  | cons b l ih =>
    rw [List.map_cons, List.lookup_cons]
    by_cases hab : a = b
    · subst hab
      simp
    · rw [beq_eq_false_iff_ne.2 hab]
      exact ih ((List.mem_cons.1 h).resolve_left hab)

end

namespace Digraph

variable {V : Type} [DecidableEq V] {g : Digraph V}

/-! ### Ranks -/

/-- The nodes in an order in which edges lead forwards. -/
structure SortedBy (g : Digraph V) (order : List V) : Prop where
  perm : order.Perm g.nodes
  forwards : order.Pairwise fun u v => ¬ g.Edge v u

/-- The rounds one after another are such an order. -/
theorem Acyclic.sortedBy_columns (hg : g.Acyclic) : g.SortedBy g.columns.flatten where
  perm := g.columns_flatten_perm
  forwards := by
    rw [List.pairwise_flatten]
    constructor
    · intro column hcolumn
      obtain ⟨i, hi, rfl⟩ := List.mem_iff_getElem.1 hcolumn
      refine List.pairwise_of_forall_mem_list fun u hu v hv hedge => ?_
      have hlt := hg.rank_lt_rank hedge
      rw [rank_eq_of_mem hi hu, rank_eq_of_mem hi hv] at hlt
      exact Nat.lt_irrefl i hlt
    · rw [List.pairwise_iff_getElem]
      intro i j hi hj hij u hu v hv hedge
      have hlt := hg.rank_lt_rank hedge
      rw [rank_eq_of_mem hi hu, rank_eq_of_mem hj hv] at hlt
      exact Nat.lt_asymm hij hlt

/-- The rank of a node, by the ranks found for the nodes in front of it. -/
def rankBehind? (g : Digraph V) (ranks : List (V × Nat)) (v : V) : Option Nat := do
  let before ← (g.previous v).mapM fun u => ranks.lookup u
  some (greatest (before.map (· + 1)))

/-- The ranks of the nodes, one after another in the given order. -/
def rankTable? (g : Digraph V) (order : List V) : Option (List (V × Nat)) :=
  order.foldlM (fun ranks v => (g.rankBehind? ranks v).map fun rank => ranks ++ [(v, rank)]) []

omit [DecidableEq V] in
/-- What leads to a node of the order stands in front of it. -/
theorem SortedBy.mem_of_edge {done rest : List V} {u v : V} (h : g.SortedBy (done ++ v :: rest))
    (hg : g.Acyclic) (hedge : g.Edge u v) : u ∈ done := by
  have hmem := h.perm.mem_iff.2 hedge.source_mem
  have hforwards := (List.pairwise_cons.1 (List.pairwise_append.1 h.forwards).2.1).1
  rcases List.mem_append.1 hmem with hmem | hmem
  · exact hmem
  · rcases List.mem_cons.1 hmem with rfl | hmem
    · exact absurd (.single hedge) (hg u)
    · exact absurd hedge (hforwards u hmem)

/-- In such an order, the ranks of all nodes are found. -/
theorem rankTable?_eq (hg : g.Acyclic) {order : List V} (h : g.SortedBy order) :
    g.rankTable? order = some (order.map fun v => (v, g.rank v)) := by
  refine foldlM_eq_some_of_prefix (fun done => done.map fun v => (v, g.rank v)) ?_
  rintro done v rest rfl
  have hfound : ∀ u ∈ g.previous v,
      (done.map fun v => (v, g.rank v)).lookup u = some (g.rank u) := fun u hu =>
    lookup_map_of_mem g.rank (h.mem_of_edge hg (mem_previous.1 hu))
  have hv : v ∈ g.nodes := h.perm.mem_iff.1 (List.mem_append_right _ (.head _))
  have hrank : g.rankBehind? (done.map fun v => (v, g.rank v)) v = some (g.rank v) := by
    rw [rankBehind?, mapM_eq_some hfound, ← hg.rank_eq_greatest hv]
    simp [Function.comp_def]
  rw [hrank, Option.map_some, List.map_append]
  rfl

/-! ### Layers -/

/-- Puts a node into the layer of its rank, behind those that are there. -/
def putNode? (ranks : List (V × Nat)) (layers : List (List V)) (v : V) :
    Option (List (List V)) := do
  let rank ← ranks.lookup v
  let layer ← layers[rank]?
  some (layers.set rank (layer ++ [v]))

/-- The nodes in their order, put into the layers of their ranks. -/
def layers? (g : Digraph V) (ranks : List (V × Nat)) : Option (List (List V)) :=
  g.nodes.foldlM (putNode? ranks) (List.replicate (greatest (ranks.map (·.2)) + 1) [])

/-- The layers of some nodes. -/
def layersOf (g : Digraph V) (nodes : List V) : List (List V) :=
  (List.range g.columns.length).map fun i => nodes.filter fun v => g.rank v = i

theorem layersOf_nodes (g : Digraph V) : g.layersOf g.nodes = g.columns := by
  refine List.ext_getElem (by simp [layersOf]) fun i _ hi => ?_
  rw [columns_getElem hi]
  simp [layersOf]

/-- One more node goes into the layer of its rank. -/
theorem layersOf_concat (done : List V) (v : V) :
    g.layersOf (done ++ [v]) = (g.layersOf done).modify (g.rank v) (· ++ [v]) := by
  refine List.ext_getElem (by simp [layersOf]) fun i _ _ => ?_
  rw [List.getElem_modify]
  by_cases hi : g.rank v = i
  · simp [layersOf, hi]
  · simp [layersOf, hi]

theorem putNode?_layersOf {ranks : List (V × Nat)} {v : V} (hv : v ∈ g.nodes)
    (hrank : ranks.lookup v = some (g.rank v)) (done : List V) :
    putNode? ranks (g.layersOf done) v = some (g.layersOf (done ++ [v])) := by
  have hlt : g.rank v < (g.layersOf done).length := by
    rw [layersOf, List.length_map, List.length_range]
    exact (mem_column_rank hv).1
  rw [putNode?, hrank, Option.bind_eq_bind, Option.bind_some, List.getElem?_eq_getElem hlt,
    Option.bind_eq_bind, Option.bind_some, layersOf_concat, List.modify_eq_set_getElem?,
    List.getElem?_eq_getElem hlt]
  rfl

/-- Every node finds the layer of its rank, and the layers are the columns. -/
theorem layers?_eq (hne : g.nodes ≠ []) {order : List V} (h : g.SortedBy order) :
    g.layers? (order.map fun v => (v, g.rank v)) = some g.columns := by
  have hne' : order ≠ [] := fun hnil => hne (List.perm_nil.1 (hnil ▸ h.perm.symm))
  have hcount : greatest ((order.map fun v => (v, g.rank v)).map (·.2)) + 1 = g.columns.length := by
    rw [List.map_map]
    exact greatest_rank h.perm hne'
  have hempty : List.replicate g.columns.length [] = g.layersOf [] := by
    simp [layersOf]
  rw [layers?, hcount, hempty, ← layersOf_nodes g]
  refine foldlM_eq_some_of_prefix g.layersOf fun done v rest hnodes => ?_
  have hv : v ∈ g.nodes := hnodes ▸ List.mem_append_right _ (.head _)
  exact putNode?_layersOf hv (lookup_map_of_mem g.rank (h.perm.mem_iff.2 hv)) done

/-! ### Sweeps -/

/-- The position of a node in its column. -/
def position? (columns : List (List V)) (v : V) : Option Nat :=
  columns.findSome? fun column => column.idxOf? v

/-- The mean position of the neighbours, or the own position of a node without any. -/
def meanPosition? (columns : List (List V)) (neighbours : List V) (own : Nat) : Option Mean :=
  if neighbours = [] then some ⟨own, 1⟩
  else do
    let positions ← neighbours.mapM (position? columns)
    some ⟨positions.foldl (· + ·) 0, neighbours.length⟩

/-- A column sorted by the mean positions of the neighbours of its nodes. -/
def sortColumn? (columns : List (List V)) (neighbours : V → List V) (column : List V) :
    Option (List V) := do
  let keyed ← column.zipIdx.mapM fun (v, i) =>
    (meanPosition? columns (neighbours v) i).map fun mean => (mean, v)
  some ((keyed.mergeSort fun a b => a.1.le b.1).map (·.2))

/-- The columns after the one at a place is sorted. -/
def sortAt? (neighbours : V → List V) (columns : List (List V)) (i : Nat) :
    Option (List (List V)) := do
  let column ← columns[i]?
  let sorted ← sortColumn? columns neighbours column
  some (columns.set i sorted)

/-- The columns after a sweep: forwards from the second column, or backwards from the last but
one. -/
def sweep? (g : Digraph V) (forwards : Bool) (columns : List (List V)) : Option (List (List V)) :=
  if forwards then (List.range' 1 (columns.length - 1)).foldlM (sortAt? g.previous) columns
  else (List.range (columns.length - 1)).reverse.foldlM (sortAt? g.next) columns

/-- The columns after a number of sweeps, of which the first goes forwards. -/
def ordered? (g : Digraph V) (sweeps : Nat) (columns : List (List V)) : Option (List (List V)) :=
  (List.range sweeps).foldlM (fun columns s => g.sweep? (s % 2 = 0) columns) columns

theorem position?_eq {columns : List (List V)} {v : V} (h : v ∈ columns.flatten) :
    position? columns v = some (position columns v) := by
  obtain ⟨column, hcolumn, hv⟩ := List.mem_flatten.1 h
  have hfound : (position? columns v).isSome = true :=
    List.findSome?_isSome_iff.2 ⟨column, hcolumn, List.isSome_idxOf?.2 hv⟩
  obtain ⟨i, hi⟩ := Option.isSome_iff_exists.1 hfound
  rw [hi, position]
  exact congrArg some (congrArg (Option.getD · 0) hi).symm

theorem meanPosition?_eq {columns : List (List V)} {neighbours : List V}
    (h : ∀ u ∈ neighbours, u ∈ columns.flatten) (own : Nat) :
    meanPosition? columns neighbours own = some (meanPosition columns neighbours own) := by
  unfold meanPosition? meanPosition
  by_cases hnil : neighbours = []
  · rw [if_pos hnil, if_pos hnil]
  · rw [if_neg hnil, if_neg hnil, mapM_eq_some fun u hu => position?_eq (h u hu)]
    rfl

variable {columns : List (List V)} {neighbours : V → List V}

theorem sortColumn?_eq (h : ∀ v, ∀ u ∈ neighbours v, u ∈ columns.flatten) (column : List V) :
    sortColumn? columns neighbours column = some (sortColumn columns neighbours column) := by
  have hmean : ∀ p ∈ column.zipIdx,
      (meanPosition? columns (neighbours p.1) p.2).map (fun mean => (mean, p.1)) =
        some (meanPosition columns (neighbours p.1) p.2, p.1) := by
    intro p _
    rw [meanPosition?_eq (h p.1), Option.map_some]
  rw [sortColumn?, mapM_eq_some hmean]
  rfl

theorem sortAt?_eq (h : ∀ v, ∀ u ∈ neighbours v, u ∈ columns.flatten) {i : Nat}
    (hi : i < columns.length) :
    sortAt? neighbours columns i = some (sortAt neighbours columns i) := by
  rw [sortAt?, List.getElem?_eq_getElem hi, Option.bind_eq_bind, Option.bind_some, sortColumn?_eq h,
    sortAt, List.modify_eq_set_getElem?, List.getElem?_eq_getElem hi]
  rfl

/-- Sorting one column after another finds the positions of all neighbours. -/
theorem foldlM_sortAt?_eq (h : ∀ v, ∀ u ∈ neighbours v, u ∈ columns.flatten) {is : List Nat}
    (his : ∀ i ∈ is, i < columns.length) :
    is.foldlM (sortAt? neighbours) columns = some (is.foldl (sortAt neighbours) columns) := by
  -- the columns stay the same, each in an order of its own
  refine (foldlM_eq_some (P := Reordered columns) ?_ (.refl columns)).1
  intro columns' hsame i hi
  have hflatten := hsame.flatten_perm
  have hneighbours : ∀ v, ∀ u ∈ neighbours v, u ∈ columns'.flatten := fun v u hu =>
    hflatten.mem_iff.1 (h v u hu)
  have hlength : i < columns'.length := by
    rw [← List.Forall₂.length_eq hsame]
    exact his i hi
  exact ⟨sortAt?_eq hneighbours hlength, hsame.trans (sortAt_reordered neighbours columns' i)⟩

/-- A sweep over all nodes of a graph finds the positions of all neighbours. -/
theorem sweep?_eq (h : columns.flatten.Perm g.nodes) (forwards : Bool) :
    g.sweep? forwards columns = some (g.sweep forwards columns) := by
  unfold sweep? sweep
  cases forwards with
  | true =>
    refine foldlM_sortAt?_eq (fun v u hu => h.mem_iff.2 (Edge.source_mem (mem_previous.1 hu))) ?_
    intro i hi
    have hi := List.mem_range'_1.1 hi
    omega
  | false =>
    refine foldlM_sortAt?_eq (fun v u hu => h.mem_iff.2 (Edge.target_mem (mem_next.1 hu))) ?_
    intro i hi
    have hi := List.mem_range.1 (List.mem_reverse.1 hi)
    omega

theorem ordered?_eq (h : columns.flatten.Perm g.nodes) (sweeps : Nat) :
    g.ordered? sweeps columns = some (g.ordered sweeps columns) := by
  refine (foldlM_eq_some (P := fun columns => columns.flatten.Perm g.nodes) ?_ h).1
  intro columns' hnodes s _
  exact ⟨sweep?_eq hnodes _, (sweep_reordered g _ columns').flatten_perm.symm.trans hnodes⟩

end Digraph

/-! ### The whole placement -/

namespace Layered

variable {V α : Type} [Scalar α] [DecidableEq V]

/-- Nodes with their sizes. -/
def sized? (g : FlowGraph V α) (column : List V) : Option (Column V α) :=
  column.mapM fun v => (g.nodes.lookup v).map fun size => (v, size)

/-- The placement of a graph, with its ranks found along an order of its nodes. -/
def solve? (config : Config α) (order : List V) (g : FlowGraph V α) : Option (List (V × Box α)) :=
  if g.nodes = [] then some []
  else do
    let dag := g.digraph.acyclic
    let ranks ← dag.rankTable? order
    let layers ← dag.layers? ranks
    let layers ← dag.ordered? config.sweeps.toNat layers
    let columns ← layers.mapM (sized? g)
    some (place config columns)

theorem sized?_eq {g : FlowGraph V α} {column : List V} (h : ∀ v ∈ column, v ∈ g.ids) :
    sized? g column = some (sized g column) := by
  refine mapM_eq_some fun v hv => ?_
  obtain ⟨⟨_, size⟩, hnode, rfl⟩ := List.mem_map.1 (h v hv)
  rw [Table.lookup_eq_some_of_mem g.nodup_ids hnode]
  rfl

/-- Every look-up of the placement finds what it looks for. -/
theorem solve?_eq (config : Config α) {g : FlowGraph V α} {order : List V}
    (h : g.digraph.acyclic.SortedBy order) : solve? config order g = some (solve config g) := by
  unfold solve?
  by_cases hnodes : g.nodes = []
  · have hnone : solve config g = [] := by
      have hperm := map_fst_solve_perm config g
      rw [FlowGraph.ids, hnodes] at hperm
      exact List.map_eq_nil_iff.1 (List.perm_nil.1 hperm)
    rw [if_pos hnodes, hnone]
  · have hne : g.digraph.acyclic.nodes ≠ [] := by
      rw [Digraph.nodes_acyclic]
      exact fun hnil => hnodes (List.map_eq_nil_iff.1 hnil)
    have hsized : ∀ column ∈ orderedColumns config.sweeps g.digraph.acyclic,
        sized? g column = some (sized g column) := fun column hcolumn =>
      sized?_eq fun v hv => (flatten_orderedColumns_perm config.sweeps g).mem_iff.1
        (List.mem_flatten_of_mem hcolumn hv)
    have hranks := Digraph.rankTable?_eq g.digraph.acyclic_acyclic h
    have hlayers := Digraph.layers?_eq hne h
    have hordered : g.digraph.acyclic.ordered? config.sweeps.toNat g.digraph.acyclic.columns =
        some (orderedColumns config.sweeps g.digraph.acyclic) :=
      Digraph.ordered?_eq g.digraph.acyclic.columns_flatten_perm _
    rw [if_neg hnodes]
    simp only [hranks, hlayers, hordered, mapM_eq_some hsized, Option.bind_eq_bind,
      Option.bind_some]
    rfl

end Layered

end Swimlane
