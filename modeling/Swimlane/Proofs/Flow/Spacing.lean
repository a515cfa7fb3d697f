import Mathlib.Algebra.Order.BigOperators.Group.List
import Mathlib.Data.List.Chain
import Mathlib.Order.Bounds.Basic
import Mathlib.Tactic.Ring
import Swimlane.Proofs.Flow.Crossing
import Swimlane.Proofs.Flow.Direction
import Swimlane.Proofs.Grid.Area

/-!
# Even spacing

Exactly computed, the boxes of a placement do not overlap, and each layer of them is a stack at the
distance between nodes whose middle is that of the tallest one.

- `Box.area`: what a box covers.
- `Layered.EvenlySpaced`: what is said of the layers of a placement.
- `Layered.isChain_stack`, `Layered.top_of_head?_stack`, `Layered.bottom_of_getLast?_stack`: where
  the boxes of a stack begin and end.
- `Layered.exists_centred_stack`: each layer is a stack that is centred on the tallest one.
- `Layered.solve_evenlySpaced`: every placement is evenly spaced.
-/

namespace Swimlane

open Scalar

/-- The area of a box around its centre. -/
def Box.area (b : Box Rat) : Area :=
  ⟨b.x - b.width / 2, b.x + b.width / 2, b.y - b.height / 2, b.y + b.height / 2⟩

namespace Layered

variable {V : Type}

/-- The heights of the boxes of a layer and the distances between them. -/
def layerHeight (sep : Rat) (layer : List (V × Box Rat)) : Rat :=
  (layer.map (·.2.height)).sum + sep * (layer.length - 1 : Nat)

/-- The placement of a graph, cut into its layers, one for each rank: every node has one box of its
size, and no two of them overlap; the nodes of a rank share one centre line; from one box of a layer
to the next there is the distance between nodes. The layers are centred on the height of the tallest
one, and no box reaches above the origin, below that height, or left of the origin. -/
structure EvenlySpaced [DecidableEq V] (config : Config Rat) (g : FlowGraph V Rat)
    (layers : List (List (V × Box Rat))) (height : Rat) : Prop where
  flatten_eq : layers.flatten = solve config g
  nodes_eq : layers.map (·.map (·.1)) = orderedColumns config.sweeps g.digraph.acyclic
  ranked : ∀ i (hi : i < layers.length), ∀ p,
    p ∈ layers[i] ↔ p ∈ solve config g ∧ g.digraph.acyclic.rank p.1 = i
  sized : ((solve config g).map fun p => (p.1, Size.mk p.2.width p.2.height)).Perm g.nodes
  disjoint : (solve config g).Pairwise fun p q => ¬ p.2.area.Overlaps q.2.area
  aligned : ∀ p ∈ solve config g, ∀ q ∈ solve config g,
    g.digraph.acyclic.rank p.1 = g.digraph.acyclic.rank q.1 → p.2.x = q.2.x
  occupied : ∀ layer ∈ layers, layer ≠ []
  spaced : ∀ layer ∈ layers,
    layer.IsChain fun p q => p.2.area.bottom + config.nodeSep = q.2.area.top
  tallest : layers ≠ [] →
    IsGreatest {h | ∃ layer ∈ layers, layerHeight config.nodeSep layer = h} height
  centred : ∀ layer ∈ layers, ∀ p ∈ layer.head?, ∀ q ∈ layer.getLast?,
    p.2.area.top + q.2.area.bottom = height
  inside : ∀ p ∈ solve config g,
    0 ≤ p.2.area.left ∧ 0 ≤ p.2.area.top ∧ p.2.area.bottom ≤ height

/-! ### A stack of boxes -/

section

variable {nodeSep centre top : Rat} {column : Column V Rat}

theorem columnHeight_singleton (nodeSep : Rat) (n : V × Size Rat) :
    columnHeight nodeSep [n] = n.2.height := by
  simp [columnHeight, total_eq_sum, times]

theorem columnHeight_cons_cons (nodeSep : Rat) (n m : V × Size Rat) (rest : Column V Rat) :
    columnHeight nodeSep (n :: m :: rest) =
      n.2.height + nodeSep + columnHeight nodeSep (m :: rest) := by
  have htimes (a : Rat) (k : Nat) : times a k = a * k := rfl
  simp only [columnHeight, total_eq_sum, htimes, List.map_cons, List.sum_cons, List.length_cons,
    Nat.add_sub_cancel, Nat.cast_add, Nat.cast_one]
  ring

theorem layerHeight_stack (nodeSep centre top : Rat) (column : Column V Rat) :
    layerHeight nodeSep (stack nodeSep centre top column) = columnHeight nodeSep column := by
  have hheights : (stack nodeSep centre top column).map (·.2.height) = column.map (·.2.height) := by
    induction column generalizing top with
    | nil => rfl
    | cons n rest ih => rw [stack, List.map_cons, List.map_cons, ih]
  have hlength := congrArg List.length hheights
  rw [List.length_map, List.length_map] at hlength
  rw [layerHeight, columnHeight, hheights, hlength, total_eq_sum]
  rfl

/-- In a stack, each box begins at the distance between nodes below the one before. -/
theorem isChain_stack (nodeSep centre top : Rat) (column : Column V Rat) :
    (stack nodeSep centre top column).IsChain fun p q =>
      p.2.area.bottom + nodeSep = q.2.area.top := by
  induction column generalizing top with
  | nil => exact .nil
  | cons n rest ih =>
    cases rest with
    | nil => exact .singleton _
    | cons m rest =>
      refine .cons_cons ?_ (ih (top + (n.2.height + nodeSep)))
      show top + n.2.height / 2 + n.2.height / 2 + nodeSep =
        top + (n.2.height + nodeSep) + m.2.height / 2 - m.2.height / 2
      ring

/-- The first box of a stack begins at its top. -/
theorem top_of_head?_stack {p : V × Box Rat}
    (h : p ∈ (stack nodeSep centre top column).head?) : p.2.area.top = top := by
  cases column with
  | nil => cases h
  | cons n rest =>
    obtain rfl := Option.some.inj h
    show top + n.2.height / 2 - n.2.height / 2 = top
    ring

/-- The last box of a stack ends at its height below the top. -/
theorem bottom_of_getLast?_stack {q : V × Box Rat}
    (h : q ∈ (stack nodeSep centre top column).getLast?) :
    q.2.area.bottom = top + columnHeight nodeSep column := by
  induction column generalizing top with
  | nil => cases h
  | cons n rest ih =>
    cases rest with
    | nil =>
      obtain rfl := Option.some.inj h
      rw [columnHeight_singleton]
      show top + n.2.height / 2 + n.2.height / 2 = top + n.2.height
      ring
    | cons m rest =>
      have hlast : q ∈ (stack nodeSep centre (top + (n.2.height + nodeSep))
        (m :: rest)).getLast? := h
      rw [ih hlast, columnHeight_cons_cons]
      ring

theorem columnHeight_nonneg (hsep : 0 ≤ nodeSep) (hheight : ∀ n ∈ column, 0 ≤ n.2.height) :
    0 ≤ columnHeight nodeSep column := by
  rw [columnHeight, total_eq_sum]
  refine add_nonneg (List.sum_nonneg fun a ha => ?_) (mul_nonneg hsep (Nat.cast_nonneg _))
  obtain ⟨n, hn, rfl⟩ := List.mem_map.1 ha
  exact hheight n hn

/-- No box of a stack ends below the last one. -/
theorem bottom_le_of_mem_stack (hsep : 0 ≤ nodeSep) (hheight : ∀ n ∈ column, 0 ≤ n.2.height)
    {p : V × Box Rat} (h : p ∈ stack nodeSep centre top column) :
    p.2.area.bottom ≤ top + columnHeight nodeSep column := by
  induction column generalizing top with
  | nil => cases h
  | cons n rest ih =>
    have hrest : ∀ m ∈ rest, 0 ≤ m.2.height := fun m hm => hheight m (.tail _ hm)
    have hfirst : top + n.2.height / 2 + n.2.height / 2 = top + n.2.height := by ring
    cases rest with
    | nil =>
      obtain rfl := List.mem_singleton.1 h
      rw [columnHeight_singleton]
      exact hfirst.le
    | cons m rest =>
      have hnonneg := columnHeight_nonneg hsep hrest
      rw [columnHeight_cons_cons]
      rcases List.mem_cons.1 h with rfl | h
      · show top + n.2.height / 2 + n.2.height / 2 ≤ _
        linarith
      · have hlater := ih hrest h
        linarith

end

theorem map_layerHeight_boxColumns (config : Config Rat) (tallest left : Rat)
    (columns : List (Column V Rat)) :
    (boxColumns config tallest left columns).map (layerHeight config.nodeSep) =
      columns.map (columnHeight config.nodeSep) := by
  induction columns generalizing left with
  | nil => rfl
  | cons column rest ih => rw [boxColumns, List.map_cons, List.map_cons, ih, layerHeight_stack]

/-! ### The layers of a placement -/

variable [DecidableEq V] {config : Config Rat} {g : FlowGraph V Rat}

/-- The height of the tallest layer of a placement. -/
def tallestHeight (config : Config Rat) (g : FlowGraph V Rat) : Rat :=
  largest (whole 0) ((solvedColumns config g).map (layerHeight config.nodeSep))

/-- Each layer of a placement is a stack of sized nodes, centred on the tallest one. -/
theorem exists_centred_stack {layer : List (V × Box Rat)} (h : layer ∈ solvedColumns config g) :
    ∃ vs centre, layer = stack config.nodeSep centre
      (half (tallestHeight config g - columnHeight config.nodeSep (sized g vs))) (sized g vs) := by
  rw [tallestHeight, solvedColumns, map_layerHeight_boxColumns]
  obtain ⟨column, hcolumn, centre, hstack⟩ := exists_stack_of_mem_boxColumns h
  obtain ⟨vs, -, rfl⟩ := List.mem_map.1 hcolumn
  exact ⟨vs, centre, hstack⟩

/-- A placement has no empty layer. -/
theorem ne_nil_of_mem_solvedColumns {layer : List (V × Box Rat)}
    (h : layer ∈ solvedColumns config g) : layer ≠ [] := by
  rintro rfl
  have hmem : [] ∈ orderedColumns config.sweeps g.digraph.acyclic := by
    rw [← map_fst_solvedColumns]
    exact List.mem_map.2 ⟨[], h, rfl⟩
  obtain ⟨i, hi, hnil⟩ := List.getElem_of_mem hmem
  have hreordered := columns_reordered config g
  have hi' : i < g.digraph.acyclic.columns.length := hreordered.length_eq ▸ hi
  have hperm : g.digraph.acyclic.columns[i].Perm [] := hnil ▸ hreordered.get hi' hi
  exact (Digraph.columnsOf_sublist (List.getElem_mem hi')).2 hperm.eq_nil

theorem rank_of_mem_solvedColumns {i : Nat} (hi : i < (solvedColumns config g).length)
    {p : V × Box Rat} (hp : p ∈ (solvedColumns config g)[i]) :
    g.digraph.acyclic.rank p.1 = i := by
  have hreordered := columns_reordered config g
  rw [← map_fst_solvedColumns] at hreordered
  have hi' : i < ((solvedColumns config g).map (·.map (·.1))).length := by rwa [List.length_map]
  refine ((hreordered.mem_getElem_iff hi').1 ?_).2
  rw [List.getElem_map]
  exact List.mem_map_of_mem hp

/-- A layer of a placement holds the boxes of one rank. -/
theorem mem_solvedColumns_getElem_iff {i : Nat} (hi : i < (solvedColumns config g).length)
    {p : V × Box Rat} :
    p ∈ (solvedColumns config g)[i] ↔
      p ∈ solve config g ∧ g.digraph.acyclic.rank p.1 = i := by
  rw [solve_eq_flatten]
  constructor
  · intro hp
    exact ⟨List.mem_flatten.2 ⟨_, List.getElem_mem hi, hp⟩, rank_of_mem_solvedColumns hi hp⟩
  · rintro ⟨hp, rfl⟩
    obtain ⟨_, hlayer, hp⟩ := List.mem_flatten.1 hp
    obtain ⟨j, hj, rfl⟩ := List.getElem_of_mem hlayer
    simpa only [rank_of_mem_solvedColumns hj hp] using hp

/-- Every node has one box of its size. -/
theorem map_size_solve_perm (config : Config Rat) (g : FlowGraph V Rat) :
    ((solve config g).map fun p => (p.1, Size.mk p.2.width p.2.height)).Perm g.nodes := by
  have hids : ((solve config g).map fun p => (p.1, Size.mk p.2.width p.2.height)).map (·.1) =
      (solve config g).map (·.1) := by
    rw [List.map_map]
    rfl
  have hnodup : ((solve config g).map fun p => (p.1, Size.mk p.2.width p.2.height)).Nodup :=
    .of_map (·.1) (hids ▸ nodup_solve config g)
  refine (List.subperm_of_subset hnodup fun n hn => ?_).perm_of_length_le ?_
  · obtain ⟨p, hp, rfl⟩ := List.mem_map.1 hn
    exact mem_nodes_of_lookup_solve (Table.lookup_eq_some_of_mem (nodup_solve config g) hp)
  · have hlength := (map_fst_solve_perm config g).length_eq
    rw [List.length_map, FlowGraph.ids, List.length_map] at hlength
    rw [List.length_map, hlength]

/-- No box stands above the origin, or below the height of the tallest layer. -/
theorem mem_solve_within (hheight : ∀ n ∈ g.nodes, 0 ≤ n.2.height) (hsep : 0 ≤ config.nodeSep)
    {p : V × Box Rat} (hp : p ∈ solve config g) :
    0 ≤ p.2.area.top ∧ p.2.area.bottom ≤ tallestHeight config g := by
  rw [solve_eq_flatten] at hp
  obtain ⟨layer, hlayer, hp⟩ := List.mem_flatten.1 hp
  obtain ⟨vs, centre, rfl⟩ := exists_centred_stack hlayer
  have hcolumn : ∀ n ∈ sized g vs, 0 ≤ n.2.height := fun n hn => sized_nonneg rfl hheight hn
  have htallest : columnHeight config.nodeSep (sized g vs) ≤ tallestHeight config g := by
    rw [← layerHeight_stack config.nodeSep centre
      (half (tallestHeight config g - columnHeight config.nodeSep (sized g vs)))]
    exact le_largest (List.mem_map_of_mem hlayer) _
  have htop := top_le_of_mem_stack hsep hcolumn hp
  have hbottom := bottom_le_of_mem_stack hsep hcolumn hp
  rw [half_eq] at htop hbottom
  constructor
  · show 0 ≤ p.2.y - p.2.height / 2
    linarith
  · linarith

/-- No two boxes of a placement overlap. -/
theorem solve_disjoint (hwidth : ∀ n ∈ g.nodes, 0 ≤ n.2.width)
    (hheight : ∀ n ∈ g.nodes, 0 ≤ n.2.height) (hnode : 0 ≤ config.nodeSep)
    (hrank : 0 ≤ config.rankSep) :
    (solve config g).Pairwise fun p q => ¬ p.2.area.Overlaps q.2.area := by
  rw [solve_eq_flatten, List.pairwise_flatten]
  constructor
  · -- within a layer, one box is above the other
    intro layer hlayer
    obtain ⟨vs, centre, rfl⟩ := exists_centred_stack hlayer
    refine (stack_pairwise hnode centre _ fun n hn => sized_nonneg rfl hheight hn).imp
      fun {p q} hbelow => Area.not_overlaps_of_bottom_le ?_
    show p.2.y + p.2.height / 2 ≤ q.2.y - q.2.height / 2
    linarith
  · -- one layer is left of the other
    refine (solvedColumns_pairwise hwidth hrank).imp fun {_ _} hapart p hp q hq => ?_
    have hright : p.2.rightEdge + config.rankSep ≤ q.2.x - q.2.width / 2 := hapart p hp q hq
    refine Area.not_overlaps_of_right_le ?_
    show p.2.rightEdge ≤ q.2.x - q.2.width / 2
    linarith

/-- **Even spacing**: the boxes of a placement do not overlap, the nodes of a rank share one centre
line, and the layers are stacks at the distance between nodes, centred on the tallest of them. -/
theorem solve_evenlySpaced (hwidth : ∀ n ∈ g.nodes, 0 ≤ n.2.width)
    (hheight : ∀ n ∈ g.nodes, 0 ≤ n.2.height) (hnode : 0 ≤ config.nodeSep)
    (hrank : 0 ≤ config.rankSep) : ∃ layers height, EvenlySpaced config g layers height := by
  have hlookup {p : V × Box Rat} (hp : p ∈ solve config g) :
      (solve config g).lookup p.1 = some p.2 :=
    Table.lookup_eq_some_of_mem (nodup_solve config g) hp
  have hid {p : V × Box Rat} (hp : p ∈ solve config g) : p.1 ∈ g.ids :=
    (map_fst_solve_perm config g).mem_iff.1 (List.mem_map_of_mem hp)
  refine ⟨solvedColumns config g, tallestHeight config g, (solve_eq_flatten config g).symm,
    map_fst_solvedColumns config g, fun _ hi _ => mem_solvedColumns_getElem_iff hi,
    map_size_solve_perm config g, solve_disjoint hwidth hheight hnode hrank, ?aligned,
    fun _ => ne_nil_of_mem_solvedColumns, ?spaced, ?tallest, ?centred, ?inside⟩
  case aligned =>
    intro p hp q hq heq
    by_cases hne : p.1 = q.1
    · have hpq := hlookup hp
      rw [hne, hlookup hq] at hpq
      rw [Option.some.inj hpq]
    · obtain ⟨a, b, ha, hb, hx, -⟩ := solve_stacked hheight hnode (hid hp) (hid hq) hne heq
      rw [hlookup hp] at ha
      rw [hlookup hq] at hb
      rwa [Option.some.inj ha, Option.some.inj hb]
  case spaced =>
    intro layer hlayer
    obtain ⟨vs, centre, rfl⟩ := exists_centred_stack hlayer
    exact isChain_stack ..
  case tallest =>
    intro hne
    constructor
    · exact List.mem_map.1 (largest_mem (mt List.map_eq_nil_iff.1 hne) _)
    · rintro _ ⟨layer, hlayer, rfl⟩
      exact le_largest (List.mem_map_of_mem hlayer) _
  case centred =>
    intro layer hlayer p hp q hq
    obtain ⟨vs, centre, rfl⟩ := exists_centred_stack hlayer
    rw [top_of_head?_stack hp, bottom_of_getLast?_stack hq, half_eq]
    ring
  case inside =>
    intro p hp
    exact ⟨solve_nonneg hwidth hrank (hlookup hp), mem_solve_within hheight hnode hp⟩

/-- Two layers of boxes of different sizes, one of them flat, with edges that lead back and on to an
unknown node. -/
def branches : FlowGraph Nat Rat where
  nodes := [(0, ⟨50, 50⟩), (1, ⟨140, 60⟩), (2, ⟨60, 70⟩), (3, ⟨30, 0⟩), (4, ⟨140, 60⟩)]
  edges := [(0, 1), (0, 2), (2, 0), (0, 3), (3, 3), (4, 9)]
  nodup_ids := by decide

theorem solve_evenlySpaced_branches :
    (∀ n ∈ branches.nodes, 0 ≤ n.2.width) ∧ (∀ n ∈ branches.nodes, 0 ≤ n.2.height) ∧
      (0 : Rat) ≤ (Config.standard : Config Rat).nodeSep ∧
      (0 : Rat) ≤ (Config.standard : Config Rat).rankSep ∧
      ∃ layers height, EvenlySpaced .standard branches layers height := by
  have hwidth : ∀ n ∈ branches.nodes, 0 ≤ n.2.width := by decide
  have hheight : ∀ n ∈ branches.nodes, 0 ≤ n.2.height := by decide
  have hnode : (0 : Rat) ≤ (Config.standard : Config Rat).nodeSep := by decide
  have hrank : (0 : Rat) ≤ (Config.standard : Config Rat).rankSep := by decide
  exact ⟨hwidth, hheight, hnode, hrank, solve_evenlySpaced hwidth hheight hnode hrank⟩

end Layered

end Swimlane
