import Swimlane.Flow.Layered
import Swimlane.Proofs.Flow.Breaking
import Swimlane.Proofs.Flow.Rank
import Swimlane.Proofs.Flow.Sweep
import Swimlane.Proofs.Scalar.Exact

/-!
# Placed columns

- `Layered.boxColumns`: the boxes of a placement, column by column.
- `Layered.map_fst_solve_perm`, `Layered.mem_nodes_of_lookup_solve`: every node of the graph is
  placed once, in its own size, in any arithmetic.
- `Layered.boxColumns_pairwise`: exactly computed, the boxes of a column lie left of those of every
  later column, at the distance that is asked for.
- `Layered.stack_pairwise`: each box of a column lies above the later ones.
-/

namespace Swimlane.Layered

open Scalar

/-! ### Which nodes are placed -/

section

variable {V α : Type} [Scalar α]

/-- The boxes of columns that are placed one after another, the first at `left`. -/
def boxColumns (config : Config α) (tallest : α) : α → List (Column V α) → List (List (V × Box α))
  | _, [] => []
  | left, column :: rest =>
    stack config.nodeSep (left + half (columnWidth column))
        (half (tallest - columnHeight config.nodeSep column)) column ::
      boxColumns config tallest (left + (columnWidth column + config.rankSep)) rest

theorem placeFrom_eq_flatten (config : Config α) (tallest left : α) (columns : List (Column V α)) :
    placeFrom config tallest left columns = (boxColumns config tallest left columns).flatten := by
  induction columns generalizing left with
  | nil => rfl
  | cons column rest ih => rw [placeFrom, boxColumns, List.flatten_cons, ih]

theorem map_fst_stack (nodeSep centre top : α) (column : Column V α) :
    (stack nodeSep centre top column).map (·.1) = column.map (·.1) := by
  induction column generalizing top with
  | nil => rfl
  | cons n rest ih => rw [stack, List.map_cons, List.map_cons, ih]

theorem map_fst_boxColumns (config : Config α) (tallest left : α) (columns : List (Column V α)) :
    (boxColumns config tallest left columns).map (·.map (·.1)) =
      columns.map (·.map (·.1)) := by
  induction columns generalizing left with
  | nil => rfl
  | cons column rest ih => rw [boxColumns, List.map_cons, List.map_cons, ih, map_fst_stack]

/-- Columns that are placed are stacks, each centred on the height of the tallest. -/
theorem exists_stack_of_mem_boxColumns {config : Config α} {tallest left : α}
    {columns : List (Column V α)} {boxes : List (V × Box α)}
    (h : boxes ∈ boxColumns config tallest left columns) :
    ∃ column ∈ columns, ∃ centre, boxes =
      stack config.nodeSep centre (half (tallest - columnHeight config.nodeSep column)) column := by
  induction columns generalizing left with
  | nil => cases h
  | cons column rest ih =>
    rcases List.mem_cons.1 h with rfl | h
    · exact ⟨column, .head _, _, rfl⟩
    · obtain ⟨column', hcolumn, hstack⟩ := ih h
      exact ⟨column', .tail _ hcolumn, hstack⟩

/-- A stacked box stands on the centre line, in the size of its node. -/
theorem mem_stack {nodeSep centre top : α} {column : Column V α} {v : V} {b : Box α}
    (h : (v, b) ∈ stack nodeSep centre top column) :
    b.x = centre ∧ (v, ⟨b.width, b.height⟩) ∈ column := by
  induction column generalizing top with
  | nil => cases h
  | cons n rest ih =>
    rcases List.mem_cons.1 h with heq | h
    · obtain ⟨rfl, rfl⟩ := Prod.mk.inj heq
      exact ⟨rfl, .head _⟩
    · exact ⟨(ih h).1, .tail _ (ih h).2⟩

variable [DecidableEq V]

/-- The boxes of the placement of a graph, column by column. -/
def solvedColumns (config : Config α) (g : FlowGraph V α) : List (List (V × Box α)) :=
  let columns := (orderedColumns config.sweeps g.digraph.acyclic).map (sized g)
  boxColumns config (largest (whole 0) (columns.map (columnHeight config.nodeSep))) (whole 0) columns

theorem solve_eq_flatten (config : Config α) (g : FlowGraph V α) :
    solve config g = (solvedColumns config g).flatten :=
  placeFrom_eq_flatten _ _ _ _

theorem map_fst_sized (g : FlowGraph V α) (column : List V) :
    (sized g column).map (·.1) = column := by
  simp [sized, Function.comp_def]

theorem map_fst_solvedColumns (config : Config α) (g : FlowGraph V α) :
    (solvedColumns config g).map (·.map (·.1)) =
      orderedColumns config.sweeps g.digraph.acyclic := by
  simp [solvedColumns, map_fst_boxColumns, map_fst_sized, Function.comp_def]

omit [Scalar α] in
/-- The ordered columns hold every node of the graph once. -/
theorem flatten_orderedColumns_perm (sweeps : Int) (g : FlowGraph V α) :
    (orderedColumns sweeps g.digraph.acyclic).flatten.Perm g.ids := by
  have hcolumns : g.digraph.acyclic.columns.flatten.Perm g.digraph.acyclic.nodes :=
    Digraph.columns_flatten_perm _
  rw [Digraph.nodes_acyclic] at hcolumns
  exact (Digraph.ordered_reordered _ _ _).flatten_perm.symm.trans hcolumns

/-- Every node of the graph is placed once. -/
theorem map_fst_solve_perm (config : Config α) (g : FlowGraph V α) :
    ((solve config g).map (·.1)).Perm g.ids := by
  rw [solve_eq_flatten, List.map_flatten, map_fst_solvedColumns]
  exact flatten_orderedColumns_perm config.sweeps g

theorem nodup_solve (config : Config α) (g : FlowGraph V α) :
    ((solve config g).map (·.1)).Nodup :=
  (map_fst_solve_perm config g).nodup_iff.2 g.nodup_ids

/-- A box of a column is what is found for its node. -/
theorem lookup_solve_of_mem {config : Config α} {g : FlowGraph V α} {boxes : List (V × Box α)}
    (hboxes : boxes ∈ solvedColumns config g) {v : V} {b : Box α} (hb : (v, b) ∈ boxes) :
    (solve config g).lookup v = some b := by
  refine Table.lookup_eq_some_of_mem (nodup_solve config g) ?_
  rw [solve_eq_flatten]
  exact List.mem_flatten_of_mem hboxes hb

/-- Each column that is placed is a stack of nodes with their sizes. -/
theorem exists_stack_of_mem_solvedColumns {config : Config α} {g : FlowGraph V α}
    {boxes : List (V × Box α)} (hboxes : boxes ∈ solvedColumns config g) :
    ∃ centre top column, boxes = stack config.nodeSep centre top (sized g column) := by
  obtain ⟨_, hcolumn, centre, hstack⟩ := exists_stack_of_mem_boxColumns hboxes
  obtain ⟨column, -, rfl⟩ := List.mem_map.1 hcolumn
  exact ⟨centre, _, column, hstack⟩

theorem mem_nodes_of_mem_sized {g : FlowGraph V α} {column : List V} {v : V} {size : Size α}
    (h : (v, size) ∈ sized g column) (hv : v ∈ g.ids) : (v, size) ∈ g.nodes := by
  obtain ⟨_, -, heq⟩ := List.mem_map.1 h
  obtain ⟨rfl, rfl⟩ := Prod.mk.inj heq
  obtain ⟨⟨_, size⟩, hnode, rfl⟩ := List.mem_map.1 hv
  rw [Table.lookup_eq_some_of_mem g.nodup_ids hnode]
  exact hnode

/-- A node is placed in its own size. -/
theorem mem_nodes_of_lookup_solve {config : Config α} {g : FlowGraph V α} {v : V} {b : Box α}
    (h : (solve config g).lookup v = some b) : (v, ⟨b.width, b.height⟩) ∈ g.nodes := by
  have hmem := Table.mem_of_lookup_eq_some h
  have hv : v ∈ g.ids := (map_fst_solve_perm config g).mem_iff.1 (List.mem_map_of_mem hmem)
  rw [solve_eq_flatten] at hmem
  obtain ⟨boxes, hboxes, hb⟩ := List.mem_flatten.1 hmem
  obtain ⟨_, _, column, rfl⟩ := exists_stack_of_mem_solvedColumns hboxes
  exact mem_nodes_of_mem_sized (mem_stack hb).2 hv

end

/-! ### Where columns are placed, exactly computed -/

section

variable {V : Type} {config : Config Rat}

theorem le_columnWidth {column : Column V Rat} {v : V} {size : Size Rat}
    (h : (v, size) ∈ column) : size.width ≤ columnWidth column := by
  have hmem : size.width ∈ column.map (·.2.width) := List.mem_map.2 ⟨_, h, rfl⟩
  rw [columnWidth]
  exact le_largest hmem (whole 0)

/-- The boxes of a column stay between its sides. -/
theorem stack_within {nodeSep left top : Rat} {column : Column V Rat} {v : V} {b : Box Rat}
    (h : (v, b) ∈ stack nodeSep (left + half (columnWidth column)) top column) :
    left ≤ b.x - b.width / 2 ∧ b.rightEdge ≤ left + columnWidth column := by
  obtain ⟨hx, hmem⟩ := mem_stack h
  have hwidth : b.width ≤ columnWidth column := le_columnWidth hmem
  have hright : b.rightEdge = b.x + b.width / 2 := rfl
  have hcentre : b.x = left + columnWidth column / 2 := hx
  constructor
  · linarith
  · linarith

/-- The boxes of a stack lie below its top. -/
theorem top_le_of_mem_stack {nodeSep centre top : Rat} (hsep : 0 ≤ nodeSep) {column : Column V Rat}
    (hheight : ∀ n ∈ column, 0 ≤ n.2.height) {v : V} {b : Box Rat}
    (h : (v, b) ∈ stack nodeSep centre top column) : top ≤ b.y - b.height / 2 := by
  induction column generalizing top with
  | nil => cases h
  | cons n rest ih =>
    rcases List.mem_cons.1 h with heq | h
    · obtain ⟨rfl, rfl⟩ := Prod.mk.inj heq
      show top ≤ top + n.2.height / 2 - n.2.height / 2
      linarith
    · have hn := hheight n (.head _)
      have hnext := ih (fun m hm => hheight m (.tail _ hm)) h
      linarith

/-- In a stack, each box lies above the later ones, at the distance between nodes. -/
theorem stack_pairwise {nodeSep : Rat} (hsep : 0 ≤ nodeSep) (centre top : Rat)
    {column : Column V Rat} (hheight : ∀ n ∈ column, 0 ≤ n.2.height) :
    (stack nodeSep centre top column).Pairwise fun p q =>
      p.2.y + p.2.height / 2 + nodeSep ≤ q.2.y - q.2.height / 2 := by
  induction column generalizing top with
  | nil => exact .nil
  | cons n rest ih =>
    have hrest : ∀ m ∈ rest, 0 ≤ m.2.height := fun m hm => hheight m (.tail _ hm)
    refine .cons (fun q hq => ?_) (ih _ hrest)
    have hbelow := top_le_of_mem_stack hsep hrest hq
    show top + n.2.height / 2 + n.2.height / 2 + nodeSep ≤ q.2.y - q.2.height / 2
    linarith

/-- The boxes of columns lie right of the first column's left side. -/
theorem left_le_of_mem_boxColumns (hsep : 0 ≤ config.rankSep) {tallest left : Rat}
    {columns : List (Column V Rat)} (hwidth : ∀ column ∈ columns, ∀ n ∈ column, 0 ≤ n.2.width)
    {boxes : List (V × Box Rat)} (hboxes : boxes ∈ boxColumns config tallest left columns)
    {v : V} {b : Box Rat} (hb : (v, b) ∈ boxes) : left ≤ b.x - b.width / 2 := by
  induction columns generalizing left with
  | nil => cases hboxes
  | cons column rest ih =>
    rcases List.mem_cons.1 hboxes with rfl | hboxes
    · exact (stack_within hb).1
    · have hcolumn : 0 ≤ columnWidth column := largest_nonneg fun w hw => by
        obtain ⟨n, hn, rfl⟩ := List.mem_map.1 hw
        exact hwidth column (.head _) n hn
      have hnext := ih (fun c hc => hwidth c (.tail _ hc)) hboxes
      linarith

/-- The boxes of a column lie left of those of every later column, at the distance between
columns. -/
theorem boxColumns_pairwise (hsep : 0 ≤ config.rankSep) (tallest left : Rat)
    {columns : List (Column V Rat)} (hwidth : ∀ column ∈ columns, ∀ n ∈ column, 0 ≤ n.2.width) :
    (boxColumns config tallest left columns).Pairwise fun p q =>
      ∀ a ∈ p, ∀ b ∈ q, a.2.rightEdge + config.rankSep ≤ b.2.x - b.2.width / 2 := by
  induction columns generalizing left with
  | nil => exact .nil
  | cons column rest ih =>
    have hrest : ∀ c ∈ rest, ∀ n ∈ c, 0 ≤ n.2.width := fun c hc => hwidth c (.tail _ hc)
    -- a box ends at the right side of its column, and the later ones begin `rankSep` behind it
    refine .cons (fun q hq a ha b hb => ?_) (ih _ hrest)
    have hright := (stack_within ha).2
    have hleft := left_le_of_mem_boxColumns hsep hrest hq hb
    linarith

variable [DecidableEq V] {g : FlowGraph V Rat}

theorem sized_nonneg {length : Size Rat → Rat} (hzero : length ⟨whole 0, whole 0⟩ = 0)
    (hlength : ∀ n ∈ g.nodes, 0 ≤ length n.2) {column : List V} {n : V × Size Rat}
    (hn : n ∈ sized g column) : 0 ≤ length n.2 := by
  obtain ⟨v, -, rfl⟩ := List.mem_map.1 hn
  cases h : g.nodes.lookup v with
  | none => exact hzero.ge
  | some size => exact hlength _ (Table.mem_of_lookup_eq_some h)

theorem solvedColumns_pairwise (hwidth : ∀ n ∈ g.nodes, 0 ≤ n.2.width)
    (hsep : 0 ≤ config.rankSep) :
    (solvedColumns config g).Pairwise fun p q =>
      ∀ a ∈ p, ∀ b ∈ q, a.2.rightEdge + config.rankSep ≤ b.2.x - b.2.width / 2 := by
  refine boxColumns_pairwise hsep _ _ fun column hcolumn n hn => ?_
  obtain ⟨_, -, rfl⟩ := List.mem_map.1 hcolumn
  exact sized_nonneg rfl hwidth hn

/-- Nothing is placed left of the origin. -/
theorem solve_nonneg (hwidth : ∀ n ∈ g.nodes, 0 ≤ n.2.width) (hsep : 0 ≤ config.rankSep) {v : V}
    {b : Box Rat} (h : (solve config g).lookup v = some b) : 0 ≤ b.x - b.width / 2 := by
  have hmem := Table.mem_of_lookup_eq_some h
  rw [solve_eq_flatten] at hmem
  obtain ⟨boxes, hboxes, hb⟩ := List.mem_flatten.1 hmem
  refine left_le_of_mem_boxColumns hsep (fun column hcolumn n hn => ?_) hboxes hb
  obtain ⟨_, -, rfl⟩ := List.mem_map.1 hcolumn
  exact sized_nonneg rfl hwidth hn

/-- Two nodes of one column stand on its centre line, one above the other at the distance between
nodes. -/
theorem solvedColumn_apart (hheight : ∀ n ∈ g.nodes, 0 ≤ n.2.height) (hsep : 0 ≤ config.nodeSep)
    {boxes : List (V × Box Rat)} (hboxes : boxes ∈ solvedColumns config g) {u v : V} {a b : Box Rat}
    (ha : (u, a) ∈ boxes) (hb : (v, b) ∈ boxes) (hne : u ≠ v) :
    a.x = b.x ∧ (a.y + a.height / 2 + config.nodeSep ≤ b.y - b.height / 2 ∨
      b.y + b.height / 2 + config.nodeSep ≤ a.y - a.height / 2) := by
  obtain ⟨centre, top, column, rfl⟩ := exists_stack_of_mem_solvedColumns hboxes
  have hnonneg : ∀ n ∈ sized g column, 0 ≤ n.2.height := fun n hn => sized_nonneg rfl hheight hn
  have hpairwise := stack_pairwise hsep centre top hnonneg
  refine ⟨(mem_stack ha).1.trans (mem_stack hb).1.symm, ?_⟩
  -- either of the two may come first
  exact rel_or_rel_of_pairwise hpairwise ha hb fun h => hne (congrArg Prod.fst h)

end

end Swimlane.Layered
