import Mathlib.Algebra.BigOperators.Ring.List
import Mathlib.Algebra.Order.BigOperators.Group.List
import Mathlib.Algebra.Order.Field.Basic
import Mathlib.Algebra.Order.Field.Rat
import Mathlib.Data.List.Basic
import Mathlib.Data.Nat.Cast.Order.Field
import Swimlane.Proofs.Flow.Sweep

/-!
# Sorting a column

A column is sorted by means that are compared as fractions. Told by the values of the means, this is
the stable sort of the column, so nodes that stand in order already keep their order.

- `Mean.value`, `Mean.le_iff`: a mean as a rational, by which means are compared.
- `Digraph.sortKey`: the value that a node is sorted by.
- `Digraph.sortColumn_eq_mergeSort`: a sorted column is its stable sort by these values.
- `Digraph.filter_sortColumn`: some nodes of a column that are in order keep their order.
- `Digraph.pairwise_sortColumn`: a sorted column is in order.
- `Digraph.value_meanPosition_le`, `Digraph.value_meanPosition_lt`: where all neighbours of one node
  stand before those of another, so do their means.
-/

namespace Swimlane

/-- The value of a mean. -/
def Mean.value (m : Mean) : Rat := m.total / m.count

/-- Means of one number or more are compared by their values. -/
theorem Mean.le_iff {a b : Mean} (ha : 0 < a.count) (hb : 0 < b.count) :
    a.le b = true ↔ a.value ≤ b.value := by
  have ha' : (0 : Rat) < a.count := Nat.cast_pos.2 ha
  have hb' : (0 : Rat) < b.count := Nat.cast_pos.2 hb
  rw [Mean.le, decide_eq_true_eq, value, value, div_le_div_iff₀ ha' hb']
  norm_cast

/-- Where no number of one list is above one of another, neither is the mean. -/
theorem sum_mul_length_le {xs ys : List Nat} (h : ∀ x ∈ xs, ∀ y ∈ ys, x ≤ y) :
    xs.sum * ys.length ≤ ys.sum * xs.length := by
  induction xs with
  | nil => simp
  | cons x xs ih =>
    have hx : ys.length * x ≤ ys.sum := List.card_nsmul_le_sum ys x (h x (.head _))
    have hxs := ih fun a ha => h a (.tail _ ha)
    rw [List.sum_cons, List.length_cons, Nat.add_mul, Nat.mul_add, Nat.mul_one, Nat.mul_comm x]
    omega

/-- Where besides some number of the one is below one of the other, the mean is less. -/
theorem sum_mul_length_lt {xs ys : List Nat} (h : ∀ x ∈ xs, ∀ y ∈ ys, x ≤ y)
    (hlt : ∃ x ∈ xs, ∃ y ∈ ys, x < y) : xs.sum * ys.length < ys.sum * xs.length := by
  obtain ⟨x, hx, y, hy, hxy⟩ := hlt
  -- each item of `xs`, taken as often as there are items of `ys`, is at most their sum
  have hle : ∀ a ∈ xs, a * ys.length ≤ ys.sum := by
    intro a ha
    simpa [Nat.mul_comm] using List.card_nsmul_le_sum ys a (h a ha)
  have hless : x * ys.length < ys.sum := by
    simpa [Nat.mul_comm] using List.sum_lt_sum (fun _ => x) id (h x hx) ⟨y, hy, hxy⟩
  have hsum := List.sum_lt_sum (fun a => a * ys.length) (fun _ => ys.sum) hle ⟨x, hx, hless⟩
  simpa [List.sum_map_mul_right, Nat.mul_comm] using hsum

/-- A stable sort does not disturb items that are in order already. -/
theorem filter_mergeSort {α : Type} {le : α → α → Bool} {p : α → Bool} {l : List α}
    (trans : ∀ a b c, le a b = true → le b c = true → le a c = true)
    (total : ∀ a b, (le a b || le b a) = true)
    (h : (l.filter p).Pairwise fun a b => le a b = true) :
    (l.mergeSort le).filter p = l.filter p := by
  have hsublist : (l.filter p).Sublist ((l.mergeSort le).filter p) := by
    have hsorted := (List.sublist_mergeSort trans total h List.filter_sublist).filter p
    rwa [List.filter_filter, List.filter_congr fun a _ => Bool.and_self (p a)] at hsorted
  have hlength := ((List.mergeSort_perm l le).filter p).length_eq
  exact (hsublist.eq_of_length hlength.symm).symm

namespace Digraph

variable {V : Type} [DecidableEq V] {columns : List (List V)} {neighbours : V → List V}

theorem count_meanPosition_pos (columns : List (List V)) (us : List V) (own : Nat) :
    0 < (meanPosition columns us own).count := by
  unfold meanPosition
  split
  · exact Nat.one_pos
  · next hne => exact List.length_pos_iff.2 hne

/-- The value that a node of a column is sorted by: the mean position of its neighbours, or its own
position if it has none. -/
def sortKey (columns : List (List V)) (neighbours : V → List V) (column : List V) (v : V) : Rat :=
  (meanPosition columns (neighbours v) (column.idxOf v)).value

/-- A sorted column is the stable sort of the column by the values of the means. -/
theorem sortColumn_eq_mergeSort {column : List V} (h : column.Nodup) :
    sortColumn columns neighbours column = column.mergeSort fun u v =>
      sortKey columns neighbours column u ≤ sortKey columns neighbours column v := by
  let keyed := column.zipIdx.map fun p => (meanPosition columns (neighbours p.1) p.2, p.1)
  let le (u v : V) : Bool :=
    sortKey columns neighbours column u ≤ sortKey columns neighbours column v
  have hkey : ∀ a ∈ keyed, a.1 = meanPosition columns (neighbours a.2) (column.idxOf a.2) := by
    intro a ha
    obtain ⟨⟨v, i⟩, hmem, rfl⟩ := List.mem_map.1 ha
    obtain ⟨-, hi, hv⟩ := List.mem_zipIdx hmem
    rw [Nat.zero_add] at hi
    have hindex : column.idxOf v = i := by
      rw [hv]
      exact h.idxOf_getElem i hi
    rw [hindex]
  have hle : ∀ a ∈ keyed, ∀ b ∈ keyed, a.1.le b.1 = le a.2 b.2 := by
    intro a ha b hb
    rw [Bool.eq_iff_iff, decide_eq_true_eq, hkey a ha, hkey b hb]
    exact Mean.le_iff (count_meanPosition_pos ..) (count_meanPosition_pos ..)
  have hnodes : keyed.map (·.2) = column := by
    rw [List.map_map]
    exact List.zipIdx_map_fst 0 column
  show (keyed.mergeSort fun a b => a.1.le b.1).map (·.2) = column.mergeSort le
  rw [List.map_mergeSort hle, hnodes]

omit [DecidableEq V] in
theorem trans_of_key (key : V → Rat) (u v w : V) (huv : decide (key u ≤ key v) = true)
    (hvw : decide (key v ≤ key w) = true) : decide (key u ≤ key w) = true :=
  decide_eq_true ((of_decide_eq_true huv).trans (of_decide_eq_true hvw))

omit [DecidableEq V] in
theorem total_of_key (key : V → Rat) (u v : V) :
    (decide (key u ≤ key v) || decide (key v ≤ key u)) = true := by
  rw [Bool.or_eq_true, decide_eq_true_eq, decide_eq_true_eq]
  exact le_total ..

/-- A sorted column is in order. -/
theorem pairwise_sortColumn {column : List V} (h : column.Nodup) :
    (sortColumn columns neighbours column).Pairwise fun u v =>
      sortKey columns neighbours column u ≤ sortKey columns neighbours column v := by
  rw [sortColumn_eq_mergeSort h]
  exact (List.pairwise_mergeSort (trans_of_key _) (total_of_key _) column).imp of_decide_eq_true

/-- Nodes of a column that stand in order keep their order. -/
theorem filter_sortColumn {column : List V} (h : column.Nodup) {p : V → Bool}
    (hp : (column.filter p).Pairwise fun u v =>
      sortKey columns neighbours column u ≤ sortKey columns neighbours column v) :
    (sortColumn columns neighbours column).filter p = column.filter p := by
  rw [sortColumn_eq_mergeSort h]
  exact filter_mergeSort (trans_of_key _) (total_of_key _) (hp.imp fun huv => decide_eq_true huv)

theorem map_position_le {us vs : List V}
    (h : ∀ u ∈ us, ∀ v ∈ vs, position columns u ≤ position columns v) :
    ∀ x ∈ us.map (position columns), ∀ y ∈ vs.map (position columns), x ≤ y := by
  intro x hx y hy
  obtain ⟨u, hu, rfl⟩ := List.mem_map.1 hx
  obtain ⟨v, hv, rfl⟩ := List.mem_map.1 hy
  exact h u hu v hv

/-- Where all neighbours of one node stand before those of another, or with them, so do the
means. -/
theorem value_meanPosition_le {us vs : List V} (hus : us ≠ []) (hvs : vs ≠ [])
    (h : ∀ u ∈ us, ∀ v ∈ vs, position columns u ≤ position columns v) (i j : Nat) :
    (meanPosition columns us i).value ≤ (meanPosition columns vs j).value := by
  rw [← Mean.le_iff (count_meanPosition_pos ..) (count_meanPosition_pos ..), meanPosition,
    meanPosition, if_neg hus, if_neg hvs, Mean.le, decide_eq_true_eq, ← List.sum_eq_foldl,
    ← List.sum_eq_foldl]
  have hmeans := sum_mul_length_le (map_position_le h)
  rwa [List.length_map, List.length_map] at hmeans

/-- Where besides some neighbour of the one stands before one of the other, the mean is less. -/
theorem value_meanPosition_lt {us vs : List V}
    (h : ∀ u ∈ us, ∀ v ∈ vs, position columns u ≤ position columns v)
    (hlt : ∃ u ∈ us, ∃ v ∈ vs, position columns u < position columns v) (i j : Nat) :
    (meanPosition columns us i).value < (meanPosition columns vs j).value := by
  obtain ⟨u, hu, v, hv, huv⟩ := hlt
  rw [← not_le, ← Mean.le_iff (count_meanPosition_pos ..) (count_meanPosition_pos ..), meanPosition,
    meanPosition, if_neg (List.ne_nil_of_mem hu), if_neg (List.ne_nil_of_mem hv), Mean.le,
    decide_eq_true_eq, ← List.sum_eq_foldl, ← List.sum_eq_foldl, not_le]
  have hmeans := sum_mul_length_lt (map_position_le h)
    ⟨_, List.mem_map_of_mem hu, _, List.mem_map_of_mem hv, huv⟩
  rwa [List.length_map, List.length_map] at hmeans

/-- The position of a node is that in its own column. -/
theorem position_eq_idxOf (hnodup : columns.flatten.Nodup) {column : List V}
    (hcolumn : column ∈ columns) {v : V} (hv : v ∈ column) :
    position columns v = column.idxOf v := by
  induction columns with
  | nil => cases hcolumn
  | cons first rest ih =>
    rw [List.flatten_cons, List.nodup_append] at hnodup
    rw [position, List.findSome?_cons]
    rcases List.mem_cons.1 hcolumn with rfl | hcolumn
    · obtain ⟨i, hi⟩ := Option.isSome_iff_exists.1 (List.isSome_idxOf?.2 hv)
      rw [List.idxOf_eq_getD_idxOf?, hi]
      rfl
    · have hnot : v ∉ first := fun hfirst =>
        hnodup.2.2 v hfirst v (List.mem_flatten_of_mem hcolumn hv) rfl
      rw [List.idxOf?_eq_none_iff.2 hnot]
      exact ih hnodup.2.1 hcolumn

end Digraph

end Swimlane
